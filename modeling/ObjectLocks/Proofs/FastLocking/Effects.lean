import ObjectLocks.Proofs.Effects
import ObjectLocks.Proofs.FastLocking.Operations

/-!
# Effects of fast-locking

Fast-locking makes, enters and claims monitors, and exits at most one of them at a time. An object
that has an entry in the table is never locked through its header, so no inflation finds a monitor
that was in use before.
-/

namespace ObjectLocks.FastLocking

open Machine

variable {m : Machine} {t : ThreadId} {o : ObjectId} {r : RecordId} {id : MonitorId}

/-- An unlocked header has no monitor bits. -/
lemma hasMonitor_of_isUnlocked {k : Mark} (h : k.isUnlocked = true) : k.hasMonitor = false := by
  simp only [Mark.isUnlocked, Mark.hasMonitor, beq_iff_eq] at h ⊢
  rw [h]
  rfl

/-- A locked header has no monitor bits. -/
lemma hasMonitor_of_isFastLocked {k : Mark} (h : k.isFastLocked = true) : k.hasMonitor = false := by
  simp only [Mark.isFastLocked, Mark.hasMonitor, beq_iff_eq] at h ⊢
  rw [h]
  rfl

/-- A change of a word puts no record into a header. -/
lemma mapWord_plain {k : Mark} (plain : ∀ r, k ≠ .record r) (f : LockWord → LockWord) :
    ∀ r, k.mapWord f ≠ .record r := by
  cases k with
  | record r => exact absurd rfl (plain r)
  | word _ | monitor _ => exact fun _ => nofun

/-- A header without the monitor bits may change to any word. -/
lemma fits_word {entry : Option MonitorId} {k : Mark} (fits : k.Fits entry)
    (none : k.hasMonitor = false) (f : LockWord → LockWord) : (k.mapWord f).Fits entry :=
  ⟨mapWord_plain fits.plain f, fun some => nomatch none.symm.trans (fits.shown some)⟩

/-- A header may always get the monitor bits. -/
lemma hasMonitor_mapWord {k : Mark} (plain : ∀ r, k ≠ .record r) :
    (k.mapWord .setMonitor).hasMonitor = true := by
  cases k with
  | word w =>
    show (w.withBits .monitor).bits == .monitor
    rw [LockWord.bits_withBits]
    rfl
  | record r => exact absurd rfl (plain r)
  | monitor id => rfl

/-- A monitor that is made for nobody counts no further enters. -/
lemma ownerAs_idle (m : Machine) (t : ThreadId) (o : ObjectId) (k : Mark)
    (nobody : (ownerAs m t o k).1 = .nobody) : (ownerAs m t o k).2 = 0 := by
  unfold ownerAs at nobody ⊢
  split
  next fast =>
    rw [if_pos fast] at nobody
    split at nobody <;> cases nobody
  next => rfl

/-- A thread whose fast lock becomes a monitor only drops the object. -/
lemma transfer_alters (m : Machine) (t : ThreadId) (o : ObjectId) (owner : Owner) :
    m.Alters t (transfer m t o owner) := by
  unfold transfer
  split
  · exact alters_dropObject m t o
  · exact .refl t m

/-- Making an inline monitor alters the machine. -/
lemma inflateInline_alters (cause : InflationCause) :
    (inflateInline m t o cause).Alters t m := by
  unfold inflateInline
  dsimp only
  split
  next => exact .refl t m
  next =>
    rcases own : ownerAs m t o (m.mark o) with ⟨owner, n⟩
    have idle := ownerAs_idle m t o (m.mark o)
    rw [own] at idle
    dsimp only
    exact ((((alters_addMonitor m t (.of_new _ idle)).trans
      (alters_setMark _ t o (k := .monitor _) fun _ => ⟨nofun, fun _ => rfl⟩)).trans
      (transfer_alters _ t o _)).trans (alters_note _ t _)).trans (alters_inlineMonitors _ t _)

/-- An object may get an entry in the table together with the monitor bits. -/
lemma alters_enrolled {n : Machine} {k : Mark} {id : MonitorId} (first : m.Alters t n)
    (plain : ∀ r, k ≠ .record r) :
    m.Alters t { n.setMark o (k.mapWord .setMonitor) with table := n.table.insert o id } := by
  refine ⟨first.options, first.registry, first.nextThread, first.state, first.guards, first.monitor,
    fun marked mode p => ?_⟩
  have fits := first.marked marked mode p
  show ((n.setMark o _).mark p).Fits ((n.table.insert o id).get? p)
  rw [mark_setMark, get?_insert, Function.update_apply]
  split
  · exact ⟨mapWord_plain plain _, fun _ => hasMonitor_mapWord plain⟩
  · exact fits

/-- The monitor is in the table before its owner is set, but nobody has used it yet. -/
lemma alters_owned (m : Machine) (t : ThreadId) (o : ObjectId) {owner : Owner} {n : UInt64}
    (idle : owner = .nobody → n = 0) : m.Alters t ((m.addMonitor (.new o)).2.setMonitor
      m.monitors.size (((enrolled m o).monitor m.monitors.size).ownedBy owner n)) := by
  have new : (enrolled m o).monitor m.monitors.size = .new o := Store.get_push_size _ _
  have added : (m.addMonitor (.new o)).2.monitor m.monitors.size = .new o := new
  refine (alters_addMonitor m t (x := .new o) ⟨rfl, rfl, .inl rfl, fun _ _ => rfl⟩).trans
    (alters_setMonitor _ t _ ?_)
  rw [new, added]
  exact .of_ownedBy idle

/-- Putting a monitor into the table alters the machine. -/
lemma inflateIntoTable_alters (mode : m.options.mode = .lightweight) (marked : m.WellMarked)
    (cause : InflationCause) : (inflateIntoTable m t o cause).Alters t m := by
  have fits := marked mode o
  cases found : m.table.get? o with
  | some id =>
    -- The object shows its entry.
    have has : (m.mark o).hasMonitor = true := fits.shown (by rw [found]; exact nofun)
    simp only [inflateIntoTable, tableMonitor, found, has, if_true]
    exact Machine.Alters.refl t m
  | none =>
    have made : tableMonitor m o = (m.monitors.size, enrolled m o) := by
      unfold tableMonitor
      rw [found]
      rfl
    have added : m.Alters t (m.addMonitor (.new o)).2 :=
      alters_addMonitor m t ⟨rfl, rfl, .inl rfl, fun _ _ => rfl⟩
    have mark : (enrolled m o).mark o = m.mark o := rfl
    rcases own : ownerAs m t o (m.mark o) with ⟨owner, n⟩
    have own' : ownerAs (enrolled m o) t o (m.mark o) = (owner, n) := own
    have idle := ownerAs_idle m t o (m.mark o)
    rw [own] at idle
    unfold inflateIntoTable
    simp only [made, mark, own']
    split
    next has =>
      refine ⟨added.options, added.registry, added.nextThread, added.state, added.guards,
        added.monitor, fun _ mode p => ?_⟩
      show (m.mark p).Fits ((m.table.insert o m.monitors.size).get? p)
      rw [get?_insert]
      split
      next eq => exact ⟨(marked mode p).plain, fun _ => eq ▸ has⟩
      next => exact marked mode p
    next =>
      refine Machine.Alters.trans ?_ ((transfer_alters _ t o _).trans (alters_note _ t _))
      split
      · exact alters_enrolled (alters_owned m t o idle) fits.plain
      · exact alters_enrolled added fits.plain

/-- An inflation alters the machine. -/
lemma inflate_alters (mode : m.options.mode = .lightweight) (marked : m.WellMarked)
    (cause : InflationCause) : (inflate m t o cause).Alters t m := by
  unfold inflate
  split
  · exact inflateIntoTable_alters mode marked cause
  · exact inflateInline_alters cause

/-- Claiming the monitor of a fast lock alters the machine. -/
lemma claim_alters (m : Machine) (t : ThreadId) (o : ObjectId) (id : MonitorId) :
    (claim m t o id).Alters t m := by
  have dropped := alters_dropObject m t o
  unfold claim
  dsimp only
  split
  · exact ⟨dropped, rfl⟩
  · exact (claimMonitor_alters _ t id _).after dropped

/-- Clearing a cache alters the machine. -/
lemma clearCache_alters (m : Machine) (t : ThreadId) (r : RecordId) :
    m.Alters t (clearCache m r) := by
  unfold clearCache
  split
  · exact alters_modifyRecord m t r _
  · exact .refl t m

/-- Filling a cache alters the machine. -/
lemma fillCache_alters (m : Machine) (t : ThreadId) (r : RecordId) (id : MonitorId) :
    m.Alters t (fillCache m r id) := by
  unfold fillCache
  split
  · exact alters_modifyRecord m t r _
  · exact .refl t m

/-- A monitor that is owned anonymously may be claimed first. -/
lemma claimed_alters (m : Machine) (t : ThreadId) (o : ObjectId) (id : MonitorId) :
    (if (m.monitor id).hasAnonymousOwner && (m.lockStack t).contains o then
      claim m t o id else .ok () m).Alters t m := by
  split
  · exact claim_alters m t o id
  · exact Machine.Alters.refl t m

/-- An enter through a monitor alters the machine or waits. -/
lemma enterInflated_enqueues (mode : m.options.mode = .lightweight) (marked : m.WellMarked)
    (cause : InflationCause) : (enterInflated m t o r cause).Enqueues t m :=
  (inflate_alters mode marked cause).enqueues fun id n _ =>
    (claimed_alters n t o id).enqueues fun _ k _ =>
      (enterMonitor_enqueues _ t id).after (fillCache_alters k t r id)

/-- Taking a fast lock alters the machine. -/
lemma lockFast_alters (mode : m.options.mode = .lightweight) (marked : m.WellMarked)
    (unlocked : (m.mark o).isUnlocked = true) : (lockFast m t o).Alters t m :=
  (pushObject_alters _ t o).after <| alters_setMark m t o fun _ =>
    fits_word (marked mode o) (hasMonitor_of_isUnlocked unlocked) _

/-- An enter alters the machine or waits. -/
lemma enter_enqueues (mode : m.options.mode = .lightweight) (marked : m.WellMarked) :
    (enter m t o r).Enqueues t m := by
  have cleared := clearCache_alters m t r
  unfold enter
  dsimp only
  generalize clearCache m r = n at cleared
  have mode' := cleared.options ▸ mode
  have marked' := cleared.marked marked
  refine Outcome.Enqueues.after ?_ cleared
  split
  next s _ => exact alters_setLockStack n t s
  next =>
    split
    next => exact enterInflated_enqueues mode' marked' _
    next =>
      split
      next free =>
        have locks := lockFast_alters (t := t) mode' marked' free.2
        cases eq : lockFast n t o <;> rw [eq] at locks <;> exact locks
      next => exact enterInflated_enqueues mode' marked' _

/-- A quick enter alters the machine. -/
lemma quickEnter_alters (mode : m.options.mode = .lightweight) (marked : m.WellMarked) :
    (quickEnter m t o r).Alters t m := by
  have cleared := clearCache_alters m t r
  unfold quickEnter
  dsimp only
  generalize clearCache m r = n at cleared
  refine Outcome.Alters.after ?_ cleared
  split
  next s _ => exact alters_setLockStack n t s
  next =>
    split
    next free =>
      split
      next => exact Machine.Alters.refl t n
      next =>
        exact (lockFast_alters (cleared.options ▸ mode) (cleared.marked marked) free).map _
    next =>
      split
      next id _ =>
        refine (tryEnterMonitor_alters n t id).bind fun entered k _ => ?_
        show Machine.Alters t k _
        split
        · exact fillCache_alters k t r id
        · exact .refl t k
      next => exact Machine.Alters.refl t n

/-- The monitor that a thread claims is the one that it exits. -/
lemma exitInflated_exits (m : Machine) (t : ThreadId) (o : ObjectId) (id : MonitorId) :
    (exitInflated m t o id).Exits t m := by
  unfold exitInflated
  dsimp only
  split
  next =>
    split
    next =>
      unfold claim
      dsimp only
      have dropped := alters_dropObject m t o
      split
      next => exact ⟨dropped, rfl⟩
      next =>
        unfold claimMonitor
        -- How many entries are claimed does not matter here.
        generalize UInt64.ofNat _ = c
        generalize hn : m.dropObject t o = n at dropped ⊢
        have same : n.monitor id = m.monitor id := by rw [← hn]; rfl
        split
        next x claim =>
          have claimed := dropped.trans (alters_setMonitor n t id (.of_claim claim))
          have now : (n.setMonitor id x).monitor id = x := by
            rw [monitor_setMonitor, Function.update_self]
          dsimp only [Outcome.bind]
          split
          next =>
            unfold exitMonitor
            split
            next y exits =>
              exact .inr ⟨_, id, y, claimed, .inr ⟨c, by rw [now, ← same, claim]⟩, exits, rfl⟩
            next => exact ⟨claimed, rfl⟩
          next => exact ⟨claimed.trans (alters_note _ t _), rfl⟩
        next => exact ⟨dropped, rfl⟩
    next => exact illegalExit_exits m t o
  next =>
    dsimp only [Outcome.bind]
    split
    · exact exitMonitor_exits m t id
    · exact illegalExit_exits m t o

/-- An exit alters the machine or exits a monitor. -/
lemma exit_exits (mode : m.options.mode = .lightweight) (marked : m.WellMarked) :
    (exit m t o r).Exits t m := by
  unfold exit
  split
  next s _ => exact .inl (alters_setLockStack m t s)
  next =>
    dsimp only
    split
    next held =>
      have fast := (Bool.and_eq_true_iff.1 held).2
      refine .inl ((alters_setMark m t o fun _ => ?_).trans (alters_dropObject _ t o))
      exact fits_word (marked mode o) (hasMonitor_of_isFastLocked fast) _
    next =>
      split
      next id _ => exact exitInflated_exits m t o id
      next => exact illegalExit_exits m t o

/-- Asking for the identity hash alters the machine. -/
lemma identityHash_alters (mode : m.options.mode = .lightweight) (marked : m.WellMarked) :
    (identityHash m t o).Alters t m := by
  have fits := marked mode o
  unfold identityHash
  split
  next id _ => exact alters_monitorHash m t id
  next w hk =>
    split
    next => exact Machine.Alters.refl t m
    next =>
      refine (alters_drawHash m t).trans (alters_setMark _ t o fun _ => ⟨fun _ => nofun, ?_⟩)
      intro some
      have has := fits.shown some
      rw [hk] at has
      show (LockWord.withHash w _).bits == .monitor
      rw [LockWord.bits_withHash]
      exact has
  next => exact ⟨.refl t m, rfl⟩

end ObjectLocks.FastLocking
