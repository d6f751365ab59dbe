import ObjectLocks.FastLocking
import ObjectLocks.Proofs.Headers

/-!
# Headers in fast-locking

Fast-locking changes the lock bits of a header in place, or moves the header into a monitor. Both
leave the hash of the object as it is.
-/

namespace ObjectLocks.FastLocking

open Machine

variable {m : Machine} {t : ThreadId} {o : ObjectId} {r : RecordId} {id : MonitorId}

/-- Fast-locking puts no record into a header. -/
lemma mark_ne_record (mode : m.options.mode = .lightweight) (headed : m.WellHeaded) (o : ObjectId)
    (r : RecordId) : m.mark o ≠ .record r := by
  intro hk
  cases mode.symm.trans (headed.stacked o r hk).1

/-- The lock bits of a header may change. -/
lemma carries_setBits (mode : m.options.mode = .lightweight) (headed : m.WellHeaded)
    {f : LockWord → LockWord} (same : ∀ w, (f w).hash = w.hash) :
    Carries none m (m.setMark o ((m.mark o).mapWord f)) := by
  have plain := mark_ne_record mode headed o
  unfold Mark.mapWord
  cases hk : m.mark o with
  | word w =>
    refine carries_setMark ?_ (fun heavy => absurd mode heavy) nofun nofun
    unfold hashOf
    rw [hk]
    exact same w
  | record r => exact absurd hk (plain r)
  | monitor id =>
    refine carries_setMark ?_ nofun nofun fun _ eq => ?_
    · unfold hashOf
      rw [hk]
    · obtain rfl := Mark.monitor.inj eq
      exact headed.linked o id hk

/-- Dropping an object carries all hashes along. -/
lemma carries_dropObject (m : Machine) (t : ThreadId) (o : ObjectId) :
    Carries none m (m.dropObject t o) := carries_setLockStack m t _

/-- A thread whose fast lock becomes a monitor carries all hashes along. -/
lemma transfer_carries (m : Machine) (t : ThreadId) (o : ObjectId) (owner : Owner) :
    Carries none m (transfer m t o owner) := by
  unfold transfer
  split
  · exact carries_dropObject m t o
  · exact .refl m

/-- The header that a monitor takes over is unlocked, with the same hash. -/
lemma hash_displaced (mode : m.options.mode = .lightweight) (headed : m.WellHeaded)
    (inPlace : (m.mark o).monitor? = none) :
    (if (m.mark o).isFastLocked then (m.mark o).displaced.setUnlocked
      else (m.mark o).displaced).hash = m.hashOf o := by
  unfold hashOf
  cases hk : m.mark o with
  | word w =>
    split
    · exact LockWord.hash_withBits w _
    · rfl
  | record r => exact absurd hk (mark_ne_record mode headed o r)
  | monitor id =>
    rw [hk] at inPlace
    cases inPlace

/-- An inline monitor takes over the header with its hash. -/
lemma inflateInline_carries (mode : m.options.mode = .lightweight) (headed : m.WellHeaded)
    (cause : InflationCause) : (inflateInline m t o cause).Carries m := by
  unfold inflateInline
  dsimp only
  split
  next => exact .refl m
  next inPlace =>
    rcases ownerAs m t o (m.mark o) with ⟨owner, n⟩
    refine Machine.Carries.trans ?_ ((transfer_carries _ t o _).trans
      ((carries_note _ _).trans (carries_inlineMonitors _ _)))
    exact carries_install headed rfl (hash_displaced mode headed inPlace)

/-- A monitor in the table carries all hashes along before any header leads to it. -/
lemma tableMonitor_carries (m : Machine) (o : ObjectId) : Carries none m (tableMonitor m o).2 := by
  unfold tableMonitor
  split
  next => exact .refl m
  next => exact (carries_addMonitor m _).trans (.of_locks rfl rfl rfl rfl fun _ => rfl)

/-- A monitor in the table leaves the header and its hash in place. -/
lemma inflateIntoTable_carries (mode : m.options.mode = .lightweight) (headed : m.WellHeaded)
    (cause : InflationCause) : (inflateIntoTable m t o cause).Carries m := by
  unfold inflateIntoTable
  obtain ⟨id, n, made⟩ : ∃ id n, tableMonitor m o = (id, n) := ⟨_, _, rfl⟩
  have tabled : Carries none m n := by
    have made' := tableMonitor_carries m o
    rwa [made] at made'
  rw [made]
  dsimp only
  split
  next => exact tabled
  next =>
    rcases ownerAs n t o (n.mark o) with ⟨owner, d⟩
    dsimp only
    refine tabled.trans ?_
    refine Machine.Carries.trans ?_ ((transfer_carries _ t o _).trans (carries_note _ _))
    -- The owner of the new entry is set in the same go.
    generalize hk : (if (n.mark o).isFastLocked then _ else n) = k
    have owned : Carries none n k := by
      rw [← hk]
      split
      · exact carries_setMonitor n id rfl rfl
      · exact .refl n
    have mark : k.mark o = n.mark o := by
      rw [← hk]
      split <;> rfl
    rw [← mark]
    refine owned.trans (carries_setBits ?_ (owned.headed (tabled.headed headed)) fun w => ?_)
    · rw [owned.options, tabled.options, mode]
    · exact LockWord.hash_withBits w _

/-- An inflation carries all hashes along. -/
lemma inflate_carries (mode : m.options.mode = .lightweight) (headed : m.WellHeaded)
    (cause : InflationCause) : (inflate m t o cause).Carries m := by
  unfold inflate
  split
  · exact inflateIntoTable_carries mode headed cause
  · exact inflateInline_carries mode headed cause

/-- Claiming the monitor of a fast lock carries all hashes along. -/
lemma claim_carries (m : Machine) (t : ThreadId) (o : ObjectId) (id : MonitorId) :
    (claim m t o id).Carries m := by
  have dropped := carries_dropObject m t o
  unfold claim
  dsimp only
  split
  · exact dropped
  · exact (claimMonitor_carries _ t id _).after dropped

/-- Clearing a cache carries all hashes along. -/
lemma clearCache_carries (m : Machine) (r : RecordId) : Carries none m (clearCache m r) := by
  unfold clearCache
  split
  · exact carries_setCache m r _
  · exact .refl m

/-- Filling a cache carries all hashes along. -/
lemma fillCache_carries (m : Machine) (r : RecordId) (id : MonitorId) :
    Carries none m (fillCache m r id) := by
  unfold fillCache
  split
  · exact carries_setCache m r _
  · exact .refl m

/-- An enter through a monitor carries all hashes along. -/
lemma enterInflated_carries (mode : m.options.mode = .lightweight) (headed : m.WellHeaded)
    (cause : InflationCause) : (enterInflated m t o r cause).Carries m := by
  refine (inflate_carries mode headed cause).bind fun id n _ => ?_
  have claimed : (if (n.monitor id).hasAnonymousOwner && (n.lockStack t).contains o then
      claim n t o id else .ok () n).Carries n := by
    split
    · exact claim_carries n t o id
    · exact .refl n
  exact claimed.bind fun _ k _ => (enterMonitor_carries _ t id).after (fillCache_carries k r id)

/-- Taking a fast lock carries all hashes along. -/
lemma lockFast_carries (mode : m.options.mode = .lightweight) (headed : m.WellHeaded) :
    (lockFast m t o).Carries m :=
  (pushObject_carries _ t o).after <|
    carries_setBits mode headed fun w => LockWord.hash_withBits w _

/-- What is answered makes no difference to the hashes. -/
lemma map_carries {α β : Type} {x : Outcome α} (h : x.Carries m) (f : α → β) :
    (x.map f).Carries m := by
  cases x <;> exact h

/-- An enter carries all hashes along. -/
lemma enter_carries (mode : m.options.mode = .lightweight) (headed : m.WellHeaded) :
    (enter m t o r).Carries m := by
  have cleared := clearCache_carries m r
  unfold enter
  dsimp only
  generalize clearCache m r = n at cleared
  have mode' : n.options.mode = .lightweight := cleared.options ▸ mode
  have headed' := cleared.headed headed
  refine Outcome.Carries.after ?_ cleared
  split
  next s _ => exact carries_setLockStack n t s
  next =>
    split
    next => exact enterInflated_carries mode' headed' _
    next =>
      split
      next => exact map_carries (lockFast_carries mode' headed') _
      next => exact enterInflated_carries mode' headed' _

/-- A quick enter carries all hashes along. -/
lemma quickEnter_carries (mode : m.options.mode = .lightweight) (headed : m.WellHeaded) :
    (quickEnter m t o r).Carries m := by
  have cleared := clearCache_carries m r
  unfold quickEnter
  dsimp only
  generalize clearCache m r = n at cleared
  refine Outcome.Carries.after ?_ cleared
  split
  next s _ => exact carries_setLockStack n t s
  next =>
    split
    next =>
      split
      next => exact .refl n
      next => exact map_carries (lockFast_carries (cleared.options ▸ mode) (cleared.headed headed)) _
    next =>
      split
      next id _ =>
        refine (tryEnterMonitor_carries n t id).bind fun entered k _ => ?_
        show Machine.Carries none k _
        split
        · exact fillCache_carries k r id
        · exact .refl k
      next => exact .refl n

/-- An exit of a monitor carries all hashes along. -/
lemma exitInflated_carries (m : Machine) (t : ThreadId) (o : ObjectId) (id : MonitorId) :
    (exitInflated m t o id).Carries m := by
  unfold exitInflated
  dsimp only
  refine Outcome.Carries.bind ?_ fun _ n _ => ?_
  · split
    · split
      · exact claim_carries m t o id
      · exact illegalExit_carries m t o
    · exact .refl m
  · split
    · exact exitMonitor_carries n t id
    · exact illegalExit_carries n t o

/-- An exit carries all hashes along. -/
lemma exit_carries (mode : m.options.mode = .lightweight) (headed : m.WellHeaded) :
    (exit m t o r).Carries m := by
  unfold exit
  split
  next s _ => exact carries_setLockStack m t s
  next =>
    dsimp only
    split
    next =>
      exact (carries_setBits mode headed fun w => LockWord.hash_withBits w _).trans
        (carries_dropObject _ t o)
    next =>
      split
      next id _ => exact exitInflated_carries m t o id
      next => exact illegalExit_carries m t o

/-- The identity hash of an object is the one that it has already, or the next one of the thread. -/
lemma identityHash_identifies (mode : m.options.mode = .lightweight) (headed : m.WellHeaded) :
    (identityHash m t o).Identifies t o m := by
  unfold identityHash
  split
  next id hk => exact monitorHash_identifies headed hk
  next w hk =>
    have here : m.hashOf o = w.hash := by
      unfold hashOf
      rw [hk]
      rfl
    split
    next has =>
      have has' : m.hashOf o ≠ 0 := here ▸ (LockWord.hasHash_iff w).1 has
      show Identifies t o m w.hash m
      rw [← here]
      exact .of_hash headed has'
    next fresh =>
      refine identifies_word headed hk ?_
      by_contra some
      exact fresh ((LockWord.hasHash_iff w).2 some)
  next r hk => exact absurd hk (mark_ne_record mode headed o r)

end ObjectLocks.FastLocking
