import ObjectLocks.Proofs.Headers
import ObjectLocks.Proofs.LockStack
import ObjectLocks.StackLocking

/-!
# Headers in stack-locking

Stack-locking moves the header of an object into a lock record or a monitor, and back from the
record. The hash in it stays as it is as long as the record is used for nothing else meanwhile.
-/

namespace ObjectLocks.StackLocking

open Machine

variable {m : Machine} {t : ThreadId} {o : ObjectId} {r : RecordId}

/-- A new monitor may take over a header with the same hash. -/
lemma install_carries (headed : m.WellHeaded) {x : Monitor} (object : x.object = o)
    (hash : x.header.hash = m.hashOf o) :
    Carries none m (install m x).2 ∧ (install m x).2.mark o = .monitor m.monitors.size := by
  subst object
  refine ⟨(carries_install headed rfl hash).trans (carries_inlineMonitors _ _), ?_⟩
  show ((m.addMonitor x).2.setMark x.object (.monitor m.monitors.size)).mark x.object = _
  rw [mark_setMark, Function.update_self]

/-- Inflation always ends with a monitor. -/
lemma inflate_carries (mode : m.options.mode ≠ .lightweight) (headed : m.WellHeaded)
    (cause : InflationCause) : ∃ id n, inflate m t o cause = .ok id n ∧ Carries none m n ∧
      n.mark o = .monitor id := by
  unfold inflate
  split
  next id hk => exact ⟨id, m, rfl, .refl m, hk⟩
  next r hk =>
    have hash : (m.record r).displaced.hash = m.hashOf o := by
      unfold hashOf
      rw [hk]
      rfl
    obtain ⟨carries, mark⟩ := install_carries (x := { (Monitor.new o).ownedBy
      (.ofThread? (m.record r).owner) 0 with header := (m.record r).displaced }) headed rfl hash
    exact ⟨_, _, rfl, carries.trans (carries_note _ _), mark⟩
  next w hk =>
    have hash : w.hash = m.hashOf o := by
      unfold hashOf
      rw [hk]
      rfl
    have unlocked : w.isUnlocked = true := beq_iff_eq.2 (headed.plain mode o w hk)
    rw [if_pos unlocked]
    obtain ⟨carries, mark⟩ :=
      install_carries (x := { Monitor.new o with header := w }) headed rfl hash
    exact ⟨_, _, rfl, carries.trans (carries_note _ _), mark⟩

/-- A record fits into lock records that are not full. -/
lemma pushRecord_ok (room : ¬(m.lockRecords t).isFull = true) :
    ∃ n, m.pushRecord t r = .ok () n ∧ Carries none m n := by
  have carries := pushRecord_carries m t r
  unfold pushRecord at carries ⊢
  split at carries
  next s _ => exact ⟨_, rfl, carries⟩
  next full => exact absurd (LockStack.isFull_iff.2 (LockStack.push?_eq_none full)) room

/-- A mode that is neither of the others is the one that stack-locks. -/
lemma legacy_of_ne {mode : LockingMode} (slow : mode ≠ .lightweight) (light : mode ≠ .monitor) :
    mode = .legacy := by
  cases mode with
  | legacy => rfl
  | monitor => exact absurd rfl light
  | lightweight => exact absurd rfl slow

/-- Stack-locking an unlocked object puts the record into its header, and a further enter puts it
nowhere. If the lock has to be inflated, nothing has changed. -/
lemma tryStackLock_carries (mode : m.options.mode = .legacy) (headed : m.WellHeaded)
    (free : ∀ p, m.mark p ≠ .record r) :
    (∃ n, tryStackLock m t o r = .ok none n ∧ Carries (some (o, r)) m n) ∨
      ∃ cause, tryStackLock m t o r = .ok (some cause) m := by
  unfold tryStackLock
  split
  next w hk =>
    split
    next unlocked =>
      split
      next => exact .inr ⟨_, rfl⟩
      next room =>
        -- The header goes into the record first, and then the record into the header.
        let k := m.modifyRecord r fun x => x.lockedOver w t
        have recorded : Carries none m k := carries_modifyRecord m r (.inl free)
        have displaced : (k.record r).displaced = w := by
          rw [show k.record = _ from record_modifyRecord m r _, Function.update_self]
          rfl
        have hash : (k.headerOf (.record r)).hash = k.hashOf o := by
          rw [recorded.hash headed]
          show (k.record r).displaced.hash = (m.headerOf (m.mark o)).hash
          rw [displaced, hk]
          rfl
        have stacked : Carries (some (o, r)) k (k.setMark o (.record r)) := by
          refine carries_setMark hash nofun (fun q eq => ?_) nofun
          obtain rfl := Mark.record.inj eq
          refine ⟨⟨mode, ?_, by rw [displaced]; exact beq_iff_eq.1 unlocked⟩, .inr rfl⟩
          exact Nat.lt_of_lt_of_le (Nat.lt_succ_self _)
            (Nat.le_trans (Nat.le_max_right ..) (Nat.le_of_eq (Store.size_set ..).symm))
        obtain ⟨n, pushed, carries⟩ :=
          pushRecord_ok (m := k.setMark o (.record r)) (t := t) (r := r) room
        refine .inl ⟨n, ?_, ?_⟩
        · show ((k.setMark o (.record r)).pushRecord t r).map _ = _
          rw [pushed]
          rfl
        · exact recorded.trans (stacked.andThen carries)
    next => exact .inr ⟨_, rfl⟩
  next locker _ =>
    split
    next =>
      split
      next => exact .inr ⟨_, rfl⟩
      next room =>
        let k := m.modifyRecord r fun x => x.lockedAgain t
        have recorded : Carries none m k := carries_modifyRecord m r (.inl free)
        obtain ⟨n, pushed, carries⟩ := pushRecord_ok (m := k) (t := t) (r := r) room
        refine .inl ⟨n, ?_, (recorded.trans carries).weaken⟩
        show (k.pushRecord t r).map _ = _
        rw [pushed]
        rfl
    next => exact .inr ⟨_, rfl⟩
  next => exact .inr ⟨_, rfl⟩

/-- An enter through a monitor carries all hashes along. -/
lemma enterInflated_carries (mode : m.options.mode ≠ .lightweight) (headed : m.WellHeaded)
    (free : ∀ p, m.mark p ≠ .record r) (cause : InflationCause) :
    (enterInflated m t o r cause).Carries m := by
  have unused : Carries none m (m.modifyRecord r .throughMonitor) :=
    carries_modifyRecord m r (.inl free)
  obtain ⟨id, n, inflates, carries, -⟩ := inflate_carries (t := t) (o := o) (unused.options ▸ mode)
    (unused.headed headed) cause
  unfold enterInflated
  rw [inflates]
  exact (enterMonitor_carries n t id).after (unused.trans carries)

/-- An enter carries all hashes along, and puts its record into the header at most if it is
complete. -/
lemma enter_stacks (mode : m.options.mode ≠ .lightweight) (headed : m.WellHeaded)
    (free : ∀ p, m.mark p ≠ .record r) : (enter m t o r).Stacks m o r := by
  unfold enter
  split
  next => exact .of_carries (enterInflated_carries mode headed free _)
  next light =>
    rcases tryStackLock_carries (t := t) (o := o) (legacy_of_ne mode light) headed free with
      ⟨n, locks, carries⟩ | ⟨cause, refused⟩
    · rw [locks]
      exact carries
    · rw [refused]
      exact .of_carries (enterInflated_carries mode headed free cause)

/-- A quick enter carries all hashes along. -/
lemma quickEnter_carries (free : ∀ p, m.mark p ≠ .record r) : (quickEnter m t o r).Carries m := by
  unfold quickEnter
  split
  next id hk =>
    have tried := tryEnterMonitor_carries m t id
    unfold tryEnterMonitor at tried ⊢
    split at tried
    next x _ => exact tried.trans (carries_modifyRecord (m.setMonitor id x) r (.inl free))
    next => exact tried
  next => exact .refl m
  next => exact .refl m

/-- An exit of a monitor carries all hashes along. -/
lemma exitInflated_carries : (exitInflated m t o r).Carries m := by
  have dropped : Carries none m (m.dropRecord t r) := carries_setLockRecords m t _
  unfold exitInflated
  dsimp only
  refine Outcome.Carries.after ?_ dropped
  split
  next id _ =>
    split
    · exact exitMonitor_carries _ t id
    · exact illegalExit_carries _ t o
  next => exact illegalExit_carries _ t o
  next => exact illegalExit_carries _ t o

/-- An exit carries all hashes along. -/
lemma exit_carries (headed : m.WellHeaded) : (exit m t o r).Carries m := by
  unfold exit
  dsimp only
  split
  next => exact exitInflated_carries
  next =>
    split
    next =>
      split
      · exact carries_setLockRecords m t _
      · exact illegalExit_carries m t o
    next =>
      split
      next own =>
        refine Machine.Carries.trans
          (carries_setMark (k := .word _) ?_ (fun _ w eq => ?_) nofun nofun)
          (carries_setLockRecords _ t _)
        · unfold hashOf
          rw [own.2]
          rfl
        · obtain rfl := Mark.word.inj eq
          exact (headed.stacked o r own.2).2.2
      next => exact exitInflated_carries

/-- After an exit, whether it succeeds or not, the record is not in the header any more. -/
lemma exit_unlinks (headed : m.WellHeaded) : (exit m t o r).machine.mark o ≠ .record r := by
  intro linked
  have hk : m.mark o = .record r := (exit_carries headed).stacked o r linked |>.resolve_right nofun
  obtain ⟨mode, -, bits⟩ := headed.stacked o r hk
  have first : ¬(m.record r).isRecursive = true := fun again => by
    rw [beq_iff_eq.1 again] at bits
    cases bits
  have used : (m.record r).displaced ≠ .unused := fun unused => by
    rw [unused] at bits
    cases bits
  have restores : exit m t o r =
      .ok () ((m.setMark o (.word (m.record r).displaced)).dropRecord t r) := by
    unfold exit
    rw [if_neg (by rw [mode]; exact nofun), if_neg first, if_pos ⟨used, hk⟩]
  rw [restores] at linked
  replace linked : (m.setMark o (.word (m.record r).displaced)).mark o = .record r := linked
  rw [mark_setMark, Function.update_self] at linked
  cases linked

/-- The monitor of an object is asked for the hash that the object has, or for the next one of the
thread. -/
lemma throughMonitor_identifies (mode : m.options.mode ≠ .lightweight) (headed : m.WellHeaded)
    (cause : InflationCause) : ((inflate m t o cause).bind fun id m =>
      .ok (m.monitorHash t id).1 (m.monitorHash t id).2).Identifies t o m := by
  obtain ⟨id, n, inflates, carries, hk⟩ := inflate_carries (t := t) mode headed cause
  rw [inflates]
  exact (monitorHash_identifies (carries.headed headed) hk).after carries headed

/-- The identity hash of an object is the one that it has already, or the next one of the thread. -/
lemma identityHash_identifies (mode : m.options.mode ≠ .lightweight) (headed : m.WellHeaded) :
    (identityHash m t o).Identifies t o m := by
  unfold identityHash
  split
  next w hk =>
    -- The hash is where the header is: in the object, in its monitor or in the record.
    have here : m.hashOf o = w.hash := by
      unfold hashOf
      rw [hk]
      rfl
    split
    next =>
      split
      next has =>
        have has' : m.hashOf o ≠ 0 := here ▸ (LockWord.hasHash_iff w).1 has
        show Identifies t o m w.hash m
        rw [← here]
        exact .of_hash headed has'
      next fresh =>
        refine identifies_word headed hk ?_
        by_contra some
        exact fresh ((LockWord.hasHash_iff w).2 some)
    next => exact throughMonitor_identifies mode headed _
  next id hk => exact monitorHash_identifies headed hk
  next locker hk =>
    dsimp only
    split
    next own =>
      have here : m.hashOf o = (m.record locker).displaced.hash := by
        unfold hashOf
        rw [hk]
        rfl
      have has : m.hashOf o ≠ 0 :=
        here ▸ (LockWord.hasHash_iff _).1 (Bool.and_eq_true_iff.1 own).2
      show Identifies t o m (m.record locker).displaced.hash m
      rw [← here]
      exact .of_hash headed has
    next => exact throughMonitor_identifies mode headed _

end ObjectLocks.StackLocking
