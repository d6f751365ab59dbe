import ObjectLocks.Proofs.Retention

/-!
# Monitors in stack-locking

Stack-locking replaces a header by the address of a new monitor, and never replaces that. A header
that comes back out of a lock record does not have the monitor bits, also if the record has been
used for another lock meanwhile.
-/

namespace ObjectLocks.StackLocking

open Machine

variable {m : Machine} {t : ThreadId} {o : ObjectId} {r : RecordId} {id : MonitorId}

/-- Dropping a record retains the monitors. -/
lemma dropRecord_retains (h : m.WellLinked) : m.Retains (m.dropRecord t r) :=
  h.retains_modifyThread t _

/-- Marking a record as one through a monitor retains the monitors. -/
lemma throughMonitor_retains (h : m.WellLinked) : m.Retains (m.modifyRecord r .throughMonitor) :=
  h.retains_modifyRecord (by decide : LockWord.unused.hasMonitor = false)

/-- A new monitor that is put into the header of its object is the one of the object. -/
lemma install_monitors (h : m.WellLinked) (mode : m.options.mode ≠ .lightweight)
    (free : (m.mark o).hasMonitor = false) {x : Monitor} (own : x.object = o) :
    m.Retains (install m x).2 ∧ (install m x).2.monitorOf? o = some (install m x).1 := by
  subst own
  have table : m.options.useTable = false := Bool.eq_false_iff.2 fun table => mode (h.tables table)
  exact h.retains_installed table free rfl

/-- An inflation retains the monitors and gives the object the one that it answers. -/
lemma inflate_monitors (h : m.WellLinked) (mode : m.options.mode ≠ .lightweight)
    (cause : InflationCause) : (inflate m t o cause).Monitors m o := by
  unfold inflate
  split
  next id hk => exact ⟨.refl h, h.address o id hk⟩
  next q hk =>
    have free : (m.mark o).hasMonitor = false := by rw [hk]; rfl
    obtain ⟨retains, leads⟩ := install_monitors h mode free (x := { (Monitor.new o).ownedBy
      (.ofThread? (m.record q).owner) 0 with header := (m.record q).displaced }) rfl
    have noted := retains.linked.retains_note (.inflatedStackLock t o (m.record q).owner cause)
    exact ⟨retains.trans noted, noted.keeps retains.linked leads⟩
  next w hk =>
    split
    next unlocked =>
      have free : (m.mark o).hasMonitor = false := by
        rw [hk]
        exact LockWord.hasMonitor_of_isUnlocked unlocked
      obtain ⟨retains, leads⟩ :=
        install_monitors h mode free (x := { Monitor.new o with header := w }) rfl
      have noted := retains.linked.retains_note (.inflatedUnlocked t o cause)
      exact ⟨retains.trans noted, noted.keeps retains.linked leads⟩
    next => exact Retains.refl h

/-- Trying to stack-lock an object retains the monitors. -/
lemma tryStackLock_retains (h : m.WellLinked) (mode : m.options.mode ≠ .lightweight) :
    (tryStackLock m t o r).Retains m := by
  unfold tryStackLock
  split
  next w hk =>
    split
    next unlocked =>
      split
      next => exact Retains.refl h
      next =>
        have free := LockWord.hasMonitor_of_isUnlocked unlocked
        have kept : m.Retains (m.modifyRecord r fun x => x.lockedOver w t) :=
          h.retains_modifyRecord free
        have hk' : ((m.modifyRecord r fun x => x.lockedOver w t).mark o).hasMonitor = false := by
          show (m.mark o).hasMonitor = false
          rw [hk]
          exact free
        have locked := kept.linked.retains_setMark hk' (j := .record r) rfl fun mode' =>
          absurd mode' mode
        have first := kept.trans locked
        exact (first.linked.pushRecord_retains.after first).map _
    next => exact Retains.refl h
  next q hk =>
    split
    next =>
      split
      next => exact Retains.refl h
      next =>
        have kept : m.Retains (m.modifyRecord r fun x => x.lockedAgain t) :=
          h.retains_modifyRecord (by decide : LockRecord.recursiveMark.hasMonitor = false)
        exact (kept.linked.pushRecord_retains.after kept).map _
    next => exact Retains.refl h
  next => exact Retains.refl h

/-- An enter through a monitor retains the monitors. -/
lemma enterInflated_retains (h : m.WellLinked) (mode : m.options.mode ≠ .lightweight)
    (cause : InflationCause) : (enterInflated m t o r cause).Retains m := by
  have first := throughMonitor_retains (r := r) h
  have inflated := inflate_monitors (t := t) (o := o) first.linked (first.options ▸ mode) cause
  refine Outcome.Retains.after ?_ first
  exact inflated.retains.bind fun id n eq h' => h'.enterMonitor_retains (inflated.lt eq)

/-- An enter retains the monitors. -/
lemma enter_retains (h : m.WellLinked) (mode : m.options.mode ≠ .lightweight) :
    (enter m t o r).Retains m := by
  unfold enter
  split
  next => exact enterInflated_retains h mode _
  next =>
    have tried := tryStackLock_retains (t := t) (o := o) (r := r) h mode
    have options := tried.options
    refine tried.bind fun refusal n eq h' => ?_
    rw [eq] at options
    cases refusal with
    | none => exact Retains.refl h'
    | some cause => exact enterInflated_retains h' (options ▸ mode) cause

/-- A quick enter retains the monitors. -/
lemma quickEnter_retains (h : m.WellLinked) : (quickEnter m t o r).Retains m := by
  unfold quickEnter
  split
  next id hk =>
    have lt := h.lt (h.address o id hk)
    refine (h.tryEnterMonitor_retains lt).bind fun entered n _ h' => ?_
    show n.Retains _
    split
    · exact throughMonitor_retains h'
    · exact .refl h'
  next => exact Retains.refl h
  next => exact Retains.refl h

/-- An exit of a monitor retains the monitors. -/
lemma exitInflated_retains (h : m.WellLinked) : (exitInflated m t o r).Retains m := by
  have dropped := dropRecord_retains (t := t) (r := r) h
  unfold exitInflated
  dsimp only
  refine Outcome.Retains.after ?_ dropped
  split
  next =>
    split
    · exact dropped.linked.exitMonitor_retains
    · exact dropped.linked.illegalExit_retains
  next => exact dropped.linked.illegalExit_retains
  next => exact dropped.linked.illegalExit_retains

/-- An exit retains the monitors. -/
lemma exit_retains (h : m.WellLinked) : (exit m t o r).Retains m := by
  unfold exit
  dsimp only
  split
  next => exact exitInflated_retains h
  next =>
    split
    next =>
      split
      · exact dropRecord_retains h
      · exact h.illegalExit_retains
    next =>
      split
      next locked =>
        have free : (m.mark o).hasMonitor = false := by rw [locked.2]; rfl
        have restored := h.retains_setMark free (j := .word (m.record r).displaced)
          (h.displaced r) fun _ _ eq => by cases eq
        exact restored.trans (dropRecord_retains restored.linked)
      next => exact exitInflated_retains h

/-- Asking the monitor of an object for its hash retains the monitors. -/
lemma throughHash_retains (h : m.WellLinked) (mode : m.options.mode ≠ .lightweight)
    (cause : InflationCause) : ((inflate m t o cause).bind fun id m =>
      .ok (m.monitorHash t id).1 (m.monitorHash t id).2).Retains m := by
  have inflated := inflate_monitors (t := t) (o := o) h mode cause
  exact inflated.retains.bind fun id n eq h' => h'.monitorHash_retains (inflated.lt eq)

/-- Asking for the identity hash retains the monitors. -/
lemma identityHash_retains (h : m.WellLinked) (mode : m.options.mode ≠ .lightweight) :
    (identityHash m t o).Retains m := by
  unfold identityHash
  split
  next w hk =>
    split
    next =>
      split
      next => exact Retains.refl h
      next => exact h.retains_hashed t hk _
    next => exact throughHash_retains h mode _
  next id hk => exact h.monitorHash_retains (h.lt (h.address o id hk))
  next =>
    dsimp only
    split
    next => exact Retains.refl h
    next => exact throughHash_retains h mode _

end ObjectLocks.StackLocking
