import ObjectLocks.Proofs.Effects
import ObjectLocks.StackLocking

/-!
# Effects of stack-locking

Stack-locking makes and enters monitors, and exits at most one of them at a time. Its monitors are
made with the owner that they are to have.
-/

namespace ObjectLocks.StackLocking

open Machine

variable {m : Machine} {t : ThreadId} {o : ObjectId} {r : RecordId}

/-- Without fast-locking a header may point to anything. -/
lemma alters_mark {n : Machine} (mode : m.options.mode ≠ .lightweight) (first : m.Alters t n)
    (o : ObjectId) (k : Mark) : m.Alters t (n.setMark o k) :=
  first.trans (alters_setMark n t o fun mode' => absurd (first.options ▸ mode') mode)

/-- Putting a new monitor into a header alters the machine. -/
lemma install_alters (mode : m.options.mode ≠ .lightweight) {x : Monitor}
    (keeps : (default : Monitor).Keeps t x) : m.Alters t (install m x).2 :=
  (alters_mark mode (alters_addMonitor m t keeps) _ _).trans (alters_inlineMonitors _ t _)

/-- An inflation alters the machine. -/
lemma inflate_alters (mode : m.options.mode ≠ .lightweight) (cause : InflationCause) :
    (inflate m t o cause).Alters t m := by
  unfold inflate
  split
  next => exact Machine.Alters.refl t m
  next => exact (install_alters mode (.of_new _ fun _ => rfl)).trans (alters_note _ t _)
  next =>
    split
    next =>
      refine (install_alters mode ?_).trans (alters_note _ t _)
      exact ⟨rfl, rfl, .inl rfl, fun _ _ => rfl⟩
    next => exact ⟨.refl t m, rfl⟩

/-- Trying to stack-lock an object alters the machine. -/
lemma tryStackLock_alters (mode : m.options.mode ≠ .lightweight) :
    (tryStackLock m t o r).Alters t m := by
  unfold tryStackLock
  split
  next =>
    split
    next =>
      split
      next => exact Machine.Alters.refl t m
      next =>
        refine (Outcome.Alters.after (pushRecord_alters _ t r) ?_).map _
        exact alters_mark mode (alters_modifyRecord m t r _) _ _
    next => exact Machine.Alters.refl t m
  next =>
    split
    next =>
      split
      next => exact Machine.Alters.refl t m
      next =>
        exact (Outcome.Alters.after (pushRecord_alters _ t r) (alters_modifyRecord m t r _)).map _
    next => exact Machine.Alters.refl t m
  next => exact Machine.Alters.refl t m

/-- An enter through a monitor alters the machine or waits. -/
lemma enterInflated_enqueues (mode : m.options.mode ≠ .lightweight) (cause : InflationCause) :
    (enterInflated m t o r cause).Enqueues t m := by
  have unused := alters_modifyRecord m t r .throughMonitor
  refine Outcome.Enqueues.after ?_ unused
  exact (inflate_alters (unused.options ▸ mode) cause).enqueues fun id n _ =>
    enterMonitor_enqueues n t id

/-- An enter alters the machine or waits. -/
lemma enter_enqueues (mode : m.options.mode ≠ .lightweight) : (enter m t o r).Enqueues t m := by
  unfold enter
  split
  next => exact enterInflated_enqueues mode _
  next =>
    refine (tryStackLock_alters mode).enqueues fun refusal n alters => ?_
    cases refusal with
    | none => exact Machine.Alters.refl t n
    | some cause => exact enterInflated_enqueues (alters.options ▸ mode) cause

/-- A quick enter alters the machine. -/
lemma quickEnter_alters : (quickEnter m t o r).Alters t m := by
  unfold quickEnter
  split
  next id _ =>
    refine (tryEnterMonitor_alters m t id).bind fun entered n _ => ?_
    show Machine.Alters t n _
    split
    · exact alters_modifyRecord n t r _
    · exact .refl t n
  next => exact Machine.Alters.refl t m
  next => exact Machine.Alters.refl t m

/-- An exit of a monitor alters the machine or exits it. -/
lemma exitInflated_exits : (exitInflated m t o r).Exits t m := by
  have dropped := alters_dropRecord m t r
  unfold exitInflated
  dsimp only
  refine Outcome.Exits.after ?_ dropped rfl
  split
  next id _ =>
    split
    · exact exitMonitor_exits _ t id
    · exact illegalExit_exits _ t o
  next => exact illegalExit_exits _ t o
  next => exact illegalExit_exits _ t o

/-- An exit alters the machine or exits a monitor. -/
lemma exit_exits (mode : m.options.mode ≠ .lightweight) : (exit m t o r).Exits t m := by
  unfold exit
  dsimp only
  split
  next => exact exitInflated_exits
  next =>
    split
    next =>
      split
      · exact .inl (alters_dropRecord m t r)
      · exact illegalExit_exits m t o
    next =>
      split
      next => exact .inl ((alters_mark mode (.refl t m) _ _).trans (alters_dropRecord _ t r))
      next => exact exitInflated_exits

/-- Asking the monitor of an object for its hash alters the machine. -/
lemma throughMonitor_alters (mode : m.options.mode ≠ .lightweight) (cause : InflationCause) :
    ((inflate m t o cause).bind fun id m =>
      .ok (m.monitorHash t id).1 (m.monitorHash t id).2).Alters t m :=
  (inflate_alters mode cause).bind fun id n _ => alters_monitorHash n t id

/-- Asking for the identity hash alters the machine. -/
lemma identityHash_alters (mode : m.options.mode ≠ .lightweight) :
    (identityHash m t o).Alters t m := by
  unfold identityHash
  split
  next w _ =>
    split
    next =>
      split
      next => exact Machine.Alters.refl t m
      next => exact alters_mark mode (alters_drawHash m t) _ _
    next => exact throughMonitor_alters mode _
  next id _ => exact alters_monitorHash m t id
  next =>
    dsimp only
    split
    next => exact Machine.Alters.refl t m
    next => exact throughMonitor_alters mode _

end ObjectLocks.StackLocking
