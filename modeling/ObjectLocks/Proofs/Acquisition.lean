import ObjectLocks.Proofs.Handoff
import ObjectLocks.Proofs.SafepointExclusion

/-!
# Acquisition of monitors

A thread that waits for a monitor goes on once it has been handed it, and may be parked for a
safepoint before it does. Only its owner gives a monitor up, and a parked thread does nothing, so
the thread still owns the monitor when it goes on.
-/

namespace ObjectLocks

namespace Scene

/-- The worker waits for a monitor, or owns it since and is at most parked. -/
structure Awaits (v : Scene) (w : WorkerId) (t : ThreadId) (id : MonitorId) : Prop where
  thread : v.thread w = some t
  turn : (∃ resume goal, v.wait w = some (.monitor id resume goal) ∧ goal ≠ .safepoint) ∨
    (v.monitor id).owner = .thread t ∧
      ∀ x, v.wait w = some x → ∃ resume goal, x = .barrier resume goal ∧ goal ≠ .safepoint

namespace Awaits

variable {v v' : Scene} {p : Scene × Bool} {w u : WorkerId} {t t' : ThreadId} {id : MonitorId}
  {resume : ThreadState} {goal : Goal}

/-- A worker awaits a monitor in every scene that shows the same thread, the same wait and no other
owner. -/
lemma congr (a : v.Awaits w t id) (thread : v'.thread w = v.thread w) (wait : v'.wait w = v.wait w)
    (owned : (v.monitor id).owner = .thread t → (v'.monitor id).owner = .thread t) :
    v'.Awaits w t id := by
  refine ⟨thread.trans a.thread, ?_⟩
  rw [wait]
  exact a.turn.imp_right (And.imp_left owned)

/-- The thread leaves a safe state as the owner of the monitor. -/
lemma leave (ht : v.thread w = some t) (own : (v.monitor id).owner = .thread t)
    (other : goal ≠ .safepoint) : (v.leave w t' resume goal).1.Awaits w t id := by
  obtain ⟨_, x, _, eq, hx⟩ := leave_eq v w t' resume goal
  rw [eq]
  refine ⟨ht, .inr ⟨own, fun y hy => ?_⟩⟩
  replace hy : Function.update v.wait w x w = some y := hy
  rw [Function.update_self] at hy
  rcases hx with rfl | rfl | ⟨-, last⟩
  · cases hy
  · exact ⟨resume, goal, (Option.some.inj hy).symm, other⟩
  · exact absurd last other

/-- Another worker leaves a safe state. -/
lemma leave_other (a : v.Awaits w t id) (ne : w ≠ u) :
    (v.leave u t' resume goal).1.Awaits w t id := by
  obtain ⟨_, _, _, eq, -⟩ := leave_eq v u t' resume goal
  rw [eq]
  exact a.congr rfl (Function.update_of_ne ne ..) fun own => own

/-- A worker that waits neither goes on without the monitor nor loses it. -/
theorem step (a : v.Awaits w t id) (waiting : v.wait w ≠ none) (d : v.Distinct) (c : Step v p) :
    p.1.Awaits w t id := by
  -- Whoever is awake, or waits for something else, is another worker.
  have awake {u} (free : v.wait u = none) : w ≠ u := fun eq => waiting (eq ▸ free)
  have elsewhere {u x} (waits : v.wait u = some x)
      (queued : ∀ resume goal, x ≠ .monitor id resume goal)
      (parked : ∀ resume goal, x ≠ .barrier resume goal) : w ≠ u := by
    rintro rfl
    rcases a.turn with ⟨resume, goal, eq, -⟩ | ⟨-, only⟩
    · exact queued resume goal (Option.some.inj (waits.symm.trans eq))
    · obtain ⟨resume, goal, eq, -⟩ := only x waits
      exact parked resume goal eq
  cases c with
  | idle => exact a
  | guard _ _ | enterRegion _ _ _ _ | skip => exact a.congr rfl rfl fun own => own
  | operate _ _ k => exact a.congr rfl rfl (k id).owned
  | @exit u t' f i y ht' free k _ exits =>
    refine a.congr rfl rfl fun own => ?_
    show (Function.update f i y id).owner = .thread t
    rw [Function.update_apply]
    split
    next eq =>
      -- The thread that exits is the owner, and awake.
      have own' : (f i).owner = .thread t := eq ▸ (k id).owned own
      obtain ⟨exiting, -⟩ := Monitor.exit?_eq_some exits
      obtain rfl := Owner.thread.inj (own'.symm.trans exiting)
      exact absurd (d.unique w u t a.thread ht') (awake free)
    next => exact (k id).owned own
  | @block u t' f i goal _ free _ k _ _ _ =>
    refine a.congr rfl (Function.update_of_ne (awake free) ..) fun own => ?_
    show (Function.update f i ((f i).enqueue t') id).owner = .thread t
    rw [Function.update_apply]
    split
    next eq => exact eq ▸ (k id).owned own
    next => exact (k id).owned own
  | leaveRegion _ free | poll _ free _ _ => exact a.leave_other (awake free)
  | @attach u _ free _ =>
    have ne := awake free
    have attached : (v.attach u).Awaits w t id :=
      a.congr (Function.update_of_ne ne ..) rfl fun own => own
    exact attached.leave_other ne
  | detach _ free _ => exact a.congr (Function.update_of_ne (awake free) ..) rfl fun own => own
  | @handed u t' i resume goal ht' waits own' =>
    by_cases eq : w = u
    · subst eq
      obtain rfl := Option.some.inj (a.thread.symm.trans ht')
      rcases a.turn with ⟨_, _, hw, other⟩ | ⟨-, only⟩
      · cases waits.symm.trans hw
        exact leave ht' own' other
      · obtain ⟨_, _, eq, -⟩ := only _ waits
        cases eq
    · exact a.leave_other eq
  | @unpark u t' resume goal ht' waits _ =>
    by_cases eq : w = u
    · subst eq
      rcases a.turn with ⟨_, _, hw, -⟩ | ⟨own, only⟩
      · cases waits.symm.trans hw
      · obtain ⟨_, _, eq, other⟩ := only _ waits
        cases eq
        exact leave a.thread own other
    · exact a.leave_other eq
  | queueUp _ free _ _ | queueUpDetached _ free _ =>
    exact a.congr rfl (Function.update_of_ne (awake free) ..) fun own => own
  | @turn u _ _ rest _ waits _ _ =>
    have given : (v.give u rest).Awaits w t id := a.congr rfl rfl fun own => own
    exact given.leave_other (elsewhere waits nofun nofun)
  | @turnDetached u _ rest _ waits _ _ =>
    obtain ⟨_, _, eq, -⟩ := request_eq (v.give u rest) u
    rw [eq]
    have ne := elsewhere waits nofun nofun
    exact a.congr rfl (Function.update_of_ne ne ..) fun own => own
  | reach waits _ =>
    have ne := elsewhere waits nofun nofun
    exact a.congr rfl (Function.update_of_ne ne ..) fun own => own
  | release _ _ =>
    unfold Scene.release
    split <;> exact a.congr rfl rfl fun own => own

end Awaits

end Scene

namespace World

variable {s : World} {w : WorkerId} {t : ThreadId} {id : MonitorId}

/-- A worker waits until the last of a sequence of moves ends its wait. -/
def EndsWait (s : World) (w : WorkerId) : List Move → Prop
  | [] => (s.worker w).wait = none
  | x :: l => (s.worker w).wait ≠ none ∧ (s.move x).1.EndsWait w l

/-- A worker whose wait for a monitor ends owns the monitor. -/
lemma Ordered.acquires (h : s.Ordered) (a : s.scene.Awaits w t id) {l : List Move}
    (ends : s.EndsWait w l) : ((s.after l).machine.monitor id).owner = .thread t := by
  induction l generalizing s with
  | nil =>
    rcases a.turn with ⟨_, _, waits, -⟩ | ⟨own, -⟩
    · cases (show s.scene.wait w = none from ends).symm.trans waits
    · exact own
  | cons x l ih =>
    exact ih (h.move x) (a.step ends.1 h.distinct (move_moved h.marked x).step) ends.2

end World

namespace Run

variable {rule : Rule} {options : Options} {s : World} {h : List Event} {w : WorkerId}
  {t : ThreadId} {id : MonitorId} {resume : ThreadState} {goal : Goal}

/-- A thread that has waited for a monitor owns it when it goes on. -/
lemma acquires (run : Run rule options s h) (ht : (s.worker w).thread = some t)
    (waits : (s.worker w).wait = some (.monitor id resume goal)) {l : List Move}
    (ends : s.EndsWait w l) : ((s.after l).machine.monitor id).owner = .thread t := by
  have other : goal ≠ .safepoint := run.orderly.2.queued w id resume goal waits
  exact run.ordered.acquires ⟨ht, .inl ⟨resume, goal, waits, other⟩⟩ ends

end Run

end ObjectLocks
