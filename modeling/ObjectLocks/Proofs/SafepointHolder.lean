import ObjectLocks.Proofs.Handoff
import ObjectLocks.Proofs.Pieces
import ObjectLocks.Proofs.SafepointExclusion

/-!
# Safepoints of running workers

Where a thread looks for a request, it does not ask whose request it is. So the worker that holds a
safepoint parks at the barrier like any other if it polls, allocates, ends a native or blocked
region or has waited for a monitor; nothing else that it does makes it park, and nothing that others
do. As it alone can end the safepoint, it is then parked for ever.
-/

namespace ObjectLocks

namespace Scene

variable {v : Scene} {p : Scene × Bool} {w : WorkerId}

/-- A worker gets its safepoint at the end of its wait for the others. -/
lemma Step.gets_scope (c : Step v p) (before : v.inScope w = false)
    (after : p.1.inScope w = true) : p.1.wait w = none := by
  have same (v' : Scene) (eq : v'.inScope = v.inScope) {u t resume goal} :
      (v'.leave u t resume goal).1.inScope w ≠ true := by
    obtain ⟨_, _, _, eq', -⟩ := leave_eq v' u t resume goal
    rw [eq']
    show v'.inScope w ≠ true
    rw [eq, before]
    exact Bool.false_ne_true
  have never (after : v.inScope w = true) : False := Bool.false_ne_true (before.symm.trans after)
  -- No step but the end of a safepoint's preparation gives a scope.
  cases c with
  | idle | operate _ _ _ | exit _ _ _ _ _ | block _ _ _ _ _ _ _ | guard _ _ | enterRegion _ _ _ _
  | skip | detach _ _ _ | queueUp _ _ _ _ | queueUpDetached _ _ _ => exact (never after).elim
  | leaveRegion _ _ | poll _ _ _ _ | handed _ _ _ | unpark _ _ _ => exact absurd after (same v rfl)
  | attach _ _ _ => exact absurd after (same (v.attach _) rfl)
  | turn _ _ _ _ => exact absurd after (same (v.give _ _) rfl)
  | @turnDetached u _ rest _ _ _ _ =>
    obtain ⟨_, _, eq, -⟩ := request_eq (v.give u rest) u
    rw [eq] at after
    exact (never after).elim
  | @reach u _ _ =>
    replace after : Function.update v.inScope u true w = true := after
    show Function.update v.wait u none w = none
    rw [Function.update_apply] at after ⊢
    split at after
    next eq => rw [if_pos eq]
    next => exact (never after).elim
  | @release u _ _ =>
    unfold Scene.release at after
    split at after
    · replace after : Function.update v.inScope u false w = true := after
      rw [Function.update_apply] at after
      split at after
      · cases after
      · exact (never after).elim
    · exact (never after).elim

end Scene

namespace World

variable {s : World} {w : WorkerId} {t : ThreadId}

/-- What makes a thread look for a request. -/
def LooksForRequest (s : World) (w : WorkerId) (t : ThreadId) : Action → Prop
  | .poll | .allocate _ _ => (s.machine.thread t).guards = 0
  | .endNative => ∃ resume rest, (s.worker w).regions = .native resume :: rest
  | .endBlocked => ∃ resume rest, (s.worker w).regions = .blocked resume :: rest
  | _ => False

/-- A worker has the wait that was set last. -/
lemma worker_setWait (s : World) (w : WorkerId) (x : Option Wait) :
    ((s.setWait w x).worker w).wait = x := by
  rw [setWait, worker_modifyWorker, if_pos rfl]

/-- A thread that leaves a safe state while there is a request parks. -/
lemma leave_parks (requested : s.safepoint.requested = true) (resume : ThreadState) (goal : Goal) :
    (s.leave w t resume goal).1.scene.Parked w := by
  unfold leave
  rw [if_pos requested]
  exact ⟨resume, goal, worker_setWait ..⟩

section Operations

variable (free : (s.worker w).wait = none)
include free

/-- A worker that does not wait is not parked. -/
lemma not_parked : ¬ s.scene.Parked w := fun ⟨_, _, parked⟩ => nomatch free.symm.trans parked

/-- A change of a worker that leaves its wait alone does not park it. -/
lemma modifyWorker_not_parked {f : Worker → Worker} (same : ∀ x, (f x).wait = x.wait) :
    ¬ (s.modifyWorker w f).scene.Parked w := by
  refine not_parked ?_
  rw [worker_modifyWorker, if_pos rfl, same, free]

/-- An operation of the machine does not park the worker, unless what follows does. -/
lemma operate_not_parked {α : Type} {operation : Machine → Outcome α}
    {next : World → α → World × Progress}
    (go : ∀ n a, ¬ (next { s with machine := n } a).1.scene.Parked w) :
    ¬ (s.operate operation next).1.scene.Parked w := by
  cases eq : operation s.machine with
  | ok a n =>
    rw [operate_ok eq]
    exact go n a
  | fault f n =>
    rw [operate_fault eq]
    exact not_parked free

/-- An operation that never waits does not park the worker. -/
lemma conclude_not_parked {α : Type} (answer : α → Answer) (operation : Machine → Outcome α) :
    ¬ (s.conclude answer operation).1.scene.Parked w :=
  operate_not_parked free fun _ _ => not_parked free

/-- An enter may wait for a monitor. -/
lemma enter_not_parked {operation : Machine → Outcome Entry} {goal : Goal}
    {next : World → World × Progress}
    (go : ∀ n, ¬ (next { s with machine := n }).1.scene.Parked w) :
    ¬ (s.enter w operation goal next).1.scene.Parked w := by
  refine operate_not_parked free fun n entry => ?_
  cases entry with
  | entered => exact go n
  | queued id resume =>
    rintro ⟨resume', goal', parked⟩
    cases (worker_setWait _ w _).symm.trans parked

/-- A thread parks when it polls, unless a guard forbids it. -/
lemma poll_parks_iff (requested : s.safepoint.requested = true) (goal : Goal) :
    (s.poll w t goal).1.scene.Parked w ↔ (s.machine.thread t).guards = 0 := by
  unfold poll
  rcases checkSafepoint_cases s.machine t with ⟨unguarded, eq⟩ | ⟨guarded, eq⟩
  · rw [operate_ok eq]
    exact iff_of_true (leave_parks requested _ _) unguarded
  · rw [operate_fault eq]
    exact iff_of_false (not_parked free) guarded

/-- Opening a region does not park the worker. -/
lemma openRegion_not_parked (x : Region) : ¬ (s.openRegion w x).scene.Parked w :=
  modifyWorker_not_parked free fun _ => rfl

/-- The begin of a native or blocked region does not park the worker. -/
lemma beginRegion_not_parked (inside : ThreadState) (region : ThreadState → Region) :
    ¬ (s.beginRegion w t inside region).1.scene.Parked w := by
  refine operate_not_parked free fun n _ => ?_
  exact openRegion_not_parked (s := World.setState { s with machine := n } t inside) free _

/-- The begin of a synchronized region does not park the worker. -/
lemma beginSynchronized_not_parked (o : ObjectId) :
    ¬ (s.beginSynchronized w t o).1.scene.Parked w := by
  rw [beginSynchronized_eq]
  refine operate_not_parked (s := { s with machine := (s.machine.addRecord w).2 }) free
    fun n entered => ?_
  have opened (n : Machine) (x : Region) :
      ¬ (World.openRegion { s with machine := n } w x).scene.Parked w :=
    openRegion_not_parked (s := { s with machine := n }) free x
  unfold openSynchronized
  dsimp only
  split
  · exact opened n _
  · exact enter_not_parked (s := { s with machine := n }) free fun n => opened n _

/-- The end of a synchronized region does not park the worker. -/
lemma endSynchronized_not_parked (result : Progress) :
    ¬ (s.endSynchronized w t result).1.scene.Parked w := by
  unfold endSynchronized
  split
  next =>
    have closed : ((s.closeRegion w).worker w).wait = none := by
      rw [closeRegion, worker_modifyWorker, if_pos rfl, free]
    exact operate_not_parked closed fun _ _ => not_parked closed
  next => exact not_parked free

/-- The end of a safepoint does not park the worker. -/
lemma endSafepoint_not_parked : ¬ (s.endSafepoint w).1.scene.Parked w := by
  unfold endSafepoint
  dsimp only
  split
  · exact not_parked free
  · exact modifyWorker_not_parked (s := World.note { s with safepoint := _ } _) free fun _ => rfl

/-- The end of a native or blocked region parks the worker if it is the innermost one. -/
lemma endRegion_parks_iff (requested : s.safepoint.requested = true) {a : Action}
    (ends : a = .endNative ∨ a = .endBlocked) :
    (s.act w t a).1.scene.Parked w ↔ s.LooksForRequest w t a := by
  obtain rfl | rfl := ends
  all_goals
    dsimp only [act]
    split
    next resume rest inside =>
      exact iff_of_true (leave_parks (s := s.closeRegion w) requested _ _) ⟨resume, rest, inside⟩
    next other =>
      exact iff_of_false (not_parked free) fun ⟨resume, rest, inside⟩ => other resume rest inside

/-- While its own safepoint is requested, a thread parks where it looks for a request. -/
lemma act_parks_iff (requested : s.safepoint.requested = true)
    (ht : (s.worker w).thread = some t) (holds : (s.worker w).inScope = true) (a : Action) :
    (s.act w t a).1.scene.Parked w ↔ s.LooksForRequest w t a := by
  have awake : ¬ s.scene.Parked w := not_parked free
  -- Four actions look for a request, and no other one can park.
  cases a with
  | allocate _ _ | poll => exact poll_parks_iff free requested _
  | endNative => exact endRegion_parks_iff free requested (.inl rfl)
  | endBlocked => exact endRegion_parks_iff free requested (.inr rfl)
  | attach =>
    refine iff_of_false ?_ id
    show ¬ (s.attach w).1.scene.Parked w
    unfold attach
    rw [ht]
    exact awake
  | detach =>
    refine iff_of_false ?_ id
    rw [act_detach, if_pos (.inr holds)]
    exact awake
  | enter o r raw => cases raw <;> exact iff_of_false (enter_not_parked free fun _ => awake) id
  | quickEnter o r raw =>
    cases o <;> cases raw <;> exact iff_of_false (conclude_not_parked free _ _) id
  | exit o r raw => cases raw <;> exact iff_of_false (conclude_not_parked free _ _) id
  | identityHash _ | inflate _ _ | checkSafepoint | tryEnterMonitor _ | exitMonitor _
  | claimMonitor _ _ | store _ _ _ | load _ _ | add _ _ _ =>
    exact iff_of_false (conclude_not_parked free _ _) id
  | beginGuard | monitorHash _ => exact iff_of_false awake id
  | endGuard =>
    refine iff_of_false ?_ id
    rw [act_endGuard]
    split <;> exact awake
  | beginNative | beginBlocked => exact iff_of_false (beginRegion_not_parked free _ _) id
  | beginSynchronized o => exact iff_of_false (beginSynchronized_not_parked free o) id
  | endSynchronized | failSynchronized => exact iff_of_false (endSynchronized_not_parked free _) id
  | beginSafepoint =>
    refine iff_of_false ?_ id
    rw [act_beginSafepoint, if_pos holds]
    exact awake
  | endSafepoint =>
    refine iff_of_false ?_ id
    rw [act_endSafepoint, if_pos holds]
    exact endSafepoint_not_parked free
  | enterMonitor id' => exact iff_of_false (enter_not_parked free fun _ => awake) id

end Operations

/-- A holder that waits for a monitor parks when it has been handed it. -/
lemma wake_parks_iff {id : MonitorId} {resume : ThreadState} {goal : Goal}
    (requested : s.safepoint.requested = true) (ht : (s.worker w).thread = some t)
    (waits : (s.worker w).wait = some (.monitor id resume goal)) :
    (s.wake w).1.scene.Parked w ↔ (s.machine.monitor id).owner = .thread t := by
  have owns : (s.machine.monitor id).isOwner t = true ↔ (s.machine.monitor id).owner = .thread t :=
    beq_iff_eq
  simp only [wake, ht, waits]
  split
  next own => exact iff_of_true (leave_parks requested _ _) (owns.1 own)
  next other =>
    exact iff_of_false (fun ⟨_, _, parked⟩ => nomatch waits.symm.trans parked) (other ∘ owns.2)

/-- Nobody but the holder of a safepoint disarms the barrier. -/
lemma parked_move (h : s.Orderly) (holds : (s.worker w).inScope = true)
    (parked : s.scene.Parked w) (x : Move) : (s.move x).1.worker w = s.worker w := by
  obtain ⟨resume, goal, waits⟩ : ∃ resume goal, (s.worker w).wait = some (.barrier resume goal) :=
    parked
  have armed : s.safepoint.barrier.armed = true := by
    have turn := (h.2.holder w).2 (.inr holds)
    have armed := h.2.armed.trans h.2.requested
    rw [turn] at armed
    exact armed
  by_cases own : x.worker? = some w
  · -- The moves of a parked worker end before they begin.
    cases x with
    | act u a =>
      obtain rfl := Option.some.inj own
      rw [move_of_waits waits]
    | wake u =>
      obtain rfl := Option.some.inj own
      simp only [move, wake, waits]
      split
      next eq => cases eq
      next => rw [if_pos armed]
      next => rfl
    | grant u =>
      obtain rfl := Option.some.inj own
      simp only [move, grant, waits]
      split
      next eq => cases eq
      next => rfl
    | reach u =>
      obtain rfl := Option.some.inj own
      simp only [move, reach, waits]
    | addWorker | addRecord _ => cases own
  · exact worker_move own

/-- What holds of the holder of a safepoint at any time. -/
structure HoldsUp (s : World) : Prop where
  /-- It is awake when it gets its safepoint. -/
  awake : ∀ w x, (s.worker w).inScope = false → ((s.move x).1.worker w).inScope = true →
    ((s.move x).1.worker w).wait = none
  /-- What others do leaves it as it is. -/
  others : ∀ w x, x.worker? ≠ some w → (s.move x).1.worker w = s.worker w
  /-- Of all that it can do, it parks where a thread looks for a request. -/
  begins : ∀ w t a, (s.worker w).inScope = true → (s.worker w).thread = some t →
    (s.worker w).wait = none → ((s.begin w a).1.scene.Parked w ↔ s.LooksForRequest w t a)
  /-- So it does after it has waited for a monitor. -/
  handed : ∀ w t id resume goal, (s.worker w).inScope = true → (s.worker w).thread = some t →
    (s.worker w).wait = some (.monitor id resume goal) →
      ((s.wake w).1.scene.Parked w ↔ (s.machine.monitor id).owner = .thread t)
  /-- Then it is parked for ever. -/
  forever : ∀ w, (s.worker w).inScope = true → s.scene.Parked w →
    ∀ l, (s.after l).worker w = s.worker w

/-- The holder of a safepoint that is parked stays so, whatever the others do. -/
lemma Orderly.parked_forever (h : s.Orderly) (holds : (s.worker w).inScope = true)
    (parked : s.scene.Parked w) (l : List Move) : (s.after l).worker w = s.worker w := by
  induction l generalizing s with
  | nil => rfl
  | cons x l ih =>
    have same := parked_move h holds parked x
    obtain ⟨resume, goal, waits⟩ := parked
    have waits' := (congrArg Worker.wait same).trans waits
    exact (ih (h.move x) (same ▸ holds) ⟨resume, goal, waits'⟩).trans same

/-- In an orderly world the holder of a safepoint parks where it looks for a request, and nowhere
else. -/
lemma Orderly.holdsUp (h : s.Orderly) : s.HoldsUp := by
  have requested {w} (holds : (s.worker w).inScope = true) : s.safepoint.requested = true := by
    have requested : s.safepoint.requested = s.safepoint.holder.isSome := h.2.requested
    have turn : s.safepoint.holder = some w := (h.2.holder w).2 (.inr holds)
    rw [requested, turn]
    rfl
  refine ⟨fun w x before after => (move_moved h.1 x).step.gets_scope before after,
    fun w x => worker_move, fun w t a holds ht free => ?_, fun w t id resume goal holds ht waits =>
      wake_parks_iff (requested holds) ht waits, fun w => h.parked_forever⟩
  rw [begin_attached ht]
  exact act_parks_iff free (requested holds) ht holds a

end World

namespace Run

variable {rule : Rule} {options : Options} {s : World} {h : List Event}

/-- At any time of any run, the holder of a safepoint parks if it looks for a request itself, and
then for ever. -/
theorem safepoint_holder (run : Run rule options s h) : s.HoldsUp := run.orderly.holdsUp

/-- A worker polls during its own safepoint. -/
def selfParked : World × List Event :=
  (World.new (.ofMode .lightweight)).follow []
    [.addWorker, .act 0 .attach, .act 0 .beginSafepoint, .grant 0, .reach 0, .act 0 .poll]

/-- The worker is parked at the barrier that it alone could disarm. -/
theorem safepoint_holder_selfParked : (selfParked.1.worker 0).inScope = true ∧
    (selfParked.1.worker 0).wait = some (.barrier .inManaged .resume) ∧ selfParked.1.HoldsUp :=
  ⟨by decide +kernel, by decide +kernel, safepoint_holder (.follow .new _ (anything.allows _ _ _))⟩

end Run

end ObjectLocks
