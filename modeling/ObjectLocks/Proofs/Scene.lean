import ObjectLocks.Proofs.FastLocking.Effects
import ObjectLocks.Proofs.Runs
import ObjectLocks.Proofs.StackLocking.Effects

/-!
# The scene of a system

Next to the locks, a system has what its waits depend on: the states and guards of the threads, the
monitors, what each worker waits for, and the safepoint. This is the scene of the system. Whatever a
worker does, in any order and also to the monitors themselves, is one of the steps below; in contrast
to the steps of the lock view they do not ask that locks are used with care.

A step also tells whether the barrier was armed or disarmed for the second time in it.
-/

namespace ObjectLocks

namespace Locking

variable {m : Machine} {t : ThreadId} {o : ObjectId} {r : RecordId}

/-- An enter alters the machine or waits, in every mode. -/
lemma enter_enqueues (marked : m.WellMarked) : (enter m t o r).Enqueues t m := by
  unfold enter
  split
  next mode => exact FastLocking.enter_enqueues mode marked
  next mode => exact StackLocking.enter_enqueues mode

/-- A quick enter alters the machine, in every mode. -/
lemma quickEnter_alters (marked : m.WellMarked) : (quickEnter m t o r).Alters t m := by
  unfold quickEnter
  split
  next mode => exact FastLocking.quickEnter_alters mode marked
  next => exact StackLocking.quickEnter_alters

/-- An exit alters the machine or exits a monitor, in every mode. -/
lemma exit_exits (marked : m.WellMarked) : (exit m t o r).Exits t m := by
  unfold exit
  split
  next mode => exact FastLocking.exit_exits mode marked
  next mode => exact StackLocking.exit_exits mode

/-- An inflation alters the machine, in every mode. -/
lemma inflate_alters (marked : m.WellMarked) (cause : InflationCause) :
    (inflate m t o cause).Alters t m := by
  unfold inflate
  split
  next mode => exact FastLocking.inflate_alters mode marked cause
  next mode => exact StackLocking.inflate_alters mode cause

end Locking

namespace Machine

variable {m : Machine} {t : ThreadId} {o : ObjectId} {r : RecordId}

/-- Asking for the identity hash alters the machine, in every mode. -/
lemma identityHash_alters (marked : m.WellMarked) : (m.identityHash t o).Alters t m := by
  unfold identityHash
  split
  next mode => exact FastLocking.identityHash_alters mode marked
  next mode => exact StackLocking.identityHash_alters mode

/-- A warning about a value-based class alters the machine. -/
lemma alters_warnValueBased : m.Alters t (m.warnValueBased t o) := by
  unfold warnValueBased
  split
  · exact alters_note m t _
  · exact .refl t m

/-- An enter with its bookkeeping alters the machine or waits. -/
lemma enter_enqueues (marked : m.WellMarked) : (m.enter t o r).Enqueues t m := by
  refine (checkSafepoint_alters m t).enqueues fun _ n alters => ?_
  have warned : n.Alters t (n.warnValueBased t o) := alters_warnValueBased
  have enters := (Locking.enter_enqueues (t := t) (o := o) (r := r)
    (warned.marked (alters.marked marked))).after warned
  match eq : Locking.enter (n.warnValueBased t o) t o r with
  | .ok .entered k =>
    rw [eq] at enters
    exact Machine.Alters.trans enters (alters_gain k t)
  | .ok (.queued _ _) _ =>
    rw [eq] at enters
    exact enters
  | .fault _ _ =>
    rw [eq] at enters
    exact enters

/-- A quick enter with its bookkeeping alters the machine. -/
lemma quickEnter_alters (marked : m.WellMarked) (x : Option ObjectId) :
    (m.quickEnter t x r).Alters t m := by
  unfold quickEnter
  split
  next => exact ⟨.refl t m, rfl⟩
  next =>
    split
    next => exact Machine.Alters.refl t m
    next =>
      split
      next => exact Machine.Alters.refl t m
      next =>
        refine (Locking.quickEnter_alters marked).bind fun entered n _ => ?_
        show Machine.Alters t n _
        split
        · exact alters_gain n t
        · exact .refl t n

/-- An exit with its bookkeeping alters the machine or exits a monitor. -/
lemma exit_exits (marked : m.WellMarked) : (m.exit t o r).Exits t m :=
  (Locking.exit_exits ((alters_lose m t).marked marked)).after (alters_lose m t) rfl

/-- Loading a slot alters the machine. -/
lemma loadSlot_alters (i : Nat) : (m.loadSlot o i).Alters t m := by
  unfold loadSlot
  dsimp only
  split
  · exact Machine.Alters.refl t m
  · exact ⟨.refl t m, rfl⟩

/-- Updating a slot alters the machine. -/
lemma updateSlot_alters (i : Nat) (f : UInt64 → UInt64) : (m.updateSlot o i f).Alters t m :=
  (loadSlot_alters i).bind fun _ n _ => alters_modifyObject n t o fun _ => rfl

end Machine

/-- The part of a system that waits depend on. -/
@[ext] structure Scene where
  state : ThreadId → ThreadState
  guards : ThreadId → Nat
  registry : List ThreadId
  nextThread : ThreadId
  monitor : MonitorId → Monitor
  thread : WorkerId → Option ThreadId
  wait : WorkerId → Option Wait
  inScope : WorkerId → Bool
  safepoint : Safepoint

/-- The scene of a world. -/
def World.scene (s : World) : Scene where
  state := s.stateOf
  guards t := (s.machine.thread t).guards
  registry := s.machine.registry
  nextThread := s.machine.nextThread
  monitor := s.machine.monitor
  thread w := (s.worker w).thread
  wait w := (s.worker w).wait
  inScope w := (s.worker w).inScope
  safepoint := s.safepoint

/-- Whether an operation ends because the barrier was armed or disarmed for the second time. -/
def Progress.alarm : Progress → Bool
  | failed f => f.ofBarrier
  | _ => false

namespace Scene

/-- The scene with another state of a thread. -/
def setState (v : Scene) (t : ThreadId) (x : ThreadState) : Scene :=
  { v with state := Function.update v.state t x }

/-- The scene with another wait of a worker. -/
def setWait (v : Scene) (w : WorkerId) (x : Option Wait) : Scene :=
  { v with wait := Function.update v.wait w x }

/-- The barrier is armed, and the other threads are waited for. -/
def request (v : Scene) (w : WorkerId) : Scene × Bool :=
  if v.safepoint.barrier.armed then (v, true)
  else
    ({ v with safepoint := { v.safepoint with requested := true, barrier := ⟨true⟩ } }.setWait w
      (some .others), false)

/-- A thread leaves a safe state, or parks. -/
def leave (v : Scene) (w : WorkerId) (t : ThreadId) (resume : ThreadState) (goal : Goal) :
    Scene × Bool :=
  if v.safepoint.requested then
    ((v.setState t .atSafepoint).setWait w (some (.barrier resume goal)), false)
  else if goal = .safepoint then ((v.setState t resume).setWait w none).request w
  else ((v.setState t resume).setWait w none, false)

/-- The turn to request a safepoint is given to a worker. -/
def give (v : Scene) (w : WorkerId) (rest : List WorkerId) : Scene :=
  { v with safepoint := { v.safepoint with holder := some w, queue := rest } }

/-- A worker waits for its turn. -/
def queueUp (v : Scene) (w : WorkerId) (resume : ThreadState) : Scene :=
  { v with safepoint := { v.safepoint with queue := v.safepoint.queue ++ [w] } }.setWait w
    (some (.turn resume))

/-- A worker ends its safepoint. -/
def release (v : Scene) (w : WorkerId) : Scene × Bool :=
  if v.safepoint.barrier.armed then
    ({ v with
      safepoint := ⟨false, ⟨false⟩, none, v.safepoint.queue⟩
      inScope := Function.update v.inScope w false }, false)
  else ({ v with safepoint := { v.safepoint with requested := false } }, true)

/-- A worker attaches, still in the state in which it comes. -/
def attach (v : Scene) (w : WorkerId) : Scene :=
  { v with
    state := Function.update v.state v.nextThread .new
    guards := Function.update v.guards v.nextThread 0
    registry := v.registry ++ [v.nextThread]
    nextThread := v.nextThread + 1
    thread := Function.update v.thread w (some v.nextThread) }

/-- What can happen in a system, as far as waits are concerned. -/
inductive Step (v : Scene) : Scene × Bool → Prop where
  | idle : Step v (v, false)
  | operate {w t f} :
    v.thread w = some t →
    v.wait w = none →
    (∀ id, (v.monitor id).Keeps t (f id)) →
    Step v ({ v with monitor := f }, false)
  | exit {w t f id y} :
    v.thread w = some t →
    v.wait w = none →
    (∀ id, (v.monitor id).Keeps t (f id)) →
    (f id = v.monitor id ∨ ∃ c, (v.monitor id).claim? t c = some (f id)) →
    (f id).exit? t = some y →
    Step v ({ v with monitor := Function.update f id y }, false)
  /-- A thread starts to wait for a monitor. -/
  | block {w t f id goal} :
    v.thread w = some t →
    v.wait w = none →
    v.guards t = 0 →
    (∀ id, (v.monitor id).Keeps t (f id)) →
    (f id).owner ≠ .thread t →
    ((f id).owner = .nobody → (f id).queued ≠ 0) →
    goal ≠ .safepoint →
    Step v (({ v with monitor := Function.update f id ((f id).enqueue t) }.setState t
      .blocked).setWait w (some (.monitor id (v.state t) goal)), false)
  | guard {w t n} :
    v.thread w = some t →
    v.wait w = none →
    Step v ({ v with guards := Function.update v.guards t n }, false)
  | enterRegion {w t x} :
    v.thread w = some t →
    v.wait w = none →
    v.guards t = 0 →
    x.isSafe = true →
    Step v (v.setState t x, false)
  | leaveRegion {w t resume} :
    v.thread w = some t →
    v.wait w = none →
    Step v (v.leave w t resume .resume)
  | poll {w t goal} :
    v.thread w = some t →
    v.wait w = none →
    v.guards t = 0 →
    goal ≠ .safepoint →
    Step v (v.leave w t (v.state t) goal)
  | attach {w} :
    v.thread w = none →
    v.wait w = none →
    v.inScope w = false →
    Step v ((v.attach w).leave w v.nextThread .inManaged (.attach v.nextThread))
  /-- The number of a thread is used up. -/
  | skip : Step v ({ v with nextThread := v.nextThread + 1 }, false)
  | detach {w t} :
    v.thread w = some t →
    v.wait w = none →
    v.inScope w = false →
    Step v ({ v.setState t .terminated with
      registry := World.unregister v.registry t
      thread := Function.update v.thread w none }, false)
  /-- A thread has been handed the monitor that it waits for. -/
  | handed {w t id resume goal} :
    v.thread w = some t →
    v.wait w = some (.monitor id resume goal) →
    (v.monitor id).owner = .thread t →
    Step v (v.leave w t resume goal)
  | unpark {w t resume goal} :
    v.thread w = some t →
    v.wait w = some (.barrier resume goal) →
    v.safepoint.barrier.armed = false →
    Step v (v.leave w t resume goal)
  | queueUp {w t} :
    v.thread w = some t →
    v.wait w = none →
    v.inScope w = false →
    v.guards t = 0 →
    Step v ((v.setState t .blocked).queueUp w (v.state t), false)
  | queueUpDetached {w} :
    v.thread w = none →
    v.wait w = none →
    v.inScope w = false →
    Step v (v.queueUp w .new, false)
  | turn {w t resume rest} :
    v.thread w = some t →
    v.wait w = some (.turn resume) →
    v.safepoint.holder = none →
    v.safepoint.queue = w :: rest →
    Step v ((v.give w rest).leave w t resume .safepoint)
  | turnDetached {w resume rest} :
    v.thread w = none →
    v.wait w = some (.turn resume) →
    v.safepoint.holder = none →
    v.safepoint.queue = w :: rest →
    Step v ((v.give w rest).request w)
  | reach {w} :
    v.wait w = some .others →
    (∀ t ∈ v.registry, some t = v.thread w ∨ (v.state t).isSafe = true) →
    Step v ({ v.setWait w none with inScope := Function.update v.inScope w true }, false)
  | release {w} :
    v.inScope w = true →
    v.wait w = none →
    Step v (v.release w)

variable {v : Scene} {p : Scene × Bool} {w : WorkerId} {t : ThreadId} {resume : ThreadState}
  {goal : Goal}

/-- A worker that requests a safepoint waits for nothing else than the others. -/
lemma request_eq (v : Scene) (w : WorkerId) : ∃ x q,
    (v.request w).1 = { v with wait := Function.update v.wait w x, safepoint := q } ∧
      (x = v.wait w ∨ x = some .others) := by
  unfold request
  split
  next => exact ⟨_, _, by rw [Function.update_eq_self], .inl rfl⟩
  next => exact ⟨_, _, rfl, .inr rfl⟩

/-- A thread that leaves a safe state waits at most for the barrier, or for a safepoint. -/
lemma leave_eq (v : Scene) (w : WorkerId) (t : ThreadId) (resume : ThreadState) (goal : Goal) :
    ∃ y x q, (v.leave w t resume goal).1 = { v with
        state := Function.update v.state t y
        wait := Function.update v.wait w x
        safepoint := q } ∧
      (x = none ∨ x = some (.barrier resume goal) ∨ x = some .others ∧ goal = .safepoint) := by
  unfold leave
  split
  next => exact ⟨_, _, _, rfl, .inr (.inl rfl)⟩
  next =>
    split
    next last =>
      obtain ⟨x, q, eq, hx⟩ := request_eq ((v.setState t resume).setWait w none) w
      refine ⟨resume, x, q, ?_, hx.imp (·.trans (Function.update_self ..)) fun others =>
        .inr ⟨others, last⟩⟩
      rw [eq]
      unfold setWait setState
      simp only [Function.update_idem]
    next => exact ⟨_, _, _, rfl, .inl rfl⟩

/-- No two workers are attached as the same thread, and no number is used for a second thread. -/
structure Distinct (v : Scene) : Prop where
  unique : ∀ w w' t, v.thread w = some t → v.thread w' = some t → w = w'
  lt : ∀ w t, v.thread w = some t → t < v.nextThread

namespace Distinct

/-- A worker that attaches takes a number that nobody has. -/
lemma attach (h : v.Distinct) (w : WorkerId) : (v.attach w).Distinct := by
  have old {w' t} (ht : v.thread w' = some t) : t ≠ v.nextThread := Nat.ne_of_lt (h.lt w' t ht)
  refine ⟨fun w₁ w₂ t h₁ h₂ => ?_, fun w' t ht => ?_⟩
  · replace h₁ : Function.update v.thread w (some v.nextThread) w₁ = some t := h₁
    replace h₂ : Function.update v.thread w (some v.nextThread) w₂ = some t := h₂
    rw [Function.update_apply] at h₁ h₂
    split at h₁ <;> split at h₂
    next eq eq' => exact eq.trans eq'.symm
    next => exact absurd (Option.some.inj h₁).symm (old h₂)
    next => exact absurd (Option.some.inj h₂).symm (old h₁)
    next => exact h.unique w₁ w₂ t h₁ h₂
  · replace ht : Function.update v.thread w (some v.nextThread) w' = some t := ht
    rw [Function.update_apply] at ht
    split at ht
    next => exact Option.some.inj ht ▸ Nat.lt_succ_self _
    next => exact Nat.lt_succ_of_lt (h.lt w' t ht)

/-- Leaving a safe state keeps workers and threads apart. -/
lemma leave (h : v.Distinct) : (v.leave w t resume goal).1.Distinct := by
  obtain ⟨y, x, q, eq, -⟩ := leave_eq v w t resume goal
  rw [eq]
  exact ⟨h.unique, h.lt⟩

/-- Every step keeps workers and threads apart. -/
lemma step (h : v.Distinct) (c : Step v p) : p.1.Distinct := by
  cases c with
  | idle | operate _ _ _ | exit _ _ _ _ _ | block _ _ _ _ _ _ _ | guard _ _ | enterRegion _ _ _ _
  | queueUp _ _ _ _ | queueUpDetached _ _ _ | reach _ _ => exact ⟨h.unique, h.lt⟩
  | leaveRegion _ _ | poll _ _ _ _ | handed _ _ _ | unpark _ _ _ => exact h.leave
  | attach _ _ _ => exact (h.attach _).leave
  | skip => exact ⟨h.unique, fun w t ht => Nat.lt_succ_of_lt (h.lt w t ht)⟩
  | @detach w t _ _ _ =>
    have old {w' u} (ht : Function.update v.thread w none w' = some u) : v.thread w' = some u := by
      rw [Function.update_apply] at ht
      split at ht
      · cases ht
      · exact ht
    exact ⟨fun w₁ w₂ u h₁ h₂ => h.unique w₁ w₂ u (old h₁) (old h₂),
      fun w' u ht => h.lt w' u (old ht)⟩
  | turn _ _ _ _ => exact (Distinct.mk h.unique h.lt : (v.give _ _).Distinct).leave
  | @turnDetached w _ rest _ _ _ _ =>
    obtain ⟨x, q, eq, -⟩ := request_eq (v.give w rest) w
    rw [eq]
    exact ⟨h.unique, h.lt⟩
  | release _ _ =>
    unfold release
    split <;> exact ⟨h.unique, h.lt⟩

/-- Nobody is attached in a new system. -/
lemma new (options : Options) : (World.new options).scene.Distinct :=
  ⟨fun _ _ _ h₁ => (nomatch h₁), fun _ _ h₁ => (nomatch h₁)⟩

end Distinct

end Scene

namespace World

open Scene (Step)

variable {s : World} {w : WorkerId} {t : ThreadId}

/-- A change of a worker that leaves its thread, its wait and its safepoint alone is not seen in the
scene. -/
lemma scene_modifyWorker {f : Worker → Worker} (thread : ∀ x, (f x).thread = x.thread)
    (wait : ∀ x, (f x).wait = x.wait) (inScope : ∀ x, (f x).inScope = x.inScope) :
    (s.modifyWorker w f).scene = s.scene := by
  ext1 <;> try rfl
  all_goals
    funext w'
    show _ = _
    simp only [scene, worker_modifyWorker]
    split
    next eq => simp only [thread, wait, inScope, eq]
    next => rfl

/-- A region that is opened is not seen in the scene. -/
@[simp] lemma scene_openRegion (x : Region) : (s.openRegion w x).scene = s.scene :=
  scene_modifyWorker (fun _ => rfl) (fun _ => rfl) fun _ => rfl

/-- A region that is closed is not seen in the scene. -/
@[simp] lemma scene_closeRegion : (s.closeRegion w).scene = s.scene :=
  scene_modifyWorker (fun _ => rfl) (fun _ => rfl) fun _ => rfl

/-- A new wait of a worker is one in the scene. -/
@[simp] lemma scene_setWait (x : Option Wait) : (s.setWait w x).scene = s.scene.setWait w x := by
  ext1 <;> try rfl
  all_goals
    funext w'
    simp only [scene, setWait, worker_modifyWorker, Scene.setWait, Function.update_apply]
    split
    next eq => simp only [eq]
    next => rfl

/-- A new state of a thread is one in the scene. -/
@[simp] lemma scene_setState (x : ThreadState) : (s.setState t x).scene = s.scene.setState t x := by
  ext1 <;> try rfl
  all_goals
    funext u
    simp only [scene, stateOf, setState, Machine.setState, Machine.thread_modifyThread,
      Scene.setState, Function.update_apply]
    split <;> rfl

/-- The begin or the end of holding a safepoint is seen in the scene. -/
lemma scene_setScope (b : Bool) : (s.modifyWorker w fun y => { y with inScope := b }).scene =
    { s.scene with inScope := Function.update s.scene.inScope w b } := by
  ext1 <;> try rfl
  all_goals
    funext w'
    simp only [scene, worker_modifyWorker, Function.update_apply]
    split
    next eq => simp only [eq]
    next => rfl

/-- What thread `t` alters is seen in the monitors only. -/
lemma scene_alters {n : Machine} (alters : s.machine.Alters t n) :
    { s with machine := n }.scene = { s.scene with monitor := n.monitor } := by
  ext1 <;> try rfl
  · exact funext alters.state
  · exact funext alters.guards
  · exact alters.registry
  · exact alters.nextThread

/-- The scene that a result shows. -/
def shown (p : World × Progress) : Scene × Bool := (p.1.scene, p.2.alarm)

/-- A request for a safepoint is one in the scene. -/
lemma shown_request : shown (s.request w) = s.scene.request w := by
  unfold request Scene.request Barrier.arm
  show _ = if s.safepoint.barrier.armed then _ else _
  cases s.safepoint.barrier.armed with
  | true => rfl
  | false =>
    show ((World.setWait _ w _).scene, _) = _
    rw [scene_setWait]
    rfl

/-- What is left of an operation is not seen in the scene, unless it is a request for a safepoint.
-/
lemma shown_finish (goal : Goal) : shown (s.finish w t goal) =
    if goal = .safepoint then s.scene.request w else (s.scene, false) := by
  cases goal with
  | attach _ | resume => rfl
  | allocate label c =>
    show ({ s with machine := _ }.scene, false) = _
    rw [scene_alters (Machine.alters_allocate s.machine t label c)]
    rfl
  | countLock =>
    show ({ s with machine := _ }.scene, false) = _
    rw [scene_alters (Machine.alters_gain s.machine t)]
    rfl
  | synchronized o r =>
    show ((World.openRegion { s with machine := _ } _ _).scene, false) = _
    rw [scene_openRegion, scene_alters (Machine.alters_gain s.machine t)]
    rfl
  | safepoint => exact shown_request

/-- A thread that leaves a safe state does so in the scene. -/
lemma shown_leave (resume : ThreadState) (goal : Goal) :
    shown (s.leave w t resume goal) = s.scene.leave w t resume goal := by
  unfold leave Scene.leave
  show _ = if s.safepoint.requested then _ else _
  split
  next =>
    show ((World.setWait _ _ _).scene, false) = _
    rw [scene_setWait, scene_setState]
  next => rw [shown_finish, scene_setWait, scene_setState]

/-- What a worker did is a step of the scene. -/
structure Moved (s : World) (p : World × Progress) : Prop where
  step : Step s.scene (shown p)
  marked : p.1.machine.WellMarked

/-- Doing nothing is a step. -/
lemma Moved.idle (marked : s.machine.WellMarked) {p : Progress} (calm : p.alarm = false) :
    s.Moved (s, p) := by
  refine ⟨?_, marked⟩
  unfold shown
  rw [calm]
  exact .idle

/-- A safepoint check goes on if the thread has no guards, and fails otherwise. -/
lemma checkSafepoint_cases (m : Machine) (t : ThreadId) :
    (m.thread t).guards = 0 ∧ m.checkSafepoint t = .ok () m ∨
      (m.thread t).guards ≠ 0 ∧ m.checkSafepoint t = .fault .noSafepointRegion m := by
  unfold Machine.checkSafepoint
  split
  next unguarded => exact .inl ⟨unguarded, rfl⟩
  next guarded => exact .inr ⟨guarded, rfl⟩

section Operations

variable (marked : s.machine.WellMarked)
include marked

/-- An operation that checks the safepoint first and leaves the system alone if it must not go on. -/
lemma checked_moved {next : World → Unit → World × Progress}
    (go : (s.machine.thread t).guards = 0 → s.Moved (next s ())) :
    s.Moved (s.operate (·.checkSafepoint t) next) := by
  rcases checkSafepoint_cases s.machine t with ⟨unguarded, eq⟩ | ⟨-, eq⟩
  · rw [operate_ok eq]
    exact go unguarded
  · rw [operate_fault eq]
    exact .idle marked rfl

/-- Leaving a safe state changes no header. -/
lemma leave_marked (resume : ThreadState) (goal : Goal) :
    (s.leave w t resume goal).1.machine.WellMarked := by
  unfold leave
  split
  next => exact marked
  next =>
    cases goal with
    | attach _ | resume | countLock | synchronized _ _ => exact marked
    | allocate _ _ => exact (Machine.alters_allocate _ t _ _).marked marked
    | safepoint =>
      show (World.request _ w).1.machine.WellMarked
      unfold request
      split <;> exact marked

variable (ht : (s.worker w).thread = some t) (free : (s.worker w).wait = none)
include ht free

/-- An alteration of the machine is a step. -/
lemma alters_moved {n : Machine} (alters : s.machine.Alters t n) {p : Progress}
    (calm : p.alarm = false) : s.Moved ({ s with machine := n }, p) := by
  refine ⟨?_, alters.marked marked⟩
  unfold shown
  rw [scene_alters alters, calm]
  exact .operate ht free alters.monitor

/-- An operation that alters the machine is a step. -/
lemma conclude_moved {α : Type} {answer : α → Answer} {operation : Machine → Outcome α}
    (alters : (operation s.machine).Alters t s.machine) :
    s.Moved (s.conclude answer operation) := by
  cases eq : operation s.machine with
  | ok a n =>
    rw [eq] at alters
    rw [conclude_ok eq]
    exact alters_moved marked ht free alters rfl
  | fault f n =>
    rw [eq] at alters
    rw [conclude_fault eq]
    exact alters_moved marked ht free alters.1 alters.2

/-- An exit of a monitor is a step. -/
lemma exits_moved {n : Machine} (exits : s.machine.Exits t n) {p : Progress}
    (calm : p.alarm = false) : s.Moved ({ s with machine := n }, p) := by
  obtain ⟨k, id, y, alters, owned, exits, rfl⟩ := exits
  refine ⟨?_, alters.marked marked⟩
  have e : { s with machine := k.setMonitor id y }.scene =
      { s.scene with monitor := Function.update k.monitor id y } := by
    ext1 <;> try rfl
    · exact funext alters.state
    · exact funext alters.guards
    · exact alters.registry
    · exact alters.nextThread
    · exact Machine.monitor_setMonitor k id y
  unfold shown
  rw [e, calm]
  exact .exit ht free alters.monitor owned exits

/-- An operation that alters the machine or exits a monitor is a step. -/
lemma exit_moved {operation : Machine → Outcome Unit}
    (exits : (operation s.machine).Exits t s.machine) {p : Progress} (calm : p.alarm = false) :
    s.Moved (s.operate operation fun s _ => (s, p)) := by
  cases eq : operation s.machine with
  | ok a n =>
    rw [eq] at exits
    rw [operate_ok eq]
    rcases exits with alters | exits
    · exact alters_moved marked ht free alters calm
    · exact exits_moved marked ht free exits calm
  | fault f n =>
    rw [eq] at exits
    rw [operate_fault eq]
    exact alters_moved marked ht free exits.1 exits.2

/-- A thread that waits for a monitor is blocked in its queue. -/
lemma queued_moved {id : MonitorId} {resume : ThreadState} {goal : Goal} {n : Machine}
    (queued : (Outcome.ok (.queued id resume) n).Enqueues t s.machine) (other : goal ≠ .safepoint) :
    s.Moved ({ s with machine := n }.setWait w (some (.monitor id resume goal)), .waiting) := by
  obtain ⟨k, alters, unguarded, state, owner, busy, rfl⟩ := queued
  refine ⟨?_, alters.marked marked⟩
  have e : { s with
        machine := (k.setMonitor id ((k.monitor id).enqueue t)).setState t .blocked }.scene =
      { s.scene with
        monitor := Function.update k.monitor id ((k.monitor id).enqueue t) }.setState t
          .blocked := by
    have e' := scene_setState (s := { s with
      machine := k.setMonitor id ((k.monitor id).enqueue t) }) (t := t) .blocked
    refine e'.trans ?_
    congr 1
    ext1 <;> try rfl
    · exact funext alters.state
    · exact funext alters.guards
    · exact alters.registry
    · exact alters.nextThread
    · exact Machine.monitor_setMonitor ..
  have same : resume = s.scene.state t := state.symm.trans (alters.state t)
  unfold shown
  rw [scene_setWait, e, same]
  exact .block ht free ((alters.guards t).symm.trans unguarded) alters.monitor owner busy other

/-- An enter of a thread that has altered the machine into `k` before. -/
lemma enter_moved {k : Machine} {operation : Machine → Outcome Entry} {goal : Goal}
    {next : World → World × Progress} (enters : (operation k).Enqueues t s.machine)
    (other : goal ≠ .safepoint) (scene : ∀ s, shown (next s) = (s.scene, false))
    (machine : ∀ s, (next s).1.machine = s.machine) :
    s.Moved (({ s with machine := k } : World).enter w operation goal next) := by
  unfold enter
  match eq : operation k with
  | .ok .entered n =>
    rw [eq] at enters
    rw [operate_ok eq]
    obtain ⟨step, marked'⟩ := alters_moved marked ht free enters (p := .waiting) rfl
    refine ⟨?_, ?_⟩
    · show Step _ (shown (next _))
      rw [scene]
      exact step
    · show (next _).1.machine.WellMarked
      rw [machine]
      exact marked'
  | .ok (.queued id resume) n =>
    rw [eq] at enters
    rw [operate_ok eq]
    exact queued_moved marked ht free enters other
  | .fault f n =>
    rw [eq] at enters
    rw [operate_fault eq]
    exact alters_moved marked ht free enters.1 enters.2

/-- An enter that is all of an operation is a step. -/
lemma concludeEnter_moved {operation : Machine → Outcome Entry} {goal : Goal}
    (enters : (operation s.machine).Enqueues t s.machine) (other : goal ≠ .safepoint) :
    s.Moved (s.concludeEnter w goal operation) :=
  enter_moved (k := s.machine) marked ht free enters other (fun _ => rfl) fun _ => rfl

/-- An exit that is all of an operation is a step. -/
lemma concludeExit_moved {operation : Machine → Outcome Unit}
    (exits : (operation s.machine).Exits t s.machine) :
    s.Moved (s.conclude (fun _ => .done) operation) := exit_moved marked ht free exits rfl

/-- A poll is a step. -/
lemma poll_moved {goal : Goal} (other : goal ≠ .safepoint) : s.Moved (s.poll w t goal) := by
  refine checked_moved marked fun unguarded => ⟨?_, leave_marked marked _ _⟩
  rw [shown_leave]
  exact .poll ht free unguarded other

/-- The begin of a native or blocked region is a step. -/
lemma beginRegion_moved {inside : ThreadState} (safe : inside.isSafe = true)
    (region : ThreadState → Region) : s.Moved (s.beginRegion w t inside region) := by
  refine checked_moved marked fun unguarded => ⟨?_, marked⟩
  show Step _ ((World.openRegion _ _ _).scene, false)
  rw [scene_openRegion, scene_setState]
  exact .enterRegion ht free unguarded safe

/-- The end of a native or blocked region is a step. -/
lemma endRegion_moved {a : Action} (ends : a = .endNative ∨ a = .endBlocked) :
    s.Moved (s.act w t a) := by
  obtain eq | ⟨_, _, resume, -, -, eq⟩ := act_endRegion (s := s) (w := w) (t := t) ends
  all_goals rw [eq]
  · exact .idle marked rfl
  refine ⟨?_, leave_marked (s := s.closeRegion w) marked _ _⟩
  rw [shown_leave, scene_closeRegion]
  exact .leaveRegion ht free

/-- A new number of guards is a step. -/
lemma guard_moved (f : Thread → Thread) (n : Nat) (guards : (f (s.machine.thread t)).guards = n)
    (state : ∀ x, (f x).state = x.state) :
    s.Moved ({ s with machine := s.machine.modifyThread t f }, .answered .done) := by
  refine ⟨?_, marked⟩
  have e : { s with machine := s.machine.modifyThread t f }.scene =
      { s.scene with guards := Function.update s.scene.guards t n } := by
    ext1 <;> try rfl
    · funext u
      simp only [scene, stateOf, Machine.thread_modifyThread]
      split
      · exact state _
      · rfl
    · funext u
      simp only [scene, Machine.thread_modifyThread, Function.update_apply]
      split
      next eq => rw [eq, guards]
      next => rfl
  show Step _ (World.scene _, false)
  rw [e]
  exact .guard ht free

/-- A detachment is a step. -/
lemma detach_moved (unscoped : (s.worker w).inScope = false) : s.Moved (s.detach w t) := by
  refine ⟨?_, marked⟩
  have e : (s.detach w t).1.scene = { s.scene.setState t .terminated with
      registry := World.unregister s.scene.registry t
      thread := Function.update s.scene.thread w none } := by
    have state := congrArg Scene.state (scene_setState (s := s) (t := t) .terminated)
    have guards := congrArg Scene.guards (scene_setState (s := s) (t := t) .terminated)
    unfold detach
    ext1 <;> try rfl
    · exact state
    · exact guards
    all_goals
      funext w'
      simp only [scene, worker_modifyWorker, Function.update_apply]
      split
      next eq => first | rfl | rw [eq]; rfl
      next => rfl
  show Step _ ((s.detach w t).1.scene, false)
  rw [e]
  exact .detach ht free unscoped

/-- The begin of a synchronized region is a step. -/
lemma beginSynchronized_moved (o : ObjectId) : s.Moved (s.beginSynchronized w t o) := by
  let r := s.machine.records.size
  let n := (s.machine.addRecord w).2
  have added : s.machine.Alters t n :=
    ⟨rfl, rfl, rfl, fun _ => rfl, fun _ => rfl, fun _ => .refl .., fun all => all⟩
  have opened {s' : World} : shown (s'.openRegion w (.synchronized o r), .answered .begun) =
      (s'.scene, false) := by
    show ((s'.openRegion _ _).scene, false) = _
    rw [scene_openRegion]
  have quick := (Machine.quickEnter_alters (t := t) (r := r) (added.marked marked)
    (some o)).after added
  rw [beginSynchronized_eq]
  match eq : n.quickEnter t (some o) r with
  | .fault f k =>
    rw [eq] at quick
    rw [operate_fault eq]
    exact alters_moved marked ht free quick.1 quick.2
  | .ok true k =>
    rw [eq] at quick
    rw [operate_ok eq]
    obtain ⟨step, marked'⟩ := alters_moved marked ht free quick (p := .waiting) rfl
    refine ⟨?_, marked'⟩
    show Step _ (shown (World.openRegion _ _ _, _))
    rw [opened]
    exact step
  | .ok false k =>
    rw [eq] at quick
    rw [operate_ok eq]
    rw [openSynchronized, if_neg Bool.false_ne_true]
    exact enter_moved (k := k) marked ht free
      ((Machine.enter_enqueues (Machine.Alters.marked quick marked)).after quick) nofun
      (fun _ => opened) fun _ => rfl

/-- The end of a synchronized region is a step. -/
lemma endSynchronized_moved {result : Progress} (calm : result.alarm = false) :
    s.Moved (s.endSynchronized w t result) := by
  unfold endSynchronized
  split
  next o r _ _ =>
    have thread : ((s.closeRegion w).worker w).thread = some t :=
      (congrFun (congrArg Scene.thread scene_closeRegion) w).trans ht
    have wait : ((s.closeRegion w).worker w).wait = none :=
      (congrFun (congrArg Scene.wait scene_closeRegion) w).trans free
    have exits : (s.closeRegion w).Moved
        ((s.closeRegion w).operate (·.exit t o r) fun s _ => (s, result)) :=
      exit_moved (s := s.closeRegion w) marked thread wait (Machine.exit_exits marked) calm
    obtain ⟨step, marked'⟩ := exits
    rw [scene_closeRegion] at step
    exact ⟨step, marked'⟩
  next => exact .idle marked rfl

end Operations

/-- An attachment is a step, whether it succeeds or not. -/
lemma attach_moved (marked : s.machine.WellMarked) (free : (s.worker w).wait = none)
    (unscoped : (s.worker w).thread = none → (s.worker w).inScope = false) :
    s.Moved (s.attach w) := by
  unfold attach
  dsimp only
  split
  next => exact ⟨.skip, marked⟩
  next detached =>
    generalize hs : World.modifyWorker _ w _ = s'
    have e : s'.scene = s.scene.attach w := by
      rw [← hs]
      ext1 <;> try rfl
      · funext u
        simp only [scene, modifyWorker, stateOf, Machine.thread, Store.get_set, Scene.attach,
          Function.update_apply]
        split <;> rfl
      · funext u
        simp only [scene, modifyWorker, Machine.thread, Store.get_set, Scene.attach,
          Function.update_apply]
        split <;> rfl
      all_goals
        funext w'
        simp only [scene, worker_modifyWorker, Scene.attach, Function.update_apply]
        split
        next eq => first | rfl | rw [eq]; rfl
        next => rfl
    have marked' : s'.machine.WellMarked := by
      rw [← hs]
      exact marked
    refine ⟨?_, leave_marked marked' _ _⟩
    rw [shown_leave, e]
    exact .attach detached free (unscoped detached)

/-- Waiting for the turn to request a safepoint is a step. -/
lemma beginSafepoint_moved (marked : s.machine.WellMarked) (free : (s.worker w).wait = none)
    (unscoped : (s.worker w).inScope = false) : s.Moved (s.beginSafepoint w) := by
  have queued (s' : World) (resume : ThreadState) :
      ({ s' with safepoint := { s'.safepoint with
        queue := s'.safepoint.queue ++ [w] } }.setWait w (some (.turn resume))).scene =
        s'.scene.queueUp w resume := by
    rw [scene_setWait]
    rfl
  unfold beginSafepoint
  dsimp only
  split
  next detached =>
    refine ⟨?_, marked⟩
    show Step _ (World.scene _, false)
    rw [queued]
    exact .queueUpDetached detached free unscoped
  next t ht =>
    refine checked_moved marked fun unguarded => ⟨?_, marked⟩
    show Step _ ((World.setWait _ _ _).scene, false)
    rw [queued, scene_setState]
    exact .queueUp ht free unscoped unguarded

/-- The end of a safepoint is a step. -/
lemma endSafepoint_moved (marked : s.machine.WellMarked) (free : (s.worker w).wait = none)
    (holds : (s.worker w).inScope = true) : s.Moved (s.endSafepoint w) := by
  have machine : (s.endSafepoint w).1.machine.WellMarked := by
    unfold endSafepoint
    dsimp only
    split <;> exact marked
  have e : shown (s.endSafepoint w) = s.scene.release w := by
    unfold endSafepoint Scene.release
    cases armed : s.safepoint.barrier.armed with
    | false =>
      rw [if_neg (by rw [show s.scene.safepoint = s.safepoint from rfl, armed]; exact nofun)]
      simp only [Barrier.disarm, armed, Bool.false_eq_true, if_false]
      rfl
    | true =>
      rw [if_pos (by exact armed)]
      simp only [Barrier.disarm, armed, if_true]
      exact congrArg (·, false) (scene_setScope false)
  refine ⟨?_, machine⟩
  rw [e]
  exact .release holds free

/-- Every action of an attached worker is a step. -/
lemma act_moved (marked : s.machine.WellMarked) (ht : (s.worker w).thread = some t)
    (free : (s.worker w).wait = none) (a : Action) : s.Moved (s.act w t a) := by
  have idle {p : Progress} (calm : p.alarm = false) : s.Moved (s, p) := .idle marked calm
  cases a with
  | attach => exact attach_moved marked free fun detached => nomatch ht.symm.trans detached
  | detach =>
    rw [act_detach]
    split
    next => exact idle rfl
    next may => exact detach_moved marked ht free (by simpa using fun h => may (.inr h))
  | allocate _ _ | poll => exact poll_moved marked ht free nofun
  | enter o r raw =>
    cases raw with
    | true => exact concludeEnter_moved marked ht free (Locking.enter_enqueues marked) nofun
    | false => exact concludeEnter_moved marked ht free (Machine.enter_enqueues marked) nofun
  | quickEnter o r raw =>
    have counted : s.Moved (s.conclude .flag (·.quickEnter t o r)) :=
      conclude_moved marked ht free (Machine.quickEnter_alters marked o)
    cases o with
    | none => cases raw <;> exact counted
    | some o =>
      cases raw with
      | true => exact conclude_moved marked ht free (Locking.quickEnter_alters marked)
      | false => exact counted
  | exit o r raw =>
    cases raw with
    | true => exact concludeExit_moved marked ht free (Locking.exit_exits marked)
    | false => exact concludeExit_moved marked ht free (Machine.exit_exits marked)
  | identityHash o => exact conclude_moved marked ht free (Machine.identityHash_alters marked)
  | inflate o cause => exact conclude_moved marked ht free (Locking.inflate_alters marked cause)
  | checkSafepoint => exact conclude_moved marked ht free (Machine.checkSafepoint_alters _ _)
  | beginGuard => exact guard_moved marked ht free _ _ rfl fun _ => rfl
  | endGuard =>
    rw [act_endGuard]
    split
    next => exact idle rfl
    next => exact guard_moved marked ht free _ _ rfl fun _ => rfl
  | beginNative | beginBlocked => exact beginRegion_moved marked ht free rfl _
  | endNative => exact endRegion_moved marked ht free (.inl rfl)
  | endBlocked => exact endRegion_moved marked ht free (.inr rfl)
  | beginSynchronized o => exact beginSynchronized_moved marked ht free o
  | endSynchronized | failSynchronized => exact endSynchronized_moved marked ht free rfl
  | beginSafepoint =>
    rw [act_beginSafepoint]
    split
    next => exact idle rfl
    next unscoped => exact beginSafepoint_moved marked free (by simpa using unscoped)
  | endSafepoint =>
    rw [act_endSafepoint]
    split
    next holds => exact endSafepoint_moved marked free holds
    next => exact idle rfl
  | enterMonitor id =>
    exact concludeEnter_moved marked ht free (Machine.enterMonitor_enqueues _ _ _) nofun
  | tryEnterMonitor id =>
    exact conclude_moved marked ht free (Machine.tryEnterMonitor_alters _ _ _)
  | exitMonitor id => exact concludeExit_moved marked ht free (Machine.exitMonitor_exits _ _ _)
  | monitorHash id => exact alters_moved marked ht free (Machine.alters_monitorHash _ _ _) rfl
  | claimMonitor id n => exact conclude_moved marked ht free (Machine.claimMonitor_alters _ _ _ _)
  | store o i v | add o i v => exact conclude_moved marked ht free (Machine.updateSlot_alters _ _)
  | load o i => exact conclude_moved marked ht free (Machine.loadSlot_alters _)

/-- Every operation that a worker begins is a step. -/
lemma begin_moved (marked : s.machine.WellMarked) (free : (s.worker w).wait = none) (a : Action) :
    s.Moved (s.begin w a) := by
  cases ht : (s.worker w).thread with
  | some t =>
    rw [begin_attached ht]
    exact act_moved marked ht free a
  | none =>
    rcases begin_detached ht a with eq | ⟨-, unscoped, eq⟩ | ⟨-, unscoped, eq⟩ | ⟨-, holds, eq⟩
    all_goals rw [eq]
    · exact .idle marked rfl
    · exact attach_moved marked free fun _ => unscoped
    · exact beginSafepoint_moved marked free unscoped
    · exact endSafepoint_moved marked free holds

/-- The end of a wait for a monitor or at the barrier is a step. -/
lemma wake_moved (marked : s.machine.WellMarked) : s.Moved (s.wake w) := by
  unfold wake
  split
  next t id resume goal ht hw =>
    split
    next own =>
      refine ⟨?_, leave_marked marked _ _⟩
      rw [shown_leave]
      exact .handed ht hw (beq_iff_eq.1 own)
    next => exact .idle marked rfl
  next t resume goal ht hw =>
    split
    next => exact .idle marked rfl
    next released =>
      refine ⟨?_, leave_marked marked _ _⟩
      rw [shown_leave]
      exact .unpark ht hw (Bool.eq_false_iff.2 released)
  next => exact .idle marked rfl

/-- The turn to request a safepoint is a step. -/
lemma grant_moved (marked : s.machine.WellMarked) : s.Moved (s.grant w) := by
  unfold grant
  split
  next next rest resume holder queue hw =>
    split
    next eq =>
      subst eq
      let turned : World :=
        { s with safepoint := { s.safepoint with holder := some next, queue := rest } }
      have e : turned.scene = s.scene.give next rest := rfl
      dsimp only
      split
      next t ht =>
        refine ⟨?_, leave_marked (s := turned) marked _ _⟩
        rw [shown_leave (s := turned), e]
        exact .turn ht hw holder queue
      next ht =>
        refine ⟨?_, ?_⟩
        · rw [shown_request (s := turned), e]
          exact .turnDetached ht hw holder queue
        · unfold request
          split <;> exact marked
    next => exact .idle marked rfl
  next => exact .idle marked rfl

/-- A safepoint that is reached is a step. -/
lemma reach_moved (marked : s.machine.WellMarked) : s.Moved (s.reach w) := by
  unfold reach
  split
  next hw =>
    split
    next safe =>
      refine ⟨?_, marked⟩
      have waits : ((s.setWait w none).note .safepointReached).scene = s.scene.setWait w none :=
        scene_setWait none
      show Step _ (World.scene _, false)
      rw [scene_setScope, waits]
      refine .reach hw fun t mem => ?_
      have other := List.all_eq_true.1 safe t mem
      exact (Bool.or_eq_true_iff.1 other).imp_left beq_iff_eq.1
    next => exact .idle marked rfl
  next => exact .idle marked rfl

/-- A new worker is not seen in the scene. -/
lemma scene_addWorker (s : World) : s.addWorker.2.scene = s.scene := by
  -- The number of the new worker had the same value before.
  have same : (s.workers.push default).get = s.workers.get := by
    rw [Store.get_push, ← Store.get_size, Function.update_eq_self]
  ext1 <;> try rfl
  all_goals
    funext w
    simp only [scene, worker, addWorker, same]

/-- Every move is a step, whatever the worker does. -/
theorem move_moved (marked : s.machine.WellMarked) (x : Move) : s.Moved (s.move x) := by
  cases x with
  | act w a =>
    unfold move
    dsimp only
    split
    next => exact .idle marked rfl
    next free => exact begin_moved marked (by simpa using free) a
  | wake w => exact wake_moved marked
  | grant w => exact grant_moved marked
  | reach w => exact reach_moved marked
  | addWorker =>
    refine ⟨?_, marked⟩
    show Step _ (s.addWorker.2.scene, false)
    rw [scene_addWorker]
    exact .idle
  | addRecord w => exact ⟨.idle, marked⟩

end World

/-- The rule that allows every move. -/
def anything : Rule := fun _ _ _ => True

/-- Every sequence of moves is allowed. -/
lemma anything.allows (s : World) (h : List Event) (l : List Move) : anything.Allows s h l := by
  induction l generalizing s h with
  | nil => trivial
  | cons x l ih => exact ⟨trivial, ih _ _⟩

namespace Run

variable {rule : Rule} {options : Options} {s : World} {h : List Event}

/-- A new machine has no entries in its table. -/
lemma wellMarked_new (options : Options) : (World.new options).machine.WellMarked :=
  fun _ _ => ⟨nofun, fun entry => absurd rfl entry⟩

/-- Fast-locking leaves every header as it should in every run. -/
lemma wellMarked (run : Run rule options s h) : s.machine.WellMarked := by
  induction run with
  | new => exact wellMarked_new options
  | move _ _ ih => exact (World.move_moved ih _).marked

/-- What every step of the scene keeps holds after every run. -/
theorem keeps {P : Scene → Prop} (run : Run rule options s h) (new : P (World.new options).scene)
    (step : ∀ {v p}, P v → Scene.Step v p → P p.1) : P s.scene := by
  induction run with
  | new => exact new
  | move run _ ih => exact step ih (World.move_moved run.wellMarked _).step

end Run

end ObjectLocks
