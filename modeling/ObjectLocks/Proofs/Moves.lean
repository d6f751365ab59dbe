import ObjectLocks.Proofs.System

/-!
# Moves of a system

A move is the smallest thing that happens in a system: a worker begins an operation, or a wait comes
to its end. An operation of a worker together with the waits that it ends is a sequence of moves, so
whatever holds after every sequence of moves holds after every sequence of operations. Every move is
a step of the system's view.
-/

namespace ObjectLocks

/-- What can happen next. -/
inductive Move where
  /-- A worker begins an operation, unless it waits. -/
  | act (w : WorkerId) (a : Action)
  | wake (w : WorkerId)
  | grant (w : WorkerId)
  | reach (w : WorkerId)
  | addWorker
  | addRecord (w : WorkerId)
deriving DecidableEq, Repr

/-- Carries out a move. -/
def World.move (s : World) : Move → World × Progress
  | .act w a => if (s.worker w).wait.isSome then (s, .waiting) else s.begin w a
  | .wake w => s.wake w
  | .grant w => s.grant w
  | .reach w => s.reach w
  | .addWorker => (s.addWorker.2, .answered .done)
  | .addRecord w => ((s.addRecord w).2, .answered .done)

/-- What an action does with a lock, if it does anything. -/
def Action.operation? : Action → Option Operation
  | enter o r _ | quickEnter (some o) r _ => some (.enter o r)
  | exit o r _ => some (.exit o r)
  | identityHash o | inflate o _ => some (.visit o)
  | _ => none

/-- The event of an action of thread `t`, as its progress tells. -/
def Action.event? (t : ThreadId) : Action → Progress → Option Event
  | enter o r _, .answered _ => some (.entered t o r)
  | enter o r _, .waiting => some (.waits t o r)
  | quickEnter (some o) r _, .answered (.flag true) => some (.entered t o r)
  | exit o r _, .answered _ => some (.exited t o r)
  | exit o r _, .failed _ => some (.rejected t o r)
  | _, _ => none

/-- An operation on a monitor itself, past the object whose lock it is. -/
def Action.isDirect : Action → Bool
  | enterMonitor _ | tryEnterMonitor _ | exitMonitor _ | monitorHash _ | claimMonitor _ _ => true
  | _ => false

/-- The begin or the end of a synchronized region, which is made of other operations. -/
def Action.isRegion : Action → Bool
  | beginSynchronized _ | endSynchronized | failSynchronized => true
  | _ => false

/-- What an action of thread `t` is to the locks. -/
def Action.label (w : WorkerId) (t : ThreadId) (a : Action) (p : Progress) : Label :=
  match a.operation? with
  | some op => .lock w t op (a.event? t p)
  | none => if a = .detach ∧ p = .answered .done then .detach w t else .other

/-- What a move is to the locks. -/
def World.label (s : World) : Move → Label
  | .act w a =>
    match (s.worker w).thread, (s.worker w).wait with
    | some t, none => a.label w t (s.begin w a).2
    | _, _ => .other
  | _ => .other

namespace World

open SystemView (Step Sound)

variable {s : World} {w : WorkerId} {t : ThreadId} {o : ObjectId} {r : RecordId} {op : Operation}

/-- A worker that does not wait begins what it does. -/
lemma move_act (free : (s.worker w).wait = none) (a : Action) : s.move (.act w a) = s.begin w a := by
  simp only [move, free, Option.isSome_none, Bool.false_eq_true, if_false]

/-- A worker that waits begins nothing. -/
lemma move_of_waits {x : Wait} (waits : (s.worker w).wait = some x) (a : Action) :
    s.move (.act w a) = (s, .waiting) := by
  simp only [move, waits, Option.isSome_some, if_true]

/-- A worker that is attached acts as its thread. -/
lemma begin_attached (ht : (s.worker w).thread = some t) (a : Action) :
    s.begin w a = s.act w t a := by
  simp only [World.begin, ht]

/-- Without a thread a worker can only attach, or hold a safepoint. -/
lemma begin_detached (ht : (s.worker w).thread = none) (a : Action) :
    s.begin w a = (s, .refused) ∨
      (a = .attach ∧ (s.worker w).inScope = false ∧ s.begin w a = s.attach w) ∨
      (a = .beginSafepoint ∧ (s.worker w).inScope = false ∧ s.begin w a = s.beginSafepoint w) ∨
      (a = .endSafepoint ∧ (s.worker w).inScope = true ∧ s.begin w a = s.endSafepoint w) := by
  unfold World.begin
  rw [ht]
  split
  next => contradiction
  next =>
    cases (s.worker w).inScope with
    | true => exact .inl rfl
    | false => exact .inr (.inl ⟨rfl, rfl, rfl⟩)
  next =>
    cases (s.worker w).inScope with
    | true => exact .inl rfl
    | false => exact .inr (.inr (.inl ⟨rfl, rfl, rfl⟩))
  next =>
    cases (s.worker w).inScope with
    | true => exact .inr (.inr (.inr ⟨rfl, rfl, rfl⟩))
    | false => exact .inl rfl
  next => exact .inl rfl

/-- What an attached worker does is labelled by its action. -/
lemma label_attached (ht : (s.worker w).thread = some t) (free : (s.worker w).wait = none)
    (a : Action) : s.label (.act w a) = a.label w t (s.act w t a).2 := by
  simp only [label, ht, free, begin_attached ht]

/-- What a worker does without a thread is no lock operation. -/
lemma label_detached (ht : (s.worker w).thread = none) (a : Action) :
    s.label (.act w a) = .other := by
  simp only [label, ht]

/-- What a worker that waits does is no lock operation. -/
lemma label_of_waits {x : Wait} (waits : (s.worker w).wait = some x) (a : Action) :
    s.label (.act w a) = .other := by
  simp only [label, waits]
  split
  next none => cases none
  next => rfl

/-- A worker detaches once it has ended all regions and its safepoint. -/
lemma act_detach : s.act w t .detach =
    if (s.worker w).regions ≠ [] ∨ (s.worker w).inScope then (s, .refused) else s.detach w t := rfl

/-- A guard is taken off if there is one. -/
lemma act_endGuard : s.act w t .endGuard =
    if (s.machine.thread t).guards = 0 then (s, .refused)
    else
      ({ s with machine := s.machine.modifyThread t fun x => { x with guards := x.guards - 1 } },
        .answered .done) := rfl

/-- A worker waits for a safepoint unless it holds one. -/
lemma act_beginSafepoint : s.act w t .beginSafepoint =
    if (s.worker w).inScope then (s, .refused) else s.beginSafepoint w := rfl

/-- A worker ends the safepoint that it holds. -/
lemma act_endSafepoint : s.act w t .endSafepoint =
    if (s.worker w).inScope then s.endSafepoint w else (s, .refused) := rfl

/-- A native or blocked region ends only if it is the innermost one. -/
lemma act_endRegion {a : Action} (ends : a = .endNative ∨ a = .endBlocked) :
    s.act w t a = (s, .refused) ∨ ∃ x rest resume, (s.worker w).regions = x :: rest ∧
      (∀ o r, x ≠ .synchronized o r) ∧
      s.act w t a = (s.closeRegion w).leave w t resume .resume := by
  obtain rfl | rfl := ends
  all_goals
    dsimp only [act]
    split
    next resume rest inside => exact .inr ⟨_, rest, resume, inside, fun _ _ => nofun, rfl⟩
    next => exact .inl rfl

/-- A change of a worker leaves all other workers alone. -/
lemma worker_modifyWorker (s : World) (w : WorkerId) (f : Worker → Worker) (w' : WorkerId) :
    (s.modifyWorker w f).worker w' = if w' = w then f (s.worker w) else s.worker w' := by
  simp only [worker, modifyWorker, Store.modify, Store.get_set, Function.update_apply]

/-- A change of a worker that leaves its thread and its wait alone is not seen in the view. -/
lemma view_modifyWorker {f : Worker → Worker} (thread : ∀ x, (f x).thread = x.thread)
    (wait : ∀ x, (f x).wait = x.wait) : (s.modifyWorker w f).view = s.view := by
  ext1
  · rfl
  · funext w'
    show ((s.modifyWorker w f).worker w').thread = (s.worker w').thread
    rw [worker_modifyWorker]
    split
    next eq => rw [thread, eq]
    next => rfl
  · funext w'
    show ((s.modifyWorker w f).worker w').wait.bind _ = (s.worker w').wait.bind _
    rw [worker_modifyWorker]
    split
    next eq => rw [wait, eq]
    next => rfl

/-- A region that is opened is not seen in the view. -/
@[simp] lemma view_openRegion (x : Region) : (s.openRegion w x).view = s.view :=
  view_modifyWorker (fun _ => rfl) fun _ => rfl

/-- A region that is closed is not seen in the view. -/
@[simp] lemma view_closeRegion : (s.closeRegion w).view = s.view :=
  view_modifyWorker (fun _ => rfl) fun _ => rfl

/-- A new wait of a worker is seen in the view as the monitor that it is for. -/
lemma view_setWait (x : Option Wait) : (s.setWait w x).view =
    { s.view with waitsFor := Function.update s.view.waitsFor w (x.bind Wait.monitor?) } := by
  ext1
  · rfl
  · funext w'
    show ((s.setWait w x).worker w').thread = (s.worker w').thread
    rw [setWait, worker_modifyWorker]
    split
    next eq => rw [eq]
    next => rfl
  · funext w'
    show ((s.setWait w x).worker w').wait.bind _ = Function.update s.view.waitsFor w _ w'
    rw [setWait, worker_modifyWorker, Function.update_apply]
    split <;> rfl

/-- A new thread of a worker is seen in the view. -/
lemma view_setThread (x : Option ThreadId) :
    (s.modifyWorker w fun y => { y with thread := x }).view =
      { s.view with thread := Function.update s.view.thread w x } := by
  ext1
  · rfl
  · funext w'
    show (World.worker _ w').thread = Function.update s.view.thread w x w'
    rw [worker_modifyWorker, Function.update_apply]
    split <;> rfl
  · funext w'
    show (World.worker _ w').wait.bind _ = (s.worker w').wait.bind _
    rw [worker_modifyWorker]
    split
    next eq => rw [eq]
    next => rfl

/-- A wait for something else than a monitor is not seen in the view. -/
lemma view_setWait_other (free : s.view.waitsFor w = none) {x : Option Wait}
    (other : x.bind Wait.monitor? = none) : (s.setWait w x).view = s.view := by
  rw [view_setWait, other, ← free, Function.update_eq_self]

/-- A change of the machine is seen in its view only. -/
lemma view_machine {m : Machine} (same : m.view = s.machine.view) :
    { s with machine := m }.view = s.view := by
  ext1
  · exact same
  · rfl
  · rfl

/-- The state of a thread is not seen in the view. -/
lemma view_setState (x : ThreadState) : (s.setState t x).view = s.view :=
  view_machine (Machine.view_setState ..)

/-- A request for a safepoint is not seen in the view. -/
lemma view_request (free : s.view.waitsFor w = none) : (s.request w).1.view = s.view := by
  unfold request
  split
  next => rfl
  next b _ =>
    exact view_setWait_other (s := { s with safepoint := { s.safepoint with
      requested := true, barrier := b } }) free rfl

/-- What is left of an operation changes no lock. -/
lemma view_finish (free : s.view.waitsFor w = none) (goal : Goal) :
    (s.finish w t goal).1.view = s.view := by
  cases goal with
  | attach _ | resume => rfl
  | allocate _ _ => exact view_machine (Machine.view_allocate ..)
  | countLock => exact view_machine (Machine.view_gain ..)
  | synchronized _ _ =>
    rw [finish, view_openRegion]
    exact view_machine (Machine.view_gain ..)
  | safepoint => exact view_request free

/-- A thread that leaves a safe state waits for no monitor any more. -/
lemma view_leave (s : World) (w : WorkerId) (t : ThreadId) (resume : ThreadState) (goal : Goal) :
    (s.leave w t resume goal).1.view =
      { s.view with waitsFor := Function.update s.view.waitsFor w none } := by
  unfold leave
  split
  next =>
    rw [view_setWait, view_setState]
    rfl
  next =>
    have e : ((s.setState t resume).setWait w none).view =
        { s.view with waitsFor := Function.update s.view.waitsFor w none } := by
      rw [view_setWait, view_setState]
      rfl
    rw [view_finish _ goal, e]
    rw [e]
    exact Function.update_self ..

/-- A thread that leaves a safe state without having waited for a monitor is not seen in the view.
-/
lemma view_leave_free (free : s.view.waitsFor w = none) (resume : ThreadState) (goal : Goal) :
    (s.leave w t resume goal).1.view = s.view := by
  rw [view_leave, ← free, Function.update_eq_self]

/-- An operation that has a value goes on with it. -/
lemma operate_ok {α : Type} {operation : Machine → Outcome α} {a : α} {m : Machine}
    (eq : operation s.machine = .ok a m) (next : World → α → World × Progress) :
    s.operate operation next = next { s with machine := m } a := by
  cases s
  simp only [operate, show operation _ = _ from eq]

/-- An operation that faults goes no further. -/
lemma operate_fault {α : Type} {operation : Machine → Outcome α} {f : Fault} {m : Machine}
    (eq : operation s.machine = .fault f m) (next : World → α → World × Progress) :
    s.operate operation next = ({ s with machine := m }, .failed f) := by
  cases s
  simp only [operate, show operation _ = _ from eq]

/-- An operation that has a value answers it. -/
lemma conclude_ok {α : Type} {operation : Machine → Outcome α} {a : α} {m : Machine}
    (eq : operation s.machine = .ok a m) (answer : α → Answer) :
    s.conclude answer operation = ({ s with machine := m }, .answered (answer a)) :=
  operate_ok eq _

/-- An operation that faults fails. -/
lemma conclude_fault {α : Type} {operation : Machine → Outcome α} {f : Fault} {m : Machine}
    (eq : operation s.machine = .fault f m) (answer : α → Answer) :
    s.conclude answer operation = ({ s with machine := m }, .failed f) :=
  operate_fault eq _

/-- An operation that changes no lock, and then something else that changes none. -/
lemma view_operate {α : Type} {operation : Machine → Outcome α}
    {next : World → α → World × Progress}
    (same : (operation s.machine).machine.view = s.machine.view)
    (then_same : ∀ s' a, s'.view = s.view → (next s' a).1.view = s.view) :
    (s.operate operation next).1.view = s.view := by
  cases eq : operation s.machine with
  | ok a m =>
    rw [eq] at same
    rw [operate_ok eq]
    exact then_same _ a (view_machine same)
  | fault f m =>
    rw [eq] at same
    rw [operate_fault eq]
    exact view_machine same

/-- A safepoint check changes no lock. -/
lemma view_checkSafepoint (m : Machine) (t : ThreadId) :
    (m.checkSafepoint t).machine.view = m.view := by
  unfold Machine.checkSafepoint
  split <;> rfl

/-- Loading a slot changes nothing. -/
lemma machine_loadSlot (m : Machine) (o : ObjectId) (i : Nat) : (m.loadSlot o i).machine = m := by
  unfold Machine.loadSlot
  dsimp only
  split <;> rfl

/-- Updating a slot changes no lock. -/
lemma view_updateSlot (m : Machine) (o : ObjectId) (i : Nat) (f : UInt64 → UInt64) :
    (m.updateSlot o i f).machine.view = m.view := by
  have same := machine_loadSlot m o i
  unfold Machine.updateSlot
  cases eq : m.loadSlot o i with
  | ok v n =>
    rw [eq] at same
    obtain rfl : n = m := same
    exact Machine.view_modifyObject _ _ fun _ => rfl
  | fault f n =>
    rw [eq] at same
    obtain rfl : n = m := same
    rfl

/-- Polling is not seen in the view. -/
lemma view_poll (free : s.view.waitsFor w = none) (goal : Goal) :
    (s.poll w t goal).1.view = s.view := by
  refine view_operate (view_checkSafepoint _ _) fun s' _ eq => ?_
  rw [view_leave_free (by rw [eq, free]), eq]

/-- The begin of a region is not seen in the view. -/
lemma view_beginRegion (inside : ThreadState) (region : ThreadState → Region) :
    (s.beginRegion w t inside region).1.view = s.view := by
  refine view_operate (view_checkSafepoint _ _) fun s' _ eq => ?_
  rw [view_openRegion, view_setState, eq]

/-- Waiting for the turn to request a safepoint is not seen in the view. -/
lemma view_beginSafepoint (free : s.view.waitsFor w = none) :
    (s.beginSafepoint w).1.view = s.view := by
  have queued (s' : World) (resume : ThreadState) (eq : s'.view = s.view) :
      ({ s' with safepoint := { s'.safepoint with
        queue := s'.safepoint.queue ++ [w] } }.setWait w (some (.turn resume))).view = s.view := by
    refine (view_setWait_other ?_ rfl).trans eq
    exact (congrFun (congrArg SystemView.waitsFor eq) w).trans free
  unfold beginSafepoint
  dsimp only
  split
  next => exact queued s .new rfl
  next u _ =>
    refine view_operate (view_checkSafepoint _ _) fun s' _ eq => ?_
    exact queued _ _ (by rw [view_setState, eq])

/-- The end of a safepoint is not seen in the view. -/
lemma view_endSafepoint : (s.endSafepoint w).1.view = s.view := by
  unfold endSafepoint
  dsimp only
  split
  next => rfl
  next => exact view_modifyWorker (fun _ => rfl) fun _ => rfl

section LockOperations

variable (ht : s.view.thread w = some t) (free : s.view.waitsFor w = none)
include ht free

/-- An operation that never waits is a step whose event its progress tells. -/
lemma conclude_step {α : Type} {answer : α → Answer} {operation : Machine → Outcome α}
    {event : α → Option Event} {failed : Option Event} (told : Progress → Option Event)
    (follows : (operation s.machine).Follows (Locking.Change s.machine.options.mode t op)
      s.machine.view event failed)
    (answered : ∀ a, told (.answered (answer a)) = event a) (fault : ∀ f, told (.failed f) = failed)
    (calm : ∀ p o r, told p ≠ some (.waits t o r)) :
    Step s.view (.lock w t op (told (s.conclude answer operation).2))
      (s.conclude answer operation).1.view := by
  cases eq : operation s.machine with
  | ok a m =>
    rw [eq] at follows
    rw [conclude_ok eq]
    refine .lock ht free ?_ (calm _)
    rw [answered]
    exact follows
  | fault f m =>
    rw [eq] at follows
    rw [conclude_fault eq]
    refine .lock ht free ?_ (calm _)
    rw [fault]
    exact follows

/-- An enter is complete, waits or fails. -/
lemma enter_step {operation : Machine → Outcome Entry} (raw : Bool) (goal : Goal)
    {next : World → World × Progress}
    (enters : (operation s.machine).Enters (Locking.Change s.machine.options.mode t (.enter o r))
      s.machine.view t o r)
    (same : ∀ s, (next s).1.view = s.view) (answered : ∀ s, ∃ a, (next s).2 = .answered a) :
    Step s.view
      (.lock w t (.enter o r) ((Action.enter o r raw).event? t (s.enter w operation goal next).2))
      (s.enter w operation goal next).1.view := by
  unfold enter
  match eq : operation s.machine with
  | .ok .entered m =>
    rw [eq] at enters
    rw [operate_ok eq]
    dsimp only
    obtain ⟨a, ha⟩ := answered { s with machine := m }
    rw [ha, same]
    exact .lock ht free enters nofun
  | .ok (.queued id resume) m =>
    rw [eq] at enters
    rw [operate_ok eq]
    dsimp only
    rw [view_setWait]
    exact .wait ht free enters.1 enters.2
  | .fault f m =>
    rw [eq] at enters
    rw [operate_fault eq]
    exact .lock ht free enters nofun

end LockOperations

/-- The state that a thread begins with is not seen in the view. -/
lemma view_attachThread (m : Machine) :
    { m with
      threads := m.threads.set m.nextThread (.attached m.nextThread)
      registry := m.registry ++ [m.nextThread]
      nextThread := m.nextThread + 1 }.view = m.view.attach := by
  ext1 <;> try rfl
  all_goals
    funext u
    simp only [Machine.view, Machine.lockStack, Machine.lockRecords, Machine.thread, Store.get_set,
      LockView.attach, Function.update_apply]
    split <;> rfl

/-- A worker that attaches is seen in the view as one with a new thread. -/
lemma view_attach (detached : (s.worker w).thread = none) (free : s.view.waitsFor w = none) :
    (s.attach w).1.view = { s.view with
      locks := s.view.locks.attach
      thread := Function.update s.view.thread w (some s.view.locks.nextThread) } := by
  unfold attach
  rw [detached]
  dsimp only
  generalize hs : World.modifyWorker _ w _ = s'
  have e : s'.view = { s.view with
      locks := s.view.locks.attach
      thread := Function.update s.view.thread w (some s.view.locks.nextThread) } := by
    rw [← hs, view_setThread]
    ext1
    · exact view_attachThread s.machine
    · rfl
    · rfl
  rw [view_leave_free (by rw [e]; exact free), e]

/-- An attachment is a step, whether it succeeds or not. -/
lemma attach_step (free : s.view.waitsFor w = none) : Step s.view .other (s.attach w).1.view := by
  cases ht : (s.worker w).thread with
  | none =>
    rw [view_attach ht free]
    exact .attach ht
  | some t =>
    unfold attach
    rw [ht]
    exact .skip

/-- A detachment is a step. -/
lemma detach_step (ht : s.view.thread w = some t) (free : s.view.waitsFor w = none) :
    Step s.view (.detach w t) (s.detach w t).1.view := by
  have terminated := s.machine.view_setState t .terminated
  have e : (s.detach w t).1.view = { s.view with
      locks := { s.view.locks with registry := World.unregister s.view.locks.registry t }
      thread := Function.update s.view.thread w none } := by
    unfold detach
    rw [view_setThread]
    ext1
    · show { (s.machine.setState t .terminated).view with
        registry := World.unregister s.machine.registry t } = _
      rw [terminated]
      rfl
    · rfl
    · rfl
  rw [e]
  exact .detach ht free

/-- A quick enter never waits. -/
lemma quickEvent_calm (raw : Bool) (p : Progress) (o' : ObjectId) (r' : RecordId) :
    (Action.quickEnter (some o) r raw).event? t p ≠ some (.waits t o' r') := by
  unfold Action.event?
  split <;> simp_all

/-- An exit never waits. -/
lemma exitEvent_calm (raw : Bool) (p : Progress) (o' : ObjectId) (r' : RecordId) :
    (Action.exit o r raw).event? t p ≠ some (.waits t o' r') := by
  cases p <;> exact nofun

/-- A lock operation is a step with the event that its progress tells. -/
lemma act_lock_step (h : s.view.Sound) (ht : s.view.thread w = some t)
    (free : s.view.waitsFor w = none) {a : Action} (lock : a.operation? = some op) :
    Step s.view (.lock w t op (a.event? t (s.act w t a).2)) (s.act w t a).1.view := by
  have coherent : s.machine.view.Coherent := h.coherent
  have attached : t < s.machine.nextThread := h.lt ht
  cases a with
  | enter o r raw =>
    cases lock
    cases raw with
    | true =>
      exact enter_step ht free true .resume (Locking.enter_enters coherent attached)
        (fun _ => rfl) fun _ => ⟨_, rfl⟩
    | false =>
      exact enter_step ht free false .countLock (Machine.enter_enters coherent attached)
        (fun _ => rfl) fun _ => ⟨_, rfl⟩
  | quickEnter o r raw =>
    cases o with
    | none => cases lock
    | some o =>
      cases lock
      cases raw with
      | true =>
        exact conclude_step ht free ((Action.quickEnter (some o) r true).event? t)
          (Locking.quickEnter_follows coherent attached) (fun b => by cases b <;> rfl)
          (fun _ => rfl) (quickEvent_calm true)
      | false =>
        exact conclude_step ht free ((Action.quickEnter (some o) r false).event? t)
          (Machine.quickEnter_follows coherent attached) (fun b => by cases b <;> rfl)
          (fun _ => rfl) (quickEvent_calm false)
  | exit o r raw =>
    cases lock
    cases raw with
    | true =>
      exact conclude_step ht free ((Action.exit o r true).event? t) (Locking.exit_follows coherent)
        (fun _ => rfl) (fun _ => rfl) (exitEvent_calm true)
    | false =>
      exact conclude_step ht free ((Action.exit o r false).event? t) (Machine.exit_follows coherent)
        (fun _ => rfl) (fun _ => rfl) (exitEvent_calm false)
  | identityHash o =>
    cases lock
    exact conclude_step ht free ((Action.identityHash o).event? t)
      (Machine.identityHash_follows coherent) (fun _ => rfl) (fun _ => rfl) (fun _ _ _ => nofun)
  | inflate o cause =>
    cases lock
    exact conclude_step ht free ((Action.inflate o cause).event? t)
      (Locking.inflate_follows coherent cause) (fun _ => rfl) (fun _ => rfl) (fun _ _ _ => nofun)
  | _ => cases lock

/-- The end of a native or blocked region is not seen in the view. -/
lemma view_endRegion (free : s.view.waitsFor w = none) {a : Action}
    (ends : a = .endNative ∨ a = .endBlocked) : (s.act w t a).1.view = s.view := by
  obtain eq | ⟨_, _, resume, -, -, eq⟩ := act_endRegion (s := s) (w := w) (t := t) ends
  · rw [eq]
  · rw [eq, view_leave_free (by rw [view_closeRegion, free]), view_closeRegion]

/-- An action that is neither a lock operation nor an attachment changes no lock. -/
lemma view_act (free : s.view.waitsFor w = none) {a : Action} (other : a.operation? = none)
    (attach : a ≠ .attach) (detach : a ≠ .detach) (direct : a.isDirect = false)
    (region : a.isRegion = false) : (s.act w t a).1.view = s.view := by
  cases a with
  | attach => exact absurd rfl attach
  | detach => exact absurd rfl detach
  | allocate _ _ | poll => exact view_poll free _
  | quickEnter o r raw =>
    cases o with
    | none =>
      refine view_operate ?_ fun _ _ eq => eq
      show (s.machine.quickEnter t none r).machine.view = _
      unfold Machine.quickEnter
      split <;> rfl
    | some o => cases other
  | checkSafepoint => exact view_operate (view_checkSafepoint _ _) fun _ _ eq => eq
  | beginGuard => exact view_machine (Machine.view_modifyThread _ _ (fun _ => rfl) fun _ => rfl)
  | endGuard =>
    rw [act_endGuard]
    split
    · rfl
    · exact view_machine (Machine.view_modifyThread _ _ (fun _ => rfl) fun _ => rfl)
  | beginNative | beginBlocked => exact view_beginRegion _ _
  | endNative => exact view_endRegion free (.inl rfl)
  | endBlocked => exact view_endRegion free (.inr rfl)
  | beginSafepoint =>
    rw [act_beginSafepoint]
    split
    · rfl
    · exact view_beginSafepoint free
  | endSafepoint =>
    rw [act_endSafepoint]
    split
    · exact view_endSafepoint
    · rfl
  | store _ _ _ | add _ _ _ => exact view_operate (view_updateSlot _ _ _ _) fun _ _ eq => eq
  | load _ _ =>
    exact view_operate (congrArg Machine.view (machine_loadSlot _ _ _)) fun _ _ eq => eq
  | beginSynchronized _ | endSynchronized | failSynchronized => cases region
  | enterMonitor _ | tryEnterMonitor _ | exitMonitor _ | monitorHash _ | claimMonitor _ _ =>
    cases direct
  | enter _ _ _ | exit _ _ _ | identityHash _ | inflate _ _ => cases other

/-- Every action of an attached worker is a step, but for regions and the direct use of monitors. -/
lemma act_step (h : s.view.Sound) (ht : s.view.thread w = some t) (free : s.view.waitsFor w = none)
    {a : Action} (direct : a.isDirect = false) (region : a.isRegion = false) :
    Step s.view (a.label w t (s.act w t a).2) (s.act w t a).1.view := by
  unfold Action.label
  split
  next op lock => exact act_lock_step h ht free lock
  next other =>
    -- Besides, only an attachment and its end can change what locks depend on.
    by_cases detach : a = .detach
    · subst detach
      rw [act_detach]
      split
      · exact .idle
      · exact detach_step ht free
    · rw [if_neg fun both => detach both.1]
      by_cases attach : a = .attach
      · subst attach
        exact attach_step free
      · rw [view_act free other attach detach direct region]
        exact .idle

/-- A worker that does not wait is not waiting for a monitor. -/
lemma waitsFor_of_wait (h : (s.worker w).wait = none) : s.view.waitsFor w = none :=
  congrArg (Option.bind · Wait.monitor?) h

/-- A worker that waits may be waiting for a monitor. -/
lemma waitsFor_some {x : Wait} (h : (s.worker w).wait = some x) :
    s.view.waitsFor w = x.monitor? :=
  congrArg (Option.bind · Wait.monitor?) h

/-- Every operation that a worker begins is a step, but for regions and the direct use of monitors.
-/
lemma begin_step (h : s.view.Sound) (free : (s.worker w).wait = none) {a : Action}
    (direct : a.isDirect = false) (region : a.isRegion = false) :
    Step s.view (s.label (.act w a)) (s.move (.act w a)).1.view := by
  have free' := waitsFor_of_wait free
  rw [move_act free]
  cases ht : (s.worker w).thread with
  | some t =>
    rw [label_attached ht free, begin_attached ht]
    exact act_step h ht free' direct region
  | none =>
    rw [label_detached ht]
    rcases begin_detached ht a with eq | ⟨-, -, eq⟩ | ⟨-, -, eq⟩ | ⟨-, -, eq⟩
    · rw [eq]
      exact .idle
    · rw [eq]
      exact attach_step free'
    · rw [eq, view_beginSafepoint free']
      exact .idle
    · rw [eq, view_endSafepoint]
      exact .idle

/-- The end of a wait for a monitor or at the barrier is a step. -/
lemma wake_step (s : World) (w : WorkerId) : Step s.view .other (s.wake w).1.view := by
  unfold wake
  split
  next t id resume goal ht hw =>
    split
    next own =>
      -- Only a hand-off takes a thread out of the queue and makes it the owner.
      rw [view_leave]
      exact .resume ht (waitsFor_some hw) (beq_iff_eq.1 own)
    next => exact .idle
  next t resume goal ht hw =>
    split
    next => exact .idle
    next =>
      rw [view_leave_free (waitsFor_some hw)]
      exact .idle
  next => exact .idle

/-- The turn to request a safepoint is not seen in the view. -/
lemma view_grant (s : World) (w : WorkerId) : (s.grant w).1.view = s.view := by
  let turned (rest : List WorkerId) : World :=
    { s with safepoint := { s.safepoint with holder := some w, queue := rest } }
  unfold grant
  split
  next next rest resume _ _ hw =>
    have free : s.view.waitsFor w = none := waitsFor_some hw
    split
    next =>
      dsimp only
      split
      next t _ => exact view_leave_free (s := turned rest) free _ _
      next => exact view_request (s := turned rest) free
    next => rfl
  next => rfl

/-- A safepoint that is reached is not seen in the view. -/
lemma view_reach (s : World) (w : WorkerId) : (s.reach w).1.view = s.view := by
  unfold reach
  split
  next hw =>
    have free : s.view.waitsFor w = none := waitsFor_some hw
    split
    next =>
      dsimp only
      rw [view_modifyWorker (f := fun y => { y with inScope := true }) (fun _ => rfl) fun _ => rfl]
      exact view_setWait_other free rfl
    next => rfl
  next => rfl

/-- A new worker is not seen in the view. -/
lemma view_addWorker (s : World) : s.addWorker.2.view = s.view := by
  -- The number of the new worker had the same value before.
  have same : (s.workers.push default).get = s.workers.get := by
    rw [Store.get_push, ← Store.get_size, Function.update_eq_self]
  ext1
  · rfl
  · funext w
    show ((s.workers.push default).get w).thread = _
    rw [same]
    rfl
  · funext w
    show ((s.workers.push default).get w).wait.bind _ = _
    rw [same]
    rfl

/-- A new record is seen in the view. -/
lemma view_addRecord (s : World) (w : WorkerId) : (s.addRecord w).2.view = { s.view with
    locks := s.view.locks.setRecord s.view.locks.recordCount (.fresh w) } := by
  ext1
  · exact s.machine.view_addRecord w
  · rfl
  · rfl

/-- The begin of a region with record `r` after its quick enter: if that was in vain, an enter
follows. -/
def openSynchronized (w : WorkerId) (t : ThreadId) (o : ObjectId) (r : RecordId) (s : World)
    (entered : Bool) : World × Progress :=
  let inside (s : World) : World × Progress :=
    (s.openRegion w (.synchronized o r), .answered .begun)
  if entered then inside s else s.enter w (·.enter t o r) (.synchronized o r) inside

/-- A region begins with a new record and a quick enter. -/
lemma beginSynchronized_eq (s : World) (w : WorkerId) (t : ThreadId) (o : ObjectId) :
    s.beginSynchronized w t o =
      ({ s with machine := (s.machine.addRecord w).2 } : World).operate
        (·.quickEnter t (some o) s.machine.records.size)
        (openSynchronized w t o s.machine.records.size) := rfl

/-- Every move is a step. -/
theorem move_step (h : s.view.Sound) {x : Move}
    (plain : ∀ w a, x = .act w a → a.isDirect = false ∧ a.isRegion = false) :
    Step s.view (s.label x) (s.move x).1.view := by
  cases x with
  | act w a =>
    obtain ⟨direct, region⟩ := plain w a rfl
    cases free : (s.worker w).wait with
    | none => exact begin_step h free direct region
    | some x =>
      rw [label_of_waits free, move_of_waits free]
      exact .idle
  | wake w => exact wake_step s w
  | grant w =>
    show Step _ _ (s.grant w).1.view
    rw [view_grant]
    exact .idle
  | reach w =>
    show Step _ _ (s.reach w).1.view
    rw [view_reach]
    exact .idle
  | addWorker =>
    show Step _ _ s.addWorker.2.view
    rw [view_addWorker]
    exact .idle
  | addRecord w =>
    show Step _ _ (s.addRecord w).2.view
    rw [view_addRecord]
    exact .newRecord

end World

end ObjectLocks
