import ObjectLocks.Proofs.Pieces
import ObjectLocks.Proofs.Scene

/-!
# Restored states

A thread that blocks, that runs native code or that asks for a safepoint changes its state, and so
does a thread that parks at the barrier or waits for a monitor. Each time it returns to the state in
which it was before, also if further safepoints catch it on its way back. The states to return to
are kept in the open regions of the worker and in its wait, and nothing but the end of its regions
takes them away. So whatever a thread does between two points of time, it is in the same state at
both if it has ended all the regions that it has begun in between.
-/

namespace ObjectLocks

namespace Region

/-- The state that a thread returns to at the end of a region, if the region is one that changed
it. -/
def resume? : Region → Option ThreadState
  | native resume | blocked resume => some resume
  | synchronized _ _ => none

/-- The state of a thread in state `x` after the end of some regions, the innermost first. -/
def unwind (x : ThreadState) : List Region → ThreadState
  | [] => x
  | r :: l => unwind (r.resume?.getD x) l

/-- What a thread does to its state and its open regions. -/
inductive Step : ThreadState × List Region → ThreadState × List Region → Prop where
  | stay {x l} : Step (x, l) (x, l)
  | enter {x y r l} :
    r.resume? = some x →
    Step (x, l) (y, r :: l)
  | leave {x y r l} :
    r.resume? = some x →
    Step (y, r :: l) (x, l)
  | lock {x r l} :
    r.resume? = none →
    Step (x, l) (x, r :: l)
  | unlock {x r l} :
    r.resume? = none →
    Step (x, r :: l) (x, l)

/-- The regions of `p` are those of `base` and others inside of them. Once these others have ended,
a thread in the state of `p` is back in state `x`. -/
def Returns (x : ThreadState) (base : List Region) (p : ThreadState × List Region) : Prop :=
  ∃ inner, p.2 = inner ++ base ∧ unwind p.1 inner = x

variable {x : ThreadState} {base : List Region} {p q : ThreadState × List Region}

/-- As long as no other region ends than those inside, the way back is the same. -/
lemma Returns.step (h : Returns x base p) (c : Step p q) (deep : base.length ≤ q.2.length) :
    Returns x base q := by
  obtain ⟨inner, eq, back⟩ := h
  -- The innermost region may only end if it lies inside.
  have ends {r l} (eq : r :: l = inner ++ base) (deep : base.length ≤ l.length) :
      ∃ rest, inner = r :: rest ∧ l = rest ++ base := by
    cases inner with
    | nil =>
      rw [List.nil_append] at eq
      rw [← eq, List.length_cons] at deep
      exact absurd deep (Nat.not_succ_le_self _)
    | cons r' rest =>
      obtain ⟨rfl, same⟩ := List.cons.inj eq
      exact ⟨rest, rfl, same⟩
  cases c with
  | stay => exact ⟨inner, eq, back⟩
  | enter resume =>
    refine ⟨_ :: inner, congrArg _ eq, ?_⟩
    rw [unwind, resume]
    exact back
  | leave resume =>
    obtain ⟨rest, rfl, same⟩ := ends eq deep
    rw [unwind, resume] at back
    exact ⟨rest, same, back⟩
  | lock plain =>
    refine ⟨_ :: inner, congrArg _ eq, ?_⟩
    rw [unwind, plain]
    exact back
  | unlock plain =>
    obtain ⟨rest, rfl, same⟩ := ends eq deep
    rw [unwind, plain] at back
    exact ⟨rest, same, back⟩

end Region

namespace Machine

/-- The state and the guards of thread `u` stay. -/
structure KeepsThread (u : ThreadId) (m n : Machine) : Prop where
  state : (n.thread u).state = (m.thread u).state
  guards : (n.thread u).guards = (m.thread u).guards

variable {m n k : Machine} {t u : ThreadId}

/-- A machine that does not change keeps the thread. -/
lemma KeepsThread.refl (u : ThreadId) (m : Machine) : KeepsThread u m m := ⟨rfl, rfl⟩

/-- The thread is kept by two changes if both keep it. -/
lemma KeepsThread.trans (h : KeepsThread u m n) (h' : KeepsThread u n k) : KeepsThread u m k :=
  ⟨h'.state.trans h.state, h'.guards.trans h.guards⟩

/-- An alteration keeps every thread. -/
lemma Alters.keepsThread (h : m.Alters t n) (u : ThreadId) : KeepsThread u m n :=
  ⟨h.state u, h.guards u⟩

/-- A change of one thread keeps all others. -/
lemma keepsThread_modifyThread (m : Machine) (f : Thread → Thread) (other : u ≠ t) :
    KeepsThread u m (m.modifyThread t f) := by
  constructor <;> rw [thread_modifyThread, if_neg other]

/-- A new state of a thread leaves its guards alone. -/
lemma guards_setState (m : Machine) (t u : ThreadId) (x : ThreadState) :
    ((m.setState t x).thread u).guards = (m.thread u).guards := by
  rw [setState, thread_modifyThread]
  split <;> rfl

/-- A thread has the state that was set last. -/
lemma state_setState (m : Machine) (t : ThreadId) (x : ThreadState) :
    ((m.setState t x).thread t).state = x := by
  rw [setState, thread_modifyThread, if_pos rfl]

end Machine

namespace Outcome

variable {α : Type} {m : Machine} {t : ThreadId}

/-- An operation that alters the machine keeps every thread. -/
lemma Alters.keepsThread {x : Outcome α} (h : x.Alters t m) (u : ThreadId) :
    Machine.KeepsThread u m x.machine := by
  cases x with
  | ok a n => exact Machine.Alters.keepsThread h u
  | fault f n => exact Machine.Alters.keepsThread h.1 u

/-- An operation that exits a monitor keeps every thread. -/
lemma Exits.keepsThread {x : Outcome Unit} (h : x.Exits t m) (u : ThreadId) :
    Machine.KeepsThread u m x.machine := by
  cases x with
  | ok a n =>
    rcases h with alters | ⟨k, id, y, alters, -, -, rfl⟩
    · exact alters.keepsThread u
    · exact ⟨alters.state u, alters.guards u⟩
  | fault f n => exact Machine.Alters.keepsThread h.1 u

end Outcome

/-- The synchronized region that is open once the goal is reached, if it is the goal. -/
def Goal.opens : Goal → List Region
  | synchronized o r => [.synchronized o r]
  | _ => []

/-- The state that a thread returns to at the end of a wait, if the wait is one that changed it. -/
def Wait.resume? : Wait → Option ThreadState
  | monitor _ resume _ | barrier resume _ | turn resume => some resume
  | others => none

namespace World

/-- The state that thread `t` of worker `w` is in, or returns to at the end of its wait. -/
def resumes (s : World) (w : WorkerId) (t : ThreadId) : ThreadState :=
  ((s.worker w).wait.bind Wait.resume?).getD (s.stateOf t)

/-- The state that a thread returns to, together with the open regions. -/
def course (s : World) (w : WorkerId) (t : ThreadId) : ThreadState × List Region :=
  (s.resumes w t, (s.worker w).regions)

/-- What worker `w` does as thread `t`. If it opens or closes no guard, its guards stay. -/
structure Turns (s : World) (w : WorkerId) (t : ThreadId) (unguarding : Prop) (s' : World) :
    Prop where
  thread : (s'.worker w).thread = some t
  course : Region.Step (s.course w t) (s'.course w t)
  guards : unguarding → (s'.machine.thread t).guards = (s.machine.thread t).guards
  others : ∀ u, u ≠ t → Machine.KeepsThread u s.machine s'.machine

variable {s s' : World} {w v : WorkerId} {t u : ThreadId} {g : Prop} {resume : ThreadState}
  {goal : Goal}

/-- A thread that does not wait is in the state that it returns to. -/
lemma resumes_of_awake (free : (s.worker w).wait = none) : s.resumes w t = s.stateOf t := by
  unfold resumes
  rw [free]
  rfl

/-- A thread that waits returns to the state that the wait tells. -/
lemma resumes_of_wait {x : Wait} (waits : (s.worker w).wait = some x)
    (back : x.resume? = some resume) : s.resumes w t = resume := by
  unfold resumes
  rw [waits, Option.bind_some, back]
  rfl

/-- The course of a thread that does not wait is its state with its open regions. -/
lemma course_of_awake (free : (s.worker w).wait = none) :
    s.course w t = (s.stateOf t, (s.worker w).regions) := by
  unfold course
  rw [resumes_of_awake free]

/-- A worker is changed as told. -/
lemma own_modifyWorker (s : World) (w : WorkerId) (f : Worker → Worker) :
    (s.modifyWorker w f).worker w = f (s.worker w) := by
  rw [worker_modifyWorker, if_pos rfl]

/-- A new wait changes nothing else about its worker. -/
lemma own_setWait (s : World) (w : WorkerId) (x : Option Wait) :
    (s.setWait w x).worker w = { s.worker w with wait := x } := own_modifyWorker ..

/-- A region that is opened is the innermost one. -/
lemma own_openRegion (s : World) (w : WorkerId) (r : Region) :
    (s.openRegion w r).worker w = { s.worker w with regions := r :: (s.worker w).regions } :=
  own_modifyWorker ..

/-- A region that is closed is the innermost one. -/
lemma own_closeRegion (s : World) (w : WorkerId) :
    (s.closeRegion w).worker w = { s.worker w with regions := (s.worker w).regions.tail } :=
  own_modifyWorker ..

namespace Turns

variable (ht : (s.worker w).thread = some t)
include ht

/-- Doing nothing turns nothing. -/
lemma idle : s.Turns w t g s := ⟨ht, .stay, fun _ => rfl, fun u _ => .refl u _⟩

/-- A thread turns by what becomes of its worker and of its state. -/
lemma of_worker {x : Worker} (own : s'.worker w = x) (thread : x.thread = (s.worker w).thread)
    (step : Region.Step (s.course w t) ((x.wait.bind Wait.resume?).getD (s'.stateOf t), x.regions))
    (guards : g → (s'.machine.thread t).guards = (s.machine.thread t).guards)
    (others : ∀ u, u ≠ t → Machine.KeepsThread u s.machine s'.machine) : s.Turns w t g s' := by
  subst own
  exact ⟨thread.trans ht, step, guards, others⟩

/-- What leaves the threads as they are, and opens or closes at most a synchronized region. -/
lemma of_regions (free : (s.worker w).wait = none)
    (keeps : ∀ u, Machine.KeepsThread u s.machine s'.machine) {x : Worker} (own : s'.worker w = x)
    (thread : x.thread = (s.worker w).thread) (wait : x.wait = (s.worker w).wait)
    (step : ∀ y, Region.Step (y, (s.worker w).regions) (y, x.regions)) : s.Turns w t g s' := by
  refine .of_worker ht own thread ?_ (fun _ => (keeps t).guards) fun u _ => keeps u
  rw [course_of_awake free, wait, free, show s'.stateOf t = s.stateOf t from (keeps t).state]
  exact step _

/-- What changes no thread and no worker turns nothing. -/
lemma of_machine (free : (s.worker w).wait = none)
    (keeps : ∀ u, Machine.KeepsThread u s.machine s'.machine)
    (own : s'.worker w = s.worker w) : s.Turns w t g s' :=
  .of_regions ht free keeps own rfl rfl fun _ => .stay

end Turns

/-- The thread leaves a safe state for `resume`, at once or once it is let through the barrier. -/
structure Leaves (s : World) (w : WorkerId) (t : ThreadId) (resume : ThreadState) (goal : Goal)
    (s' : World) : Prop where
  thread : (s'.worker w).thread = (s.worker w).thread
  resumes : s'.resumes w t = resume
  regions : (s'.worker w).regions = (s.worker w).regions ∨
    (s'.worker w).regions = goal.opens ++ (s.worker w).regions
  guards : (s'.machine.thread t).guards = (s.machine.thread t).guards
  others : ∀ u, u ≠ t → Machine.KeepsThread u s.machine s'.machine

/-- A thread leaves for the state that its worker and its own state tell. -/
lemma Leaves.of_worker {x : Worker} (own : s'.worker w = x)
    (thread : x.thread = (s.worker w).thread)
    (resumes : (x.wait.bind Wait.resume?).getD (s'.stateOf t) = resume)
    (regions : x.regions = (s.worker w).regions ∨ x.regions = goal.opens ++ (s.worker w).regions)
    (guards : (s'.machine.thread t).guards = (s.machine.thread t).guards)
    (others : ∀ u, u ≠ t → Machine.KeepsThread u s.machine s'.machine) :
    s.Leaves w t resume goal s' := by
  subst own
  exact ⟨thread, resumes, regions, guards, others⟩

/-- What is left of an operation leaves the thread in its state. -/
lemma finish_leaves (free : (s.worker w).wait = none) (goal : Goal) :
    s.Leaves w t (s.stateOf t) goal (s.finish w t goal).1 := by
  have awake (y : ThreadState) : ((s.worker w).wait.bind Wait.resume?).getD y = y := by
    rw [free]
    rfl
  have altered {s' : World} {x : Worker} (alters : s.machine.Alters t s'.machine)
      (own : s'.worker w = x) (thread : x.thread = (s.worker w).thread)
      (waits : ∀ y, (x.wait.bind Wait.resume?).getD y = y)
      (regions : x.regions = (s.worker w).regions ∨
        x.regions = goal.opens ++ (s.worker w).regions) : s.Leaves w t (s.stateOf t) goal s' :=
    .of_worker own thread ((waits _).trans (alters.state t)) regions (alters.guards t)
      fun u _ => alters.keepsThread u
  cases goal with
  | attach _ | resume => exact altered (.refl t _) rfl rfl awake (.inl rfl)
  | allocate label c =>
    exact altered (Machine.alters_allocate _ t label c) rfl rfl awake (.inl rfl)
  | countLock => exact altered (Machine.alters_gain _ t) rfl rfl awake (.inl rfl)
  | synchronized o r =>
    exact altered (Machine.alters_gain _ t) (own_openRegion ..) rfl awake (.inr rfl)
  | safepoint =>
    show s.Leaves w t (s.stateOf t) .safepoint (s.request w).1
    unfold request
    split
    next => exact altered (.refl t _) rfl rfl awake (.inl rfl)
    next b _ => exact altered (.refl t _) (own_setWait ..) rfl (fun _ => rfl) (.inl rfl)

/-- A thread that leaves a safe state is in the state that it leaves for, or returns to it. -/
lemma leave_leaves (s : World) (w : WorkerId) (t : ThreadId) (resume : ThreadState) (goal : Goal) :
    s.Leaves w t resume goal (s.leave w t resume goal).1 := by
  have other (x : ThreadState) {u : ThreadId} (ne : u ≠ t) :
      Machine.KeepsThread u s.machine (s.machine.setState t x) :=
    Machine.keepsThread_modifyThread s.machine _ ne
  unfold leave
  split
  next =>
    exact .of_worker (own_setWait ..) rfl rfl (.inl rfl) (Machine.guards_setState ..)
      fun u => other _
  next =>
    let n := (s.setState t resume).setWait w none
    have own : n.worker w = { s.worker w with wait := none } := own_setWait ..
    have finishes := finish_leaves (s := n) (w := w) (t := t) (by rw [own]) goal
    have regions := finishes.regions
    rw [own] at regions
    refine ⟨?_, ?_, regions, ?_, fun u ne => (other resume ne).trans (finishes.others u ne)⟩
    · rw [finishes.thread, own]
    · rw [finishes.resumes]
      exact Machine.state_setState ..
    · exact finishes.guards.trans (Machine.guards_setState ..)

/-- A thread that leaves for the state that it was in or was to return to. -/
lemma Leaves.turns (h : s.Leaves w t resume goal s') (same : s.resumes w t = resume)
    (ht : (s.worker w).thread = some t) : s.Turns w t g s' := by
  refine ⟨h.thread.trans ht, ?_, fun _ => h.guards, h.others⟩
  unfold World.course
  rw [h.resumes, same]
  rcases h.regions with eq | eq
  · rw [eq]
    exact .stay
  · rw [eq]
    cases goal with
    | synchronized o r => exact .lock rfl
    | _ => exact .stay

/-- A native or blocked region ends only if it is the innermost one. -/
lemma endRegion_cases {a : Action} (ends : a = .endNative ∨ a = .endBlocked) :
    s.act w t a = (s, .refused) ∨ ∃ r rest resume, (s.worker w).regions = r :: rest ∧
      r.resume? = some resume ∧ s.act w t a = (s.closeRegion w).leave w t resume .resume := by
  obtain rfl | rfl := ends
  all_goals
    dsimp only [act]
    split
    next resume rest inside => exact .inr ⟨_, rest, resume, inside, rfl, rfl⟩
    next => exact .inl rfl

section Actions

variable (ht : (s.worker w).thread = some t)
include ht

/-- A safepoint check turns nothing before an operation. -/
lemma checked_turns {next : World → Unit → World × Progress} (go : s.Turns w t g (next s ()).1) :
    s.Turns w t g (s.operate (·.checkSafepoint t) next).1 := by
  rcases checkSafepoint_cases s.machine t with ⟨-, eq⟩ | ⟨-, eq⟩
  · rw [operate_ok eq]
    exact go
  · rw [operate_fault eq]
    exact .idle ht

/-- The end of a native or blocked region returns to the state before the region. -/
lemma endRegion_turns {a : Action} (ends : a = .endNative ∨ a = .endBlocked) :
    s.Turns w t g (s.act w t a).1 := by
  obtain eq | ⟨r, rest, resume, inside, resumes, eq⟩ := endRegion_cases (s := s) (w := w) (t := t)
    ends
  all_goals rw [eq]
  · exact .idle ht
  have leaves := leave_leaves (s.closeRegion w) w t resume .resume
  have own : (s.closeRegion w).worker w = { s.worker w with regions := rest } := by
    rw [own_closeRegion, inside]
    rfl
  refine ⟨?_, ?_, fun _ => leaves.guards, leaves.others⟩
  · rw [leaves.thread, own]
    exact ht
  · unfold course
    rw [leaves.resumes, leaves.regions.elim id id, own, inside]
    exact .leave resumes

variable (free : (s.worker w).wait = none)
include free

/-- A poll returns to the state in which it began. -/
lemma poll_turns (goal : Goal) : s.Turns w t g (s.poll w t goal).1 :=
  checked_turns ht ((leave_leaves ..).turns (resumes_of_awake free) ht)

/-- An operation that never waits turns nothing. -/
lemma conclude_turns {α : Type} {answer : α → Answer} {operation : Machine → Outcome α}
    (keeps : ∀ u, Machine.KeepsThread u s.machine (operation s.machine).machine) :
    s.Turns w t g (s.conclude answer operation).1 := by
  cases eq : operation s.machine with
  | ok a n =>
    rw [eq] at keeps
    rw [conclude_ok eq]
    exact .of_machine ht free keeps rfl
  | fault f n =>
    rw [eq] at keeps
    rw [conclude_fault eq]
    exact .of_machine ht free keeps rfl

/-- A thread that begins to wait for a monitor is to return to the state that it was in. -/
lemma queued_turns {id : MonitorId} {n : Machine}
    (queued : (Outcome.ok (.queued id resume) n).Enqueues t s.machine) :
    s.Turns w t g
      ({ s with machine := n }.setWait w (some (.monitor id resume goal))) := by
  obtain ⟨k, alters, -, state, -, -, rfl⟩ := queued
  refine .of_worker ht (own_setWait ..) rfl ?_
    (fun _ => (Machine.guards_setState ..).trans (alters.guards t)) fun u ne => ?_
  · rw [course_of_awake free, show s.stateOf t = resume from (alters.state t).symm.trans state]
    exact .stay
  · have blocked := Machine.keepsThread_modifyThread (k.setMonitor id ((k.monitor id).enqueue t))
      (fun x => { x with state := .blocked }) ne
    exact ⟨blocked.state.trans (alters.state u), blocked.guards.trans (alters.guards u)⟩

/-- An enter returns to the state in which it began. -/
lemma enter_turns {k : Machine} {operation : Machine → Outcome Entry} {goal : Goal}
    {next : World → World × Progress} (enters : (operation k).Enqueues t s.machine)
    (go : ∀ n, (∀ u, Machine.KeepsThread u s.machine n) →
      s.Turns w t g (next { s with machine := n }).1) :
    s.Turns w t g (({ s with machine := k } : World).enter w operation goal next).1 := by
  unfold enter
  match eq : operation k with
  | .ok .entered n =>
    rw [eq] at enters
    rw [operate_ok eq]
    exact go n fun u => Machine.Alters.keepsThread enters u
  | .ok (.queued _ _) n =>
    rw [eq] at enters
    rw [operate_ok eq]
    exact queued_turns ht free enters
  | .fault f n =>
    rw [eq] at enters
    rw [operate_fault eq]
    exact .of_machine ht free (fun u => Machine.Alters.keepsThread enters.1 u) rfl

/-- An enter that is all of an operation returns to the state in which it began. -/
lemma concludeEnter_turns {operation : Machine → Outcome Entry} {goal : Goal}
    (enters : (operation s.machine).Enqueues t s.machine) :
    s.Turns w t g (s.concludeEnter w goal operation).1 :=
  enter_turns (k := s.machine) ht free enters fun _ keeps => .of_machine ht free keeps rfl

/-- The begin of a native or blocked region keeps the state to return to. -/
lemma beginRegion_turns (inside : ThreadState) {region : ThreadState → Region}
    (resume : ∀ x, (region x).resume? = some x) :
    s.Turns w t g (s.beginRegion w t inside region).1 := by
  refine checked_turns ht (.of_worker ht (own_openRegion ..) rfl ?_
    (fun _ => Machine.guards_setState ..) fun u ne => Machine.keepsThread_modifyThread _ _ ne)
  rw [course_of_awake free]
  exact .enter (resume _)

/-- The begin of a synchronized region returns to the state in which it began. -/
lemma beginSynchronized_turns (marked : s.machine.WellMarked) (o : ObjectId) :
    s.Turns w t g (s.beginSynchronized w t o).1 := by
  let r := s.machine.records.size
  let n := (s.machine.addRecord w).2
  have added : s.machine.Alters t n :=
    ⟨rfl, rfl, rfl, fun _ => rfl, fun _ => rfl, fun _ => .refl .., fun all => all⟩
  have opens (n : Machine) (keeps : ∀ u, Machine.KeepsThread u s.machine n) :
      s.Turns w t g (World.openRegion { s with machine := n } w (.synchronized o r)) :=
    .of_regions ht free keeps (own_openRegion ..) rfl rfl fun _ => .lock rfl
  have quick := (Machine.quickEnter_alters (t := t) (r := r) (added.marked marked)
    (some o)).after added
  rw [beginSynchronized_eq]
  match eq : n.quickEnter t (some o) r with
  | .fault f k =>
    rw [eq] at quick
    rw [operate_fault eq]
    exact .of_machine ht free (fun u => Machine.Alters.keepsThread quick.1 u) rfl
  | .ok true k =>
    rw [eq] at quick
    rw [operate_ok eq]
    exact opens k fun u => Machine.Alters.keepsThread quick u
  | .ok false k =>
    rw [eq] at quick
    rw [operate_ok eq, openSynchronized, if_neg Bool.false_ne_true]
    exact enter_turns (k := k) ht free
      ((Machine.enter_enqueues (Machine.Alters.marked quick marked)).after quick) opens

/-- The end of a synchronized region leaves the state alone. -/
lemma endSynchronized_turns (marked : s.machine.WellMarked) (result : Progress) :
    s.Turns w t g (s.endSynchronized w t result).1 := by
  unfold endSynchronized
  split
  next o r rest inside =>
    have keeps := (Machine.exit_exits (t := t) (o := o) (r := r) marked).keepsThread
    have closes (n : Machine) (keeps : ∀ u, Machine.KeepsThread u s.machine n) :
        s.Turns w t g (World.closeRegion { s with machine := n } w) := by
      refine .of_regions ht free keeps (own_closeRegion ..) rfl rfl fun x => ?_
      rw [show (World.worker { s with machine := n } w).regions = _ from inside, inside]
      exact .unlock rfl
    cases eq : s.machine.exit t o r with
    | ok a n =>
      rw [eq] at keeps
      rw [operate_ok (s := s.closeRegion w) eq]
      exact closes n keeps
    | fault f n =>
      rw [eq] at keeps
      rw [operate_fault (s := s.closeRegion w) eq]
      exact closes n keeps
  next => exact .idle ht

/-- A guard that is opened or closed leaves the state alone. -/
lemma guard_turns {f : Thread → Thread} (state : ∀ x, (f x).state = x.state) (off : ¬ g) :
    s.Turns w t g { s with machine := s.machine.modifyThread t f } := by
  refine .of_worker ht (x := s.worker w) rfl rfl ?_ (fun on => absurd on off) fun u ne =>
    Machine.keepsThread_modifyThread _ _ ne
  have same : World.stateOf { s with machine := s.machine.modifyThread t f } t = s.stateOf t := by
    unfold stateOf
    rw [Machine.thread_modifyThread, if_pos rfl, state]
  rw [course_of_awake free, same, free]
  exact .stay

/-- Waiting for the turn to request a safepoint returns to the state in which it began. -/
lemma beginSafepoint_turns : s.Turns w t g (s.beginSafepoint w).1 := by
  unfold beginSafepoint
  simp only [ht]
  refine checked_turns ht (.of_worker ht (own_setWait ..) rfl ?_
    (fun _ => Machine.guards_setState ..) fun u ne => Machine.keepsThread_modifyThread _ _ ne)
  rw [course_of_awake free]
  exact .stay

/-- The end of a safepoint leaves the state alone. -/
lemma endSafepoint_turns : s.Turns w t g (s.endSafepoint w).1 := by
  unfold endSafepoint
  dsimp only
  split
  next => exact .of_machine ht free (fun u => .refl u _) rfl
  next b _ =>
    exact .of_regions ht free (fun u => ⟨rfl, rfl⟩) (own_modifyWorker ..) rfl rfl fun _ => .stay

/-- A second attachment fails and leaves the state alone. -/
lemma attach_turns : s.Turns w t g (s.attach w).1 := by
  unfold attach
  simp only [ht]
  exact .of_machine ht free (fun u => ⟨rfl, rfl⟩) rfl

/-- Every action of a thread that does not detach follows its course. -/
lemma act_turns (marked : s.machine.WellMarked) {a : Action} (stays : a ≠ .detach) :
    s.Turns w t (a ≠ .beginGuard ∧ a ≠ .endGuard) (s.act w t a).1 := by
  cases a with
  | attach => exact attach_turns ht free
  | detach => exact absurd rfl stays
  | allocate _ _ | poll => exact poll_turns ht free _
  | enter o r raw =>
    cases raw with
    | true => exact concludeEnter_turns ht free (Locking.enter_enqueues marked)
    | false => exact concludeEnter_turns ht free (Machine.enter_enqueues marked)
  | quickEnter o r raw =>
    have counted {g : Prop} : s.Turns w t g (s.conclude .flag (·.quickEnter t o r)).1 :=
      conclude_turns ht free (Machine.quickEnter_alters marked o).keepsThread
    cases o with
    | none => cases raw <;> exact counted
    | some o =>
      cases raw with
      | true => exact conclude_turns ht free (Locking.quickEnter_alters marked).keepsThread
      | false => exact counted
  | exit o r raw =>
    cases raw with
    | true => exact conclude_turns ht free (Locking.exit_exits marked).keepsThread
    | false => exact conclude_turns ht free (Machine.exit_exits marked).keepsThread
  | identityHash o => exact conclude_turns ht free (Machine.identityHash_alters marked).keepsThread
  | inflate o cause =>
    exact conclude_turns ht free (Locking.inflate_alters marked cause).keepsThread
  | checkSafepoint => exact conclude_turns ht free (Machine.checkSafepoint_alters _ _).keepsThread
  | beginGuard => exact guard_turns ht free (fun _ => rfl) fun plain => plain.1 rfl
  | endGuard =>
    rw [act_endGuard]
    split
    next => exact .idle ht
    next => exact guard_turns ht free (fun _ => rfl) fun plain => plain.2 rfl
  | beginNative | beginBlocked => exact beginRegion_turns ht free _ fun _ => rfl
  | endNative => exact endRegion_turns ht (.inl rfl)
  | endBlocked => exact endRegion_turns ht (.inr rfl)
  | beginSynchronized o => exact beginSynchronized_turns ht free marked o
  | endSynchronized | failSynchronized => exact endSynchronized_turns ht free marked _
  | beginSafepoint =>
    rw [act_beginSafepoint]
    split
    next => exact .idle ht
    next => exact beginSafepoint_turns ht free
  | endSafepoint =>
    rw [act_endSafepoint]
    split
    next => exact endSafepoint_turns ht free
    next => exact .idle ht
  | enterMonitor id => exact concludeEnter_turns ht free (Machine.enterMonitor_enqueues _ _ _)
  | tryEnterMonitor id =>
    exact conclude_turns ht free (Machine.tryEnterMonitor_alters _ _ _).keepsThread
  | exitMonitor id => exact conclude_turns ht free (Machine.exitMonitor_exits _ _ _).keepsThread
  | monitorHash id =>
    exact .of_machine ht free (Machine.alters_monitorHash _ _ _).keepsThread rfl
  | claimMonitor id n =>
    exact conclude_turns ht free (Machine.claimMonitor_alters _ _ _ _).keepsThread
  | store o i v | add o i v =>
    exact conclude_turns ht free (Machine.updateSlot_alters (t := t) _ _).keepsThread
  | load o i => exact conclude_turns ht free (Machine.loadSlot_alters (t := t) _).keepsThread

end Actions

section Moves

variable (ht : (s.worker w).thread = some t)
include ht

/-- The end of a wait for a monitor or at the barrier follows the course. -/
lemma wake_turns : s.Turns w t g (s.wake w).1 := by
  unfold wake
  split
  next u id resume goal hu hw =>
    obtain rfl := Option.some.inj (ht.symm.trans hu)
    split
    next => exact (leave_leaves ..).turns (resumes_of_wait hw rfl) ht
    next => exact .idle ht
  next u resume goal hu hw =>
    obtain rfl := Option.some.inj (ht.symm.trans hu)
    split
    next => exact .idle ht
    next => exact (leave_leaves ..).turns (resumes_of_wait hw rfl) ht
  next => exact .idle ht

/-- The turn to request a safepoint follows the course. -/
lemma grant_turns : s.Turns w t g (s.grant w).1 := by
  unfold grant
  split
  next next rest resume _ _ hw =>
    split
    next =>
      dsimp only
      split
      next u hu =>
        obtain rfl : t = u := Option.some.inj (ht.symm.trans hu)
        have leaves := leave_leaves { s with safepoint := { s.safepoint with
          holder := some w, queue := rest } } w t resume .safepoint
        have turns : s.Leaves w t resume .safepoint _ :=
          ⟨leaves.thread, leaves.resumes, leaves.regions, leaves.guards, leaves.others⟩
        exact turns.turns (resumes_of_wait hw rfl) ht
      next detached => cases ht.symm.trans detached
    next => exact .idle ht
  next => exact .idle ht

/-- A safepoint that is reached follows the course. -/
lemma reach_turns : s.Turns w t g (s.reach w).1 := by
  unfold reach
  split
  next hw =>
    split
    next =>
      have own := (own_modifyWorker ((s.setWait w none).note .safepointReached) w fun y =>
        { y with inScope := true }).trans
          (congrArg (fun y : Worker => { y with inScope := true }) (own_setWait s w none))
      refine .of_worker ht own rfl ?_ (fun _ => rfl) fun u _ => ⟨rfl, rfl⟩
      unfold course resumes
      rw [hw]
      exact .stay
    next => exact .idle ht
  next => exact .idle ht

/-- Every move of a worker that does not detach follows the course of its thread. -/
lemma move_turns (marked : s.machine.WellMarked) {x : Move} (own : x.worker? = some w)
    (stays : x ≠ .act w .detach) :
    s.Turns w t (x ≠ .act w .beginGuard ∧ x ≠ .act w .endGuard) (s.move x).1 := by
  cases x with
  | act v a =>
    obtain rfl : v = w := Option.some.inj own
    cases free : (s.worker v).wait with
    | some y =>
      rw [move_of_waits free]
      exact .idle ht
    | none =>
      rw [move_act free, begin_attached ht]
      have turns := act_turns ht free marked (a := a) fun eq => stays (by rw [eq])
      exact ⟨turns.thread, turns.course, fun plain => turns.guards
        ⟨fun eq => plain.1 (by rw [eq]), fun eq => plain.2 (by rw [eq])⟩, turns.others⟩
  | wake v =>
    obtain rfl : v = w := Option.some.inj own
    exact wake_turns ht
  | grant v =>
    obtain rfl : v = w := Option.some.inj own
    exact grant_turns ht
  | reach v =>
    obtain rfl : v = w := Option.some.inj own
    exact reach_turns ht
  | addWorker | addRecord _ => cases own

end Moves

/-- A new thread has a new number. -/
lemma attach_keeps (hv : (s.worker v).thread = none) (lt : t < s.machine.nextThread) :
    Machine.KeepsThread t s.machine (s.attach v).1.machine := by
  have ne : t ≠ s.machine.nextThread := Nat.ne_of_lt lt
  unfold attach
  simp only [hv]
  refine Machine.KeepsThread.trans ?_ ((leave_leaves ..).others t ne)
  have same : (s.machine.threads.set s.machine.nextThread (.attached s.machine.nextThread)).get t =
      s.machine.threads.get t := Store.get_set_of_ne _ _ ne
  exact ⟨congrArg Thread.state same, congrArg Thread.guards same⟩

/-- A request for a safepoint keeps every thread. -/
lemma request_keeps (s : World) (v : WorkerId) (t : ThreadId) :
    Machine.KeepsThread t s.machine (s.request v).1.machine := by
  unfold request
  split <;> exact .refl t _

/-- The end of a safepoint keeps every thread. -/
lemma endSafepoint_keeps (s : World) (v : WorkerId) (t : ThreadId) :
    Machine.KeepsThread t s.machine (s.endSafepoint v).1.machine := by
  unfold endSafepoint
  dsimp only
  split <;> exact ⟨rfl, rfl⟩

/-- A worker without a thread touches the state of none. -/
lemma detached_keeps (hv : (s.worker v).thread = none) {x : Move} (own : x.worker? = some v)
    (lt : t < s.machine.nextThread) : Machine.KeepsThread t s.machine (s.move x).1.machine := by
  cases x with
  | act v a =>
    obtain rfl := Option.some.inj own
    cases free : (s.worker v).wait with
    | some y =>
      rw [move_of_waits free]
      exact .refl t _
    | none =>
      rw [move_act free]
      -- A worker without a thread attaches a new one, or begins or ends a safepoint.
      rcases begin_detached hv a with eq | ⟨-, -, eq⟩ | ⟨-, -, eq⟩ | ⟨-, -, eq⟩
      all_goals rw [eq]
      · exact .refl t _
      · exact attach_keeps hv lt
      · unfold beginSafepoint
        simp only [hv]
        exact .refl t _
      · exact endSafepoint_keeps s v t
  | wake v =>
    obtain rfl := Option.some.inj own
    show Machine.KeepsThread t s.machine (s.wake v).1.machine
    unfold wake
    simp only [hv]
    exact .refl t _
  | grant v =>
    obtain rfl := Option.some.inj own
    show Machine.KeepsThread t s.machine (s.grant v).1.machine
    unfold grant
    split
    next next rest _ _ _ _ =>
      split
      next =>
        dsimp only
        split
        next u hu => cases hv.symm.trans hu
        next =>
          exact request_keeps { s with safepoint := { s.safepoint with
            holder := some v, queue := rest } } v t
      next => exact .refl t _
    next => exact .refl t _
  | reach v =>
    obtain rfl := Option.some.inj own
    show Machine.KeepsThread t s.machine (s.reach v).1.machine
    unfold reach
    split
    next =>
      split
      next => exact ⟨rfl, rfl⟩
      next => exact .refl t _
    next => exact .refl t _
  | addWorker | addRecord _ => cases own

/-- So a thread stays as it is while other workers move. -/
lemma move_keeps (marked : s.machine.WellMarked) (distinct : s.scene.Distinct)
    (ht : (s.worker w).thread = some t) {x : Move} (other : x.worker? ≠ some w) :
    Machine.KeepsThread t s.machine (s.move x).1.machine := by
  cases own : x.worker? with
  | none =>
    cases x with
    | addWorker | addRecord _ => exact ⟨rfl, rfl⟩
    | act _ _ | wake _ | grant _ | reach _ => cases own
  | some v =>
    cases hv : (s.worker v).thread with
    | none => exact detached_keeps hv own (distinct.lt w t ht)
    | some u =>
      have ne : t ≠ u := by
        rintro rfl
        exact other (own.trans (congrArg some (distinct.unique v w t hv ht)))
      by_cases leaves : x = .act v .detach
      · subst leaves
        cases free : (s.worker v).wait with
        | some y =>
          rw [move_of_waits free]
          exact .refl t _
        | none =>
          rw [move_act free, begin_attached hv, act_detach]
          split
          next => exact .refl t _
          next =>
            have ended := Machine.keepsThread_modifyThread s.machine
              (fun x => { x with state := .terminated }) ne
            exact ⟨ended.state, ended.guards⟩
      · exact (move_turns hv marked own leaves).others t ne

/-- What one move does to an attached thread that does not detach. -/
lemma move_course (marked : s.machine.WellMarked) (distinct : s.scene.Distinct)
    (ht : (s.worker w).thread = some t) {x : Move} (stays : x ≠ .act w .detach) :
    ((s.move x).1.worker w).thread = some t ∧
      Region.Step (s.course w t) ((s.move x).1.course w t) ∧
      (x ≠ .act w .beginGuard ∧ x ≠ .act w .endGuard →
        ((s.move x).1.machine.thread t).guards = (s.machine.thread t).guards) := by
  by_cases own : x.worker? = some w
  · have turns := move_turns ht marked own stays
    exact ⟨turns.thread, turns.course, turns.guards⟩
  · have keeps := move_keeps marked distinct ht own
    have same := worker_move (s := s) own
    refine ⟨by rw [same, ht], ?_, fun _ => keeps.guards⟩
    have course : (s.move x).1.course w t = s.course w t := by
      unfold World.course resumes
      rw [same, show (s.move x).1.stateOf t = s.stateOf t from keeps.state]
    rw [course]
    exact .stay

/-- Worker `w` does not detach, and has at least `n` regions open all the time. -/
def KeepsOpen (s : World) (w : WorkerId) (n : Nat) : List Move → Prop
  | [] => True
  | x :: l => x ≠ .act w .detach ∧ n ≤ ((s.move x).1.worker w).regions.length ∧
      (s.move x).1.KeepsOpen w n l

instance decidableKeepsOpen (w : WorkerId) (n : Nat) :
    (s : World) → (l : List Move) → Decidable (s.KeepsOpen w n l)
  | _, [] => isTrue trivial
  | _, _ :: l => @instDecidableAnd _ _ _ (@instDecidableAnd _ _ _ (decidableKeepsOpen w n _ l))

/-- Moves of all workers among which worker `w` only ends regions that it has begun in them. -/
def WellNested (s : World) (w : WorkerId) (l : List Move) : Prop :=
  s.KeepsOpen w (s.worker w).regions.length l

instance (s : World) (w : WorkerId) (l : List Move) : Decidable (s.WellNested w l) :=
  inferInstanceAs (Decidable (s.KeepsOpen ..))

/-- What is left of the state of thread `t` of worker `w`. -/
structure Restores (s : World) (w : WorkerId) (t : ThreadId) (s' : World) : Prop where
  attached : (s'.worker w).thread = some t
  /-- The regions that were open before still are, with the states that they restore. At the end of
  those inside of them the thread is back in its state. -/
  enclosing : ∃ inner, (s'.worker w).regions = inner ++ (s.worker w).regions ∧
    Region.unwind (s'.resumes w t) inner = s.stateOf t
  /-- When these have ended, the thread is in its state, or returns to it at the end of its wait. -/
  returns : (s'.worker w).regions.length = (s.worker w).regions.length →
    (s'.worker w).regions = (s.worker w).regions ∧ s'.resumes w t = s.stateOf t
  restored : (s'.worker w).regions.length = (s.worker w).regions.length →
    (s'.worker w).wait = none → s'.stateOf t = s.stateOf t

/-- What a sequence of moves does to an attached thread that does not detach. -/
lemma follow_course (marked : s.machine.WellMarked) (distinct : s.scene.Distinct)
    (ht : (s.worker w).thread = some t) {x : ThreadState} {base : List Region}
    (back : Region.Returns x base (s.course w t)) {h : List Event} {l : List Move}
    (nested : s.KeepsOpen w base.length l) :
    ((s.follow h l).1.worker w).thread = some t ∧
      Region.Returns x base ((s.follow h l).1.course w t) ∧
      ((∀ x ∈ l, x ≠ .act w .beginGuard ∧ x ≠ .act w .endGuard) →
        ((s.follow h l).1.machine.thread t).guards = (s.machine.thread t).guards) := by
  induction l generalizing s h with
  | nil => exact ⟨ht, back, fun _ => rfl⟩
  | cons y l ih =>
    obtain ⟨stays, deep, nested⟩ := nested
    obtain ⟨ht', step, guards⟩ := move_course marked distinct ht stays
    have moved := move_moved marked y
    obtain ⟨attached, back', guards'⟩ :=
      ih moved.marked (distinct.step moved.step) ht' (back.step step deep) nested
    exact ⟨attached, back', fun plain => (guards' fun z mem => plain z (.tail _ mem)).trans
      (guards (plain y (.head _)))⟩

end World

namespace Run

variable {rule : Rule} {options : Options} {s : World} {h : List Event} {w : WorkerId}
  {t : ThreadId}

/-- At any time of any run, whatever an attached thread does then, well nested and among whatever
the others do, it is back in its state when all of that has ended. Its guards are as many, and the
regions around it restore the states that they would have restored. -/
theorem states_restored (run : Run rule options s h) (attached : (s.worker w).thread = some t)
    (awake : (s.worker w).wait = none) (l : List Move) (nested : s.WellNested w l) :
    s.Restores w t (s.follow h l).1 ∧
      ((∀ x ∈ l, x ≠ .act w .beginGuard ∧ x ≠ .act w .endGuard) →
        ((s.follow h l).1.machine.thread t).guards = (s.machine.thread t).guards) := by
  have distinct : s.scene.Distinct := run.keeps (.new options) fun distinct c => distinct.step c
  have back : Region.Returns (s.stateOf t) (s.worker w).regions (s.course w t) :=
    ⟨[], rfl, World.resumes_of_awake awake⟩
  obtain ⟨attached', ⟨inner, eq, back'⟩, guards⟩ :=
    World.follow_course (h := h) run.wellMarked distinct attached back nested
  have returns (ended : ((s.follow h l).1.worker w).regions.length = (s.worker w).regions.length) :
      ((s.follow h l).1.worker w).regions = (s.worker w).regions ∧
        (s.follow h l).1.resumes w t = s.stateOf t := by
    have eq : ((s.follow h l).1.worker w).regions = inner ++ (s.worker w).regions := eq
    rw [eq, List.length_append, Nat.add_eq_right, List.length_eq_zero_iff] at ended
    subst ended
    exact ⟨eq, back'⟩
  refine ⟨⟨attached', ⟨inner, eq, back'⟩, returns, fun ended free => ?_⟩, guards⟩
  rw [← World.resumes_of_awake free]
  exact (returns ended).2

/-- Two threads, of which the second one holds an object. -/
def heldObject : World × List Event :=
  (World.new (.ofMode .lightweight)).follow []
    [.addWorker, .addWorker, .act 0 .attach, .act 1 .attach, .addRecord 0, .addRecord 1,
      .act 0 (.allocate "shared" ⟨"Counter", 1, false⟩), .act 1 (.enter 0 1 false)]

/-- The first thread runs native code. In it, it blocks and is caught by two safepoints on its way
back, waits for the object, is caught again, and holds a safepoint itself. -/
def caughtTwice : List Move :=
  [.act 0 .beginNative, .act 0 .beginBlocked, .act 1 .beginSafepoint, .grant 1, .reach 1,
    .act 0 .endBlocked, .act 1 .endSafepoint, .act 1 .beginSafepoint, .grant 1, .reach 1, .wake 0,
    .act 1 .endSafepoint, .wake 0, .act 0 (.enter 0 0 false), .act 1 (.exit 0 1 false),
    .act 1 .beginSafepoint, .grant 1, .reach 1, .wake 0, .act 1 .endSafepoint, .wake 0,
    .act 0 (.allocate "local" ⟨"Counter", 1, false⟩), .act 1 .beginNative, .act 0 .beginSafepoint,
    .grant 0, .reach 0, .act 0 .endSafepoint, .act 0 .endNative]

/-- After all of that, the thread is in its state again, with its guards as they were. -/
theorem states_restored_caughtTwice :
    ((heldObject.1.follow heldObject.2 caughtTwice).1.worker 0).wait = none ∧
      (heldObject.1.follow heldObject.2 caughtTwice).1.machine.holdsLock 2 0 = true ∧
      heldObject.1.stateOf 2 = .inManaged ∧
      (heldObject.1.follow heldObject.2 caughtTwice).1.stateOf 2 = heldObject.1.stateOf 2 ∧
      ((heldObject.1.follow heldObject.2 caughtTwice).1.machine.thread 2).guards =
        (heldObject.1.machine.thread 2).guards := by
  have run : Run anything (.ofMode .lightweight) heldObject.1 heldObject.2 :=
    .follow .new _ (anything.allows ..)
  have awake : ((heldObject.1.follow heldObject.2 caughtTwice).1.worker 0).wait = none := by
    decide +kernel
  obtain ⟨restores, guards⟩ := states_restored run (w := 0) (t := 2) (by decide +kernel)
    (by decide +kernel) caughtTwice (by decide +kernel)
  exact ⟨awake, by decide +kernel, by decide +kernel, restores.restored (by decide +kernel) awake,
    guards (by decide +kernel)⟩

end Run

end ObjectLocks
