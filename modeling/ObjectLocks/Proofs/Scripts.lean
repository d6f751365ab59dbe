import ObjectLocks.Proofs.Completion

/-!
# Scripts

A script attaches workers and allocates, enters, exits, hashes and inflates objects. It has neither
regions nor guards nor safepoints, so no worker is ever kept from going on but by a lock.
-/

namespace ObjectLocks

/-- What the workers of a script do. -/
def Action.isScripted : Action → Bool
  | attach | allocate _ _ | enter _ _ _ | exit _ _ _ | identityHash _ | inflate _ _ => true
  | _ => false

/-- What a script is made of. -/
def Move.isScripted : Move → Bool
  | act _ a => a.isScripted
  | _ => true

/-- The wait of an enter. -/
def Wait.isLock : Wait → Bool
  | monitor _ _ .resume | monitor _ _ .countLock => true
  | _ => false

/-- What a worker of a script has left to do when it wakes. -/
def Goal.isScripted : Goal → Bool
  | attach _ | resume | allocate _ _ | countLock => true
  | synchronized _ _ | safepoint => false

/-- No worker is kept from going on but by a lock. -/
structure World.Calm (s : World) : Prop where
  unguarded : ∀ t, s.machine.Unguarded t
  unrequested : s.safepoint.requested = false
  regions : ∀ w, (s.worker w).regions = []
  unscoped : ∀ w, (s.worker w).inScope = false
  waits : ∀ w x, (s.worker w).wait = some x → x.isLock = true

section

variable {α : Type} {m n : Machine} {t u : ThreadId}

/-- Guards stay as they are over a change of a thread that has no part in them. -/
lemma Machine.unguarded_modifyThread {f : Thread → Thread} (same : ∀ x, (f x).guards = x.guards)
    (unguarded : m.Unguarded u) : (m.modifyThread t f).Unguarded u := by
  unfold Unguarded
  rw [thread_modifyThread]
  split
  · exact (same _).trans unguarded
  · exact unguarded

/-- An operation that alters a thread opens no guard. -/
lemma Outcome.Alters.unguarded {x : Outcome α} (h : x.Alters t m) (unguarded : m.Unguarded u) :
    x.machine.Unguarded u := by
  cases x with
  | ok _ n => exact Machine.Alters.unguarded h unguarded
  | fault _ n => exact h.1.unguarded unguarded

/-- An exit opens no guard. -/
lemma Outcome.Exits.unguarded {x : Outcome Unit} (h : x.Exits t m) (unguarded : m.Unguarded u) :
    x.machine.Unguarded u := by
  cases x with
  | ok _ n =>
    rcases h with alters | ⟨k, id, y, alters, -, -, rfl⟩
    · exact alters.unguarded unguarded
    · exact alters.unguarded unguarded
  | fault _ n => exact h.1.unguarded unguarded

/-- An enter opens no guard. -/
lemma Outcome.Enqueues.unguarded {x : Outcome Entry} (h : x.Enqueues t m)
    (unguarded : m.Unguarded u) : x.machine.Unguarded u := by
  match x, h with
  | .ok .entered n, h => exact Machine.Alters.unguarded h unguarded
  | .ok (.queued id _) _, ⟨k, alters, _, _, _, _, eq⟩ =>
    subst eq
    exact Machine.unguarded_modifyThread (m := k.setMonitor id _) (fun _ => rfl)
      (alters.unguarded unguarded)
  | .fault _ n, h => exact h.1.unguarded unguarded

end

namespace World

variable {s s' : World} {w : WorkerId} {t : ThreadId} {a : Action}

/-- An operation that does not wait changes nothing but the machine. -/
lemma conclude_fst {α : Type} {answer : α → Answer} {operation : Machine → Outcome α} :
    (s.conclude answer operation).1 = { s with machine := (operation s.machine).machine } := by
  cases eq : operation s.machine with
  | ok a n => rw [conclude_ok eq]; rfl
  | fault f n => rw [conclude_fault eq]; rfl

namespace Calm

/-- A new system is calm. -/
lemma new (options : Options) : (World.new options).Calm :=
  ⟨fun _ => rfl, rfl, fun _ => rfl, fun _ => rfl, nofun⟩

/-- A change of the machine that opens no guard keeps a system calm. -/
lemma machine (k : s.Calm) {n : Machine} (unguarded : ∀ t, n.Unguarded t) :
    { s with machine := n }.Calm :=
  ⟨unguarded, k.unrequested, k.regions, k.unscoped, k.waits⟩

/-- A change of a worker keeps a system calm, if it opens no region and waits for nothing but a
lock. -/
lemma modifyWorker (k : s.Calm) {f : Worker → Worker} (regions : ∀ x, (f x).regions = x.regions)
    (inScope : ∀ x, (f x).inScope = x.inScope)
    (waits : ∀ x, (f (s.worker w)).wait = some x → x.isLock = true) : (s.modifyWorker w f).Calm := by
  refine ⟨k.unguarded, k.unrequested, fun w' => ?_, fun w' => ?_, fun w' x => ?_⟩
  · rw [worker_modifyWorker]
    split
    · exact (regions _).trans (k.regions w)
    · exact k.regions w'
  · rw [worker_modifyWorker]
    split
    · exact (inScope _).trans (k.unscoped w)
    · exact k.unscoped w'
  · rw [worker_modifyWorker]
    split
    · exact waits x
    · exact k.waits w' x

/-- A worker may wait for a lock, or not at all. -/
lemma setWait (k : s.Calm) {x : Option Wait} (lock : ∀ y, x = some y → y.isLock = true) :
    (s.setWait w x).Calm := k.modifyWorker (fun _ => rfl) (fun _ => rfl) lock

/-- A thread that leaves a safe state keeps the system calm. -/
lemma leave (k : s.Calm) (resume : ThreadState) {goal : Goal} (scripted : goal.isScripted = true) :
    (s.leave w t resume goal).1.Calm := by
  have resumed : (s.setState t resume).Calm :=
    k.machine fun u => Machine.unguarded_modifyThread (fun _ => rfl) (k.unguarded u)
  have woken : ((s.setState t resume).setWait w none).Calm := resumed.setWait fun _ => nofun
  unfold World.leave
  rw [if_neg (by rw [k.unrequested]; exact nofun)]
  cases goal with
  | attach _ | resume => exact woken
  | allocate _ _ => exact woken.machine woken.unguarded
  | countLock =>
    exact woken.machine fun u =>
      Machine.unguarded_modifyThread (fun _ => rfl) (woken.unguarded u)
  | synchronized _ _ | safepoint => cases scripted

/-- An operation that does not wait keeps the system calm. -/
lemma conclude (k : s.Calm) {α : Type} {answer : α → Answer} {operation : Machine → Outcome α}
    (unguarded : ∀ u, (operation s.machine).machine.Unguarded u) :
    (s.conclude answer operation).1.Calm := by
  rw [conclude_fst]
  exact k.machine unguarded

/-- An enter keeps the system calm, though its worker may wait for the lock. -/
lemma concludeEnter (k : s.Calm) {operation : Machine → Outcome Entry} {goal : Goal}
    (enters : (operation s.machine).Enqueues t s.machine)
    (lock : ∀ id resume, (Wait.monitor id resume goal).isLock = true) :
    (s.concludeEnter w goal operation).1.Calm := by
  have entered := k.machine fun u => enters.unguarded (k.unguarded u)
  unfold World.concludeEnter World.enter
  match eq : operation s.machine with
  | .ok .entered n =>
    rw [eq] at entered
    rw [operate_ok eq]
    exact entered
  | .ok (.queued id resume) n =>
    rw [eq] at entered
    rw [operate_ok eq]
    refine entered.setWait fun y waits => ?_
    obtain rfl := Option.some.inj waits
    exact lock id resume
  | .fault f n =>
    rw [eq] at entered
    rw [operate_fault eq]
    exact entered

/-- A new thread keeps the system calm. -/
lemma attach (k : s.Calm) : (s.attach w).1.Calm := by
  unfold World.attach
  dsimp only
  split
  next => exact k.machine k.unguarded
  next =>
    generalize hm : ({ s.machine with
      nextThread := _, threads := _, registry := _ } : Machine) = m
    have added : { s with machine := m }.Calm := by
      refine k.machine fun u => ?_
      show (m.threads.get u).guards = 0
      rw [← hm, Store.get_set, Function.update_apply]
      split
      · rfl
      · exact k.unguarded u
    have attached := added.modifyWorker (w := w)
      (f := fun y => { y with thread := some s.machine.nextThread }) (fun _ => rfl) (fun _ => rfl)
      (added.waits w)
    exact attached.leave _ rfl

/-- Every action of a script keeps the system calm. -/
lemma act (k : s.Calm) (marked : s.machine.WellMarked) (scripted : a.isScripted = true) :
    (s.act w t a).1.Calm := by
  cases a with
  | attach => exact k.attach
  | allocate label c =>
    have checked : s.machine.checkSafepoint t = .ok () s.machine := if_pos (k.unguarded t)
    show (s.poll w t _).1.Calm
    unfold World.poll
    rw [operate_ok checked]
    exact k.leave _ rfl
  | enter o r raw =>
    cases raw with
    | true => exact k.concludeEnter (Locking.enter_enqueues marked) fun _ _ => rfl
    | false => exact k.concludeEnter (Machine.enter_enqueues marked) fun _ _ => rfl
  | exit o r raw =>
    cases raw with
    | true => exact k.conclude fun u => (Locking.exit_exits marked).unguarded (k.unguarded u)
    | false => exact k.conclude fun u => (Machine.exit_exits marked).unguarded (k.unguarded u)
  | identityHash o =>
    exact k.conclude fun u => (Machine.identityHash_alters marked).unguarded (k.unguarded u)
  | inflate o cause =>
    exact k.conclude fun u => (Locking.inflate_alters marked cause).unguarded (k.unguarded u)
  | _ => cases scripted

/-- Nobody waits for a turn. -/
lemma grant_eq (k : s.Calm) (w : WorkerId) : s.grant w = (s, .waiting) := by
  unfold grant
  split
  next waits => cases k.waits w _ waits
  next => rfl

/-- Nobody waits for a safepoint. -/
lemma reach_eq (k : s.Calm) (w : WorkerId) : s.reach w = (s, .waiting) := by
  unfold reach
  split
  next waits => cases k.waits w _ waits
  next => rfl

/-- A new worker changes no worker, as it has done nothing yet. -/
lemma worker_addWorker (s : World) : s.addWorker.2.worker = s.worker := by
  show (s.workers.push default).get = s.workers.get
  rw [Store.get_push, ← Store.get_size, Function.update_eq_self]

/-- A worker that goes on keeps the system calm. -/
lemma wake (k : s.Calm) : (s.wake w).1.Calm := by
  unfold World.wake
  split
  next t id resume goal _ waits =>
    split
    next =>
      refine k.leave resume ?_
      have lock := k.waits w _ waits
      cases goal with
      | resume | countLock => rfl
      | _ => cases lock
    next => exact k
  next waits => cases k.waits w _ waits
  next => exact k

/-- Every move of a script keeps the system calm. -/
lemma move (k : s.Calm) (marked : s.machine.WellMarked) {x : Move}
    (scripted : x.isScripted = true) : (s.move x).1.Calm := by
  cases x with
  | act w a =>
    cases wait : (s.worker w).wait with
    | some x =>
      rw [move_of_waits wait]
      exact k
    | none =>
      rw [move_act wait]
      cases ht : (s.worker w).thread with
      | some t =>
        rw [begin_attached ht]
        exact k.act marked scripted
      | none =>
        rcases begin_detached ht a with eq | ⟨-, -, eq⟩ | ⟨rfl, -, -⟩ | ⟨rfl, -, -⟩
        · rw [eq]
          exact k
        · rw [eq]
          exact k.attach
        all_goals cases scripted
  | wake w => exact k.wake
  | grant w =>
    show (s.grant w).1.Calm
    rw [k.grant_eq]
    exact k
  | reach w =>
    show (s.reach w).1.Calm
    rw [k.reach_eq]
    exact k
  | addWorker =>
    have same := worker_addWorker s
    exact ⟨k.unguarded, k.unrequested, fun w => same ▸ k.regions w, fun w => same ▸ k.unscoped w,
      fun w => same ▸ k.waits w⟩
  | addRecord w => exact k.machine k.unguarded

end Calm

end World

end ObjectLocks
