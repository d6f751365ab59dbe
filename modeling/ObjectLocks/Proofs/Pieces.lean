import Mathlib.Logic.Relation
import ObjectLocks.Proofs.Moves

/-!
# What a move is made of

A move changes the system piece by piece: it carries out operations of the machine, and it changes
the worker whose move it is and the safepoint. So what every operation of the machine respects is
respected by every move, and a worker is left as it is by the moves of the others.
-/

namespace ObjectLocks

open Relation (ReflTransGen)

/-- A change next to the locks: of the threads, of who is attached or of the log. -/
structure Machine.Aside (m n : Machine) : Prop where
  options : n.options = m.options
  heap : n.heap = m.heap
  records : n.records = m.records
  monitors : n.monitors = m.monitors
  listed : n.inlineMonitors = m.inlineMonitors
  table : n.table = m.table

namespace Machine.Aside

variable {k m n : Machine}

/-- Two changes next to the locks are one. -/
lemma trans (h : k.Aside m) (h' : m.Aside n) : k.Aside n :=
  ⟨h'.options.trans h.options, h'.heap.trans h.heap, h'.records.trans h.records,
    h'.monitors.trans h.monitors, h'.listed.trans h.listed, h'.table.trans h.table⟩

/-- A change next to the locks leaves all headers alone. -/
lemma mark (h : m.Aside n) : n.mark = m.mark := by
  funext p
  exact congrArg (fun heap => (heap.get p).mark) h.heap

/-- A change next to the locks leaves all monitors alone. -/
lemma monitor (h : m.Aside n) : n.monitor = m.monitor := congrArg Store.get h.monitors

end Machine.Aside

/-- One operation of a machine, however it ends, or a change next to the locks. A monitor is used
past its object only if it may be. -/
inductive Machine.Works (may : Machine → MonitorId → Prop) (m : Machine) : Machine → Prop where
  | aside {n} : m.Aside n → Works may m n
  | enter (t o r) : Works may m (Locking.enter m t o r).machine
  | quickEnter (t o r) : Works may m (Locking.quickEnter m t o r).machine
  | exit (t o r) : Works may m (Locking.exit m t o r).machine
  | inflate (t o cause) : Works may m (Locking.inflate m t o cause).machine
  | identityHash (t o) : Works may m (m.identityHash t o).machine
  | enterMonitor (t) {id} : may m id → Works may m (m.enterMonitor t id).machine
  | tryEnterMonitor (t) {id} : may m id → Works may m (m.tryEnterMonitor t id).machine
  | exitMonitor (t) {id} : may m id → Works may m (m.exitMonitor t id).machine
  | claimMonitor (t n) {id} : may m id → Works may m (m.claimMonitor t id n).machine
  | monitorHash (t) {id} : may m id → Works may m (m.monitorHash t id).2
  | modifyObject (o) {f : Object → Object} :
    (∀ x, (f x).mark = x.mark) →
    Works may m (m.modifyObject o f)
  | allocate (label c) : Works may m (m.allocate label c)
  | addRecord (w) : Works may m (m.addRecord w).2

namespace Machine

variable {may : Machine → MonitorId → Prop} {m n : Machine} {t : ThreadId} {o : ObjectId}
  {r : RecordId}

/-- A change of a thread is one next to the locks. -/
lemma works_modifyThread (m : Machine) (t : ThreadId) (f : Thread → Thread) :
    m.Works may (m.modifyThread t f) := .aside ⟨rfl, rfl, rfl, rfl, rfl, rfl⟩

/-- The check for a no-safepoint region changes nothing. -/
lemma checkSafepoint_machine (m : Machine) (t : ThreadId) : (m.checkSafepoint t).machine = m := by
  unfold checkSafepoint
  split <;> rfl

/-- An enter is made of the warning, the operation and the bookkeeping. -/
lemma enter_works (m : Machine) (t : ThreadId) (o : ObjectId) (r : RecordId) :
    ReflTransGen (Works may) m (m.enter t o r).machine := by
  have warned : m.Works may (m.warnValueBased t o) := by
    unfold warnValueBased
    split <;> exact .aside ⟨rfl, rfl, rfl, rfl, rfl, rfl⟩
  have entered := ReflTransGen.single warned |>.tail (.enter t o r)
  unfold enter checkSafepoint
  split
  next =>
    simp only [Outcome.bind]
    cases eq : Locking.enter (m.warnValueBased t o) t o r with
    | ok entry n =>
      rw [eq] at entered
      dsimp only [Outcome.machine] at entered ⊢
      split
      · exact entered.tail (works_modifyThread ..)
      · exact entered
    | fault f n =>
      rw [eq] at entered
      exact entered
  next => exact .refl

/-- A quick enter is made of the warning, the operation and the bookkeeping. -/
lemma quickEnter_works (m : Machine) (t : ThreadId) (x : Option ObjectId) (r : RecordId) :
    ReflTransGen (Works may) m (m.quickEnter t x r).machine := by
  unfold quickEnter
  split
  next => exact .refl
  next =>
    split
    next => exact .refl
    next o =>
      split
      next => exact .refl
      next =>
        have entered : ReflTransGen (Works may) m _ := .single (.quickEnter t o r)
        match eq : Locking.quickEnter m t o r with
        | .ok entered' n =>
          rw [eq] at entered
          dsimp only [Outcome.bind, Outcome.machine] at entered ⊢
          split
          · exact entered.tail (works_modifyThread ..)
          · exact entered
        | .fault f n =>
          rw [eq] at entered
          exact entered

/-- An exit is made of the bookkeeping and the operation. -/
lemma exit_works (m : Machine) (t : ThreadId) (o : ObjectId) (r : RecordId) :
    ReflTransGen (Works may) m (m.exit t o r).machine :=
  (ReflTransGen.single (works_modifyThread m t _)).tail (.exit t o r)

/-- The update of a slot is one operation. -/
lemma updateSlot_works (m : Machine) (o : ObjectId) (i : Nat) (f : UInt64 → UInt64) :
    ReflTransGen (Works may) m (m.updateSlot o i f).machine := by
  have same := World.machine_loadSlot m o i
  unfold updateSlot
  match eq : m.loadSlot o i with
  | .ok v n =>
    rw [eq] at same
    obtain rfl : n = m := same
    exact .single (.modifyObject o fun _ => rfl)
  | .fault f n =>
    rw [eq] at same
    obtain rfl : n = m := same
    exact .refl

end Machine

/-- The monitor that an action uses past the object whose lock it is, if any. -/
def Action.monitor? : Action → Option MonitorId
  | enterMonitor id | tryEnterMonitor id | exitMonitor id | monitorHash id
  | claimMonitor id _ => some id
  | _ => none

/-- The worker that a move changes, if any. -/
def Move.worker? : Move → Option WorkerId
  | act w _ | wake w | grant w | reach w => some w
  | addWorker | addRecord _ => none

namespace World

/-- A change of one part of the system, if of a worker then of that one. -/
inductive Piece (may : Machine → MonitorId → Prop) (x : Option WorkerId) (s : World) :
    World → Prop where
  | machine {n} : s.machine.Works may n → Piece may x s { s with machine := n }
  | worker {w} (f) : x = some w → Piece may x s (s.modifyWorker w f)
  | safepoint (q) : Piece may x s { s with safepoint := q }
  | addWorker : Piece may x s s.addWorker.2

/-- Changes one after the other. -/
abbrev Pieces (may : Machine → MonitorId → Prop) (x : Option WorkerId) : World → World → Prop :=
  ReflTransGen (Piece may x)

variable {may : Machine → MonitorId → Prop} {x : Option WorkerId} {s s' : World} {w : WorkerId}
  {t : ThreadId}

/-- Operations of the machine are pieces of a move. -/
lemma pieces_machine {n : Machine} (works : ReflTransGen (Machine.Works may) s.machine n) :
    Pieces may x s { s with machine := n } := by
  induction works with
  | refl => exact .refl
  | tail _ c ih => exact ih.tail (.machine c)

/-- Setting the state of a thread is a piece of a move. -/
lemma pieces_setState (t : ThreadId) (y : ThreadState) : Pieces may x s (s.setState t y) :=
  pieces_machine (.single (Machine.works_modifyThread ..))

/-- An operation and what follows it are made of pieces. -/
lemma operate_pieces {α : Type} {operation : Machine → Outcome α}
    {next : World → α → World × Progress}
    (works : ReflTransGen (Machine.Works may) s.machine (operation s.machine).machine)
    (go : ∀ s' a, Pieces may x s' (next s' a).1) : Pieces may x s (s.operate operation next).1 := by
  cases eq : operation s.machine with
  | ok a n =>
    rw [eq] at works
    rw [operate_ok eq]
    exact (pieces_machine works).trans (go _ a)
  | fault f n =>
    rw [eq] at works
    rw [operate_fault eq]
    exact pieces_machine works

/-- An operation that does not wait is made of pieces. -/
lemma conclude_pieces {α : Type} {answer : α → Answer} {operation : Machine → Outcome α}
    (works : ReflTransGen (Machine.Works may) s.machine (operation s.machine).machine) :
    Pieces may x s (s.conclude answer operation).1 := operate_pieces works fun _ _ => .refl

/-- What follows the check for a no-safepoint region is made of pieces. -/
lemma checked_pieces {next : World → Unit → World × Progress}
    (go : ∀ s' a, Pieces may x s' (next s' a).1) :
    Pieces may x s (s.operate (·.checkSafepoint t) next).1 :=
  operate_pieces (by rw [Machine.checkSafepoint_machine]) go

section Worker

variable (own : x = some w)
include own

/-- A change of its own worker is a piece of a move. -/
lemma pieces_modifyWorker {f : Worker → Worker} (before : Pieces may x s s') :
    Pieces may x s (s'.modifyWorker w f) := before.tail (.worker f own)

/-- Beginning or ceasing to wait is a piece of a move. -/
lemma pieces_setWait (y : Option Wait) : Pieces may x s (s.setWait w y) := .single (.worker _ own)

/-- Opening a region is a piece of a move. -/
lemma pieces_openRegion (y : Region) : Pieces may x s (s.openRegion w y) := .single (.worker _ own)

/-- Closing a region is a piece of a move. -/
lemma pieces_closeRegion : Pieces may x s (s.closeRegion w) := .single (.worker _ own)

/-- The request of a safepoint is made of pieces. -/
lemma request_pieces : Pieces may x s (s.request w).1 := by
  unfold request
  split
  next => exact .refl
  next => exact (ReflTransGen.single (.safepoint _)).trans (pieces_setWait own _)

/-- What a thread has left to do after a wait is made of pieces. -/
lemma finish_pieces (t : ThreadId) (goal : Goal) : Pieces may x s (s.finish w t goal).1 := by
  cases goal with
  | attach _ | resume => exact .refl
  | allocate _ _ => exact pieces_machine (.single (.allocate ..))
  | countLock => exact pieces_machine (.single (Machine.works_modifyThread ..))
  | synchronized _ _ =>
    exact (pieces_machine (.single (Machine.works_modifyThread ..))).trans
      (pieces_openRegion own _)
  | safepoint => exact request_pieces own

/-- Leaving a safe state is made of pieces. -/
lemma leave_pieces (t : ThreadId) (resume : ThreadState) (goal : Goal) :
    Pieces may x s (s.leave w t resume goal).1 := by
  unfold leave
  split
  next => exact (pieces_setState ..).trans (pieces_setWait own _)
  next =>
    exact ((pieces_setState ..).trans (pieces_setWait own _)).trans (finish_pieces own t goal)

/-- An enter and what follows it are made of pieces. -/
lemma enter_pieces {operation : Machine → Outcome Entry} {goal : Goal}
    {next : World → World × Progress}
    (works : ReflTransGen (Machine.Works may) s.machine (operation s.machine).machine)
    (go : ∀ s', Pieces may x s' (next s').1) :
    Pieces may x s (s.enter w operation goal next).1 := by
  refine operate_pieces works fun s' entry => ?_
  cases entry with
  | entered => exact go s'
  | queued _ _ => exact pieces_setWait own _

/-- An enter that ends its action is made of pieces. -/
lemma concludeEnter_pieces {operation : Machine → Outcome Entry} {goal : Goal}
    (works : ReflTransGen (Machine.Works may) s.machine (operation s.machine).machine) :
    Pieces may x s (s.concludeEnter w goal operation).1 := enter_pieces own works fun _ => .refl

/-- A poll is made of pieces. -/
lemma poll_pieces (t : ThreadId) (goal : Goal) : Pieces may x s (s.poll w t goal).1 :=
  checked_pieces fun _ _ => leave_pieces own ..

/-- The beginning of a native or blocked region is made of pieces. -/
lemma beginRegion_pieces (t : ThreadId) (inside : ThreadState) (region : ThreadState → Region) :
    Pieces may x s (s.beginRegion w t inside region).1 :=
  checked_pieces fun _ _ => (pieces_setState ..).trans (pieces_openRegion own _)

/-- The beginning of a synchronized region is made of pieces. -/
lemma beginSynchronized_pieces (t : ThreadId) (o : ObjectId) :
    Pieces may x s (s.beginSynchronized w t o).1 := by
  rw [beginSynchronized_eq]
  refine (pieces_machine (.single (.addRecord w))).trans
    (operate_pieces (Machine.quickEnter_works ..) fun s' entered => ?_)
  unfold openSynchronized
  dsimp only
  split
  · exact pieces_openRegion own _
  · exact enter_pieces own (Machine.enter_works ..) fun _ => pieces_openRegion own _

/-- The end of a synchronized region is made of pieces. -/
lemma endSynchronized_pieces (t : ThreadId) (result : Progress) :
    Pieces may x s (s.endSynchronized w t result).1 := by
  unfold endSynchronized
  split
  next =>
    exact (pieces_closeRegion own).trans (operate_pieces (Machine.exit_works ..) fun _ _ => .refl)
  next => exact .refl

/-- The end of a native or blocked region is made of pieces. -/
lemma endRegion_pieces {a : Action} (ends : a = .endNative ∨ a = .endBlocked) :
    Pieces may x s (s.act w t a).1 := by
  obtain eq | ⟨_, _, resume, -, -, eq⟩ := act_endRegion (s := s) (w := w) (t := t) ends
  all_goals rw [eq]
  exact (pieces_closeRegion own).trans (leave_pieces own ..)

/-- The beginning of a safepoint is made of pieces. -/
lemma beginSafepoint_pieces : Pieces may x s (s.beginSafepoint w).1 := by
  unfold beginSafepoint
  dsimp only
  split
  next => exact (ReflTransGen.single (.safepoint _)).trans (pieces_setWait own _)
  next =>
    exact checked_pieces fun _ _ =>
      ((pieces_setState ..).trans (.single (.safepoint _))).trans (pieces_setWait own _)

/-- The end of a safepoint is made of pieces. -/
lemma endSafepoint_pieces : Pieces may x s (s.endSafepoint w).1 := by
  unfold endSafepoint
  dsimp only
  split
  next => exact .single (.safepoint _)
  next b _ =>
    exact pieces_modifyWorker own ((ReflTransGen.single
      (.safepoint ⟨false, b, none, s.safepoint.queue⟩)).tail
      (.machine (.aside ⟨rfl, rfl, rfl, rfl, rfl, rfl⟩)))

/-- Attaching is made of pieces. -/
lemma attach_pieces : Pieces may x s (s.attach w).1 := by
  unfold attach
  dsimp only
  split
  next => exact .single (.machine (.aside ⟨rfl, rfl, rfl, rfl, rfl, rfl⟩))
  next =>
    refine ReflTransGen.trans ?_ (leave_pieces own ..)
    exact pieces_modifyWorker own (.single (.machine (.aside ⟨rfl, rfl, rfl, rfl, rfl, rfl⟩)))

/-- Detaching is made of pieces. -/
lemma detach_pieces (t : ThreadId) : Pieces may x s (s.detach w t).1 :=
  pieces_modifyWorker own (.single (.machine (.aside ⟨rfl, rfl, rfl, rfl, rfl, rfl⟩)))

/-- Every action of a thread is made of pieces, if it uses a monitor past its object only where it
may. -/
lemma act_pieces (t : ThreadId) {a : Action}
    (used : ∀ id, a.monitor? = some id → may s.machine id) :
    Pieces may x s (s.act w t a).1 := by
  have counted {f : Thread → Thread} :
      Pieces may x s { s with machine := s.machine.modifyThread t f } :=
    pieces_machine (.single (Machine.works_modifyThread ..))
  cases a with
  | attach => exact attach_pieces own
  | detach =>
    rw [act_detach]
    split
    · exact .refl
    · exact detach_pieces own t
  | allocate _ _ | poll => exact poll_pieces own ..
  | enter o r raw =>
    cases raw with
    | true => exact concludeEnter_pieces own (.single (.enter ..))
    | false => exact concludeEnter_pieces own (Machine.enter_works ..)
  | quickEnter o r raw =>
    cases o with
    | none => cases raw <;> exact conclude_pieces (Machine.quickEnter_works ..)
    | some o =>
      cases raw with
      | true => exact conclude_pieces (.single (.quickEnter ..))
      | false => exact conclude_pieces (Machine.quickEnter_works ..)
  | exit o r raw =>
    cases raw with
    | true => exact conclude_pieces (.single (.exit ..))
    | false => exact conclude_pieces (Machine.exit_works ..)
  | identityHash o => exact conclude_pieces (.single (.identityHash ..))
  | inflate o cause => exact conclude_pieces (.single (.inflate ..))
  | checkSafepoint => exact checked_pieces fun _ _ => .refl
  | beginGuard => exact counted
  | endGuard =>
    rw [act_endGuard]
    split
    · exact .refl
    · exact counted
  | beginNative | beginBlocked => exact beginRegion_pieces own ..
  | endNative => exact endRegion_pieces own (.inl rfl)
  | endBlocked => exact endRegion_pieces own (.inr rfl)
  | beginSynchronized o => exact beginSynchronized_pieces own t o
  | endSynchronized | failSynchronized => exact endSynchronized_pieces own t _
  | beginSafepoint =>
    rw [act_beginSafepoint]
    split
    · exact .refl
    · exact beginSafepoint_pieces own
  | endSafepoint =>
    rw [act_endSafepoint]
    split
    · exact endSafepoint_pieces own
    · exact .refl
  | enterMonitor id => exact concludeEnter_pieces own (.single (.enterMonitor t (used id rfl)))
  | tryEnterMonitor id => exact conclude_pieces (.single (.tryEnterMonitor t (used id rfl)))
  | exitMonitor id => exact conclude_pieces (.single (.exitMonitor t (used id rfl)))
  | monitorHash id => exact pieces_machine (.single (.monitorHash t (used id rfl)))
  | claimMonitor id n => exact conclude_pieces (.single (.claimMonitor t n (used id rfl)))
  | store o i v | add o i v => exact conclude_pieces (Machine.updateSlot_works ..)
  | load o i => exact conclude_pieces (by rw [machine_loadSlot])

/-- Every action of a worker is made of pieces, whether it has a thread or not. -/
lemma begin_pieces {a : Action} (used : ∀ id, a.monitor? = some id → may s.machine id) :
    Pieces may x s (s.begin w a).1 := by
  cases ht : (s.worker w).thread with
  | some t =>
    rw [begin_attached ht]
    exact act_pieces own t used
  | none =>
    rcases begin_detached ht a with eq | ⟨-, -, eq⟩ | ⟨-, -, eq⟩ | ⟨-, -, eq⟩
    all_goals rw [eq]
    · exact attach_pieces own
    · exact beginSafepoint_pieces own
    · exact endSafepoint_pieces own

/-- Waking a worker is made of pieces. -/
lemma wake_pieces : Pieces may x s (s.wake w).1 := by
  unfold wake
  split
  next =>
    split
    · exact leave_pieces own ..
    · exact .refl
  next =>
    split
    · exact .refl
    · exact leave_pieces own ..
  next => exact .refl

/-- The turn to request a safepoint is made of pieces. -/
lemma grant_pieces : Pieces may x s (s.grant w).1 := by
  unfold grant
  split
  next =>
    split
    next =>
      dsimp only
      split
      · exact .trans (.single (.safepoint _)) (leave_pieces own ..)
      · exact .trans (.single (.safepoint _)) (request_pieces own)
    next => exact .refl
  next => exact .refl

/-- The end of a safepoint's preparation is made of pieces. -/
lemma reach_pieces : Pieces may x s (s.reach w).1 := by
  unfold reach
  split
  next =>
    split
    next =>
      exact pieces_modifyWorker own
        ((pieces_setWait own none).tail (.machine (.aside ⟨rfl, rfl, rfl, rfl, rfl, rfl⟩)))
    next => exact .refl
  next => exact .refl

end Worker

/-- Every move is made of operations of the machine and of changes of its own worker. -/
theorem move_pieces {x : Move}
    (used : ∀ w a, x = .act w a → ∀ id, a.monitor? = some id → may s.machine id) :
    Pieces may x.worker? s (s.move x).1 := by
  cases x with
  | act w a =>
    unfold move
    dsimp only
    split
    · exact .refl
    · exact begin_pieces rfl (used w a rfl)
  | wake w => exact wake_pieces rfl
  | grant w => exact grant_pieces rfl
  | reach w => exact reach_pieces rfl
  | addWorker => exact .single .addWorker
  | addRecord w => exact .single (.machine (.addRecord w))

/-- The pieces of one worker leave the others as they are. -/
lemma worker_pieces (pieces : Pieces may x s s') (other : x ≠ some w) :
    s'.worker w = s.worker w := by
  induction pieces with
  | refl => rfl
  | tail _ c ih =>
    refine Eq.trans ?_ ih
    cases c with
    | machine _ | safepoint _ => rfl
    | worker f own =>
      rw [worker_modifyWorker, if_neg]
      rintro rfl
      exact other own
    | addWorker =>
      -- The number of the new worker had the same value before.
      show (Store.push _ default).get w = _
      rw [Store.get_push, ← Store.get_size, Function.update_eq_self]
      rfl

/-- A worker is left as it is by the moves of the others. -/
theorem worker_move {x : Move} (other : x.worker? ≠ some w) :
    (s.move x).1.worker w = s.worker w := by
  have pieces : Pieces (fun _ _ => True) x.worker? s (s.move x).1 :=
    move_pieces fun _ _ _ _ _ => trivial
  exact worker_pieces pieces other

/-- What relates the machines before and after every operation does so for every move. -/
theorem machine_move {R : Machine → Machine → Prop} (refl : ∀ m, R m m)
    (trans : ∀ {l m n}, R l m → R m n → R l n)
    (works : ∀ {m n : Machine}, m.Works may n → R m n) {x : Move}
    (used : ∀ w a, x = .act w a → ∀ id, a.monitor? = some id → may s.machine id) :
    R s.machine (s.move x).1.machine := by
  suffices all : ∀ s', Pieces may x.worker? s s' → R s.machine s'.machine from
    all _ (move_pieces used)
  intro s' pieces
  induction pieces with
  | refl => exact refl _
  | tail _ c ih =>
    cases c with
    | machine c => exact trans ih (works c)
    | worker _ _ | safepoint _ | addWorker => exact ih

end World

end ObjectLocks
