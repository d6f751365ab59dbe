import ObjectLocks.Barrier
import ObjectLocks.Locking

/-!
# Worlds

A world is a running system: a machine together with the workers that run on it. A worker may
attach, and then acts as a thread. One worker acts at a time; its operation ends at once or leaves
it waiting for one of four things: for a monitor, at the barrier, for its turn to request a
safepoint, or for the other threads to reach the safepoint that it has requested. A wait ends by
what other workers do.

A safepoint is requested by arming the barrier. Threads that leave a safe state from then on are
parked at the barrier until the requester ends its scope.
-/

namespace ObjectLocks

/-- Where a worker's code has entered and not yet left. -/
inductive Region where
  /-- Native code; the thread was in state `resume` before. -/
  | native (resume : ThreadState)
  /-- A wait outside of the system; the thread was in state `resume` before. -/
  | blocked (resume : ThreadState)
  /-- The body of a synchronized region on `o`, entered with the record `r`. -/
  | synchronized (o : ObjectId) (r : RecordId)
deriving DecidableEq, Repr

/-- What is left of an operation once its thread may run again. -/
inductive Goal where
  | attach (t : ThreadId)
  | resume
  | allocate (label : String) (c : Class)
  /-- A lock has been entered and is still to be counted. -/
  | countLock
  | synchronized (o : ObjectId) (r : RecordId)
  | safepoint
deriving DecidableEq, Repr

/-- What a worker waits for. -/
inductive Wait where
  /-- Its thread is in the queue of a monitor. -/
  | monitor (id : MonitorId) (resume : ThreadState) (goal : Goal)
  /-- Its thread is parked at the barrier. -/
  | barrier (resume : ThreadState) (goal : Goal)
  /-- Another worker requests a safepoint or holds one. The thread, if the worker is attached, was
  in state `resume`. -/
  | turn (resume : ThreadState)
  /-- It has requested a safepoint, and some other thread is not in a safe state. -/
  | others
deriving DecidableEq, Repr

/-- A worker, and the thread that it is attached as. -/
structure Worker where
  thread : Option ThreadId
  wait : Option Wait
  /-- Its open regions, the innermost first. -/
  regions : List Region
  /-- Whether it holds a safepoint. -/
  inScope : Bool
deriving DecidableEq, Repr

instance : Inhabited Worker := ⟨⟨none, none, [], false⟩⟩

/-- The safepoint that is requested or held, and who waits for one. -/
structure Safepoint where
  requested : Bool
  barrier : Barrier
  /-- The worker whose turn it is. -/
  holder : Option WorkerId
  /-- The workers that wait for their turn. -/
  queue : List WorkerId
deriving DecidableEq, Repr, Inhabited

/-- A running system. -/
structure World where
  machine : Machine
  workers : Store Worker
  safepoint : Safepoint
deriving Inhabited

/-- What an operation answers. -/
inductive Answer where
  | done
  | begun
  | flag (b : Bool)
  | thread (t : ThreadId)
  | hash (h : UInt32)
  | slot (v : UInt64)
  | monitor (id : MonitorId)
  | states (l : List (ThreadId × ThreadState))
deriving DecidableEq, Repr

/-- How an operation of a worker stands after it was begun. -/
inductive Progress where
  | answered (a : Answer)
  | failed (f : Fault)
  | waiting
  /-- The worker cannot begin the operation where it is. -/
  | refused
deriving DecidableEq, Repr

/-- An operation of a worker. -/
inductive Action where
  | attach
  | detach
  | allocate (label : String) (c : Class)
  /-- Enters an object; `raw` skips the bookkeeping, here and below, where there is an object. -/
  | enter (o : ObjectId) (r : RecordId) (raw : Bool)
  | quickEnter (o : Option ObjectId) (r : RecordId) (raw : Bool)
  | exit (o : ObjectId) (r : RecordId) (raw : Bool)
  | identityHash (o : ObjectId)
  | inflate (o : ObjectId) (cause : InflationCause)
  | poll
  | checkSafepoint
  | beginGuard
  | endGuard
  | beginNative
  | endNative
  | beginBlocked
  | endBlocked
  | beginSynchronized (o : ObjectId)
  | endSynchronized
  /-- The body of the synchronized region fails. -/
  | failSynchronized
  | beginSafepoint
  | endSafepoint
  | enterMonitor (id : MonitorId)
  | tryEnterMonitor (id : MonitorId)
  | exitMonitor (id : MonitorId)
  | monitorHash (id : MonitorId)
  | claimMonitor (id : MonitorId) (recursions : UInt64)
  | store (o : ObjectId) (i : Nat) (v : UInt64)
  | load (o : ObjectId) (i : Nat)
  /-- Adds to a slot and answers what was in it. -/
  | add (o : ObjectId) (i : Nat) (v : UInt64)
deriving DecidableEq, Repr

namespace World

/-- The world before anything happened. Its log tells the options. -/
def new (options : Options) : World :=
  ⟨(Machine.new options).note (.chosen options.mode options.useTable), .empty,
    ⟨false, .released, none, []⟩⟩

/-- A new world, if its options are valid. -/
def build (options : Options) : Except OptionsError World := do
  options.validate
  return new options

/-- The worker with a number. -/
def worker (s : World) (w : WorkerId) : Worker := s.workers.get w

/-- Changes a worker. -/
def modifyWorker (s : World) (w : WorkerId) (f : Worker → Worker) : World :=
  { s with workers := s.workers.modify w f }

/-- Makes a worker wait, or wait no more. -/
def setWait (s : World) (w : WorkerId) (x : Option Wait) : World :=
  s.modifyWorker w fun y => { y with wait := x }

/-- A worker enters a region. -/
def openRegion (s : World) (w : WorkerId) (x : Region) : World :=
  s.modifyWorker w fun y => { y with regions := x :: y.regions }

/-- A worker leaves its innermost region. -/
def closeRegion (s : World) (w : WorkerId) : World :=
  s.modifyWorker w fun y => { y with regions := y.regions.tail }

/-- A new worker, which is not attached. -/
def addWorker (s : World) : WorkerId × World :=
  (s.workers.size, { s with workers := s.workers.push default })

/-- A new lock record of a worker. -/
def addRecord (s : World) (w : WorkerId) : RecordId × World :=
  let (r, m) := s.machine.addRecord w
  (r, { s with machine := m })

/-- Logs a notice. -/
def note (s : World) (n : Notice) : World := { s with machine := s.machine.note n }

/-- Replaces the state of a thread. -/
def setState (s : World) (t : ThreadId) (x : ThreadState) : World :=
  { s with machine := s.machine.setState t x }

/-- The state of a thread. -/
def stateOf (s : World) (t : ThreadId) : ThreadState := (s.machine.thread t).state

/-- The states of the attached threads. -/
def threadStates (s : World) : List (ThreadId × ThreadState) :=
  s.machine.registry.map fun t => (t, s.stateOf t)

/-- Whether every thread but that of worker `w` is in a safe state. -/
def othersSafe (s : World) (w : WorkerId) : Bool :=
  s.machine.registry.all fun t => some t == (s.worker w).thread || (s.stateOf t).isSafe

/-- Carries out an operation of the machine and goes on with its value. A fault ends it. -/
def operate {α : Type} (s : World) (operation : Machine → Outcome α)
    (next : World → α → World × Progress) : World × Progress :=
  match s with
  | ⟨machine, workers, safepoint⟩ =>
    match operation machine with
    | .ok a m => next ⟨m, workers, safepoint⟩ a
    | .fault f m => (⟨m, workers, safepoint⟩, .failed f)

/-- Carries out an operation of the machine and answers its value. -/
def conclude {α : Type} (s : World) (answer : α → Answer) (operation : Machine → Outcome α) :
    World × Progress :=
  s.operate operation fun s a => (s, .answered (answer a))

/-- The barrier is armed, and the other threads are waited for. -/
def request (s : World) (w : WorkerId) : World × Progress :=
  match s.safepoint.barrier.arm with
  | .error f => (s, .failed f)
  | .ok b =>
    let s := { s with safepoint := { s.safepoint with requested := true, barrier := b } }
    (s.setWait w (some .others), .waiting)

/-- What is left of an operation of thread `t`, as which worker `w` is attached. -/
def finish (s : World) (w : WorkerId) (t : ThreadId) : Goal → World × Progress
  | .attach t => (s, .answered (.thread t))
  | .resume => (s, .answered .done)
  | .allocate label c => ({ s with machine := s.machine.allocate label c }, .answered .done)
  | .countLock => ({ s with machine := s.machine.modifyThread t .gain }, .answered .done)
  | .synchronized o r =>
    ({ s with machine := s.machine.modifyThread t .gain }.openRegion w (.synchronized o r),
      .answered .begun)
  | .safepoint => s.request w

/-- A thread leaves a safe state for `resume`. While a safepoint is requested it parks; otherwise it
does what is left of its operation. -/
def leave (s : World) (w : WorkerId) (t : ThreadId) (resume : ThreadState) (goal : Goal) :
    World × Progress :=
  if s.safepoint.requested then
    ((s.setState t .atSafepoint).setWait w (some (.barrier resume goal)), .waiting)
  else ((s.setState t resume).setWait w none).finish w t goal

/-- The worker goes on if its thread was handed the monitor, or if the barrier was disarmed. -/
def wake (s : World) (w : WorkerId) : World × Progress :=
  match (s.worker w).thread, (s.worker w).wait with
  | some t, some (.monitor id resume goal) =>
    if (s.machine.monitor id).isOwner t then s.leave w t resume goal else (s, .waiting)
  | some t, some (.barrier resume goal) =>
    if s.safepoint.barrier.armed then (s, .waiting) else s.leave w t resume goal
  | _, _ => (s, .waiting)

/-- The worker that has waited longest gets its turn, once there is no safepoint. -/
def grant (s : World) (w : WorkerId) : World × Progress :=
  match s.safepoint.holder, s.safepoint.queue, (s.worker w).wait with
  | none, next :: rest, some (.turn resume) =>
    if next = w then
      let s := { s with safepoint := { s.safepoint with holder := some w, queue := rest } }
      match (s.worker w).thread with
      | some t => s.leave w t resume .safepoint
      | none => s.request w
    else (s, .waiting)
  | _, _, _ => (s, .waiting)

/-- The requester of a safepoint goes on once the other threads are in safe states. -/
def reach (s : World) (w : WorkerId) : World × Progress :=
  match (s.worker w).wait with
  | some .others =>
    if s.othersSafe w then
      let s := (s.setWait w none).note .safepointReached
      (s.modifyWorker w fun y => { y with inScope := true }, .answered (.states s.threadStates))
    else (s, .waiting)
  | _ => (s, .waiting)

/-- Tries to end the wait of every worker in turn. Answers what the finished operations answer. -/
def sweep (resumed : World → WorkerId → World × Progress) (s : World) :
    List WorkerId → World × List (WorkerId × Progress)
  | [] => (s, [])
  | w :: rest =>
    let (s, p) := resumed s w
    let (s, finished) := sweep resumed s rest
    (s, if p = .waiting then finished else (w, p) :: finished)

/-- Ends every wait that is over: of parked and queued threads first, then of the next requester of
a safepoint, then of a requester that waits for other threads. -/
def settle (s : World) : World × List (WorkerId × Progress) :=
  let all := List.range s.workers.size
  let (s, woken) := sweep wake s all
  let (s, granted) := sweep grant s all
  let (s, reached) := sweep reach s all
  (s, woken ++ granted ++ reached)

/-- A worker that is not attached attaches under a new number. -/
def attach (s : World) (w : WorkerId) : World × Progress :=
  let t := s.machine.nextThread
  let m := { s.machine with nextThread := t + 1 }
  match (s.worker w).thread with
  | some current => ({ s with machine := m }, .failed (.alreadyAttached current))
  | none =>
    let m := { m with
      threads := m.threads.set t (.attached t)
      registry := m.registry ++ [t] }
    let s := { s with machine := m }.modifyWorker w fun y => { y with thread := some t }
    s.leave w t .inManaged (.attach t)

/-- Takes a thread out of the registry; the last thread moves to its place. -/
def unregister (registry : List ThreadId) (t : ThreadId) : List ThreadId :=
  match registry.getLast? with
  | some last => if t ∈ registry then registry.dropLast.replace t last else registry
  | none => []

/-- The worker is no longer a thread. Its locks stay as they are. -/
def detach (s : World) (w : WorkerId) (t : ThreadId) : World × Progress :=
  let m := s.machine.setState t .terminated
  let m := { m with registry := unregister m.registry t }
  ({ s with machine := m }.modifyWorker w fun y => { y with thread := none }, .answered .done)

/-- Parks at the barrier if a safepoint is requested, and does what is left of the operation. -/
def poll (s : World) (w : WorkerId) (t : ThreadId) (goal : Goal) : World × Progress :=
  s.operate (·.checkSafepoint t) fun s _ => s.leave w t (s.stateOf t) goal

/-- Carries out an enter and goes on with `next` if it is complete. If the thread has to wait for
the monitor, `goal` is left to do once it has it. -/
def enter (s : World) (w : WorkerId) (operation : Machine → Outcome Entry) (goal : Goal)
    (next : World → World × Progress) : World × Progress :=
  s.operate operation fun s entry =>
    match entry with
    | .entered => next s
    | .queued id resume => (s.setWait w (some (.monitor id resume goal)), .waiting)

/-- Carries out an enter that is all of its operation. -/
def concludeEnter (s : World) (w : WorkerId) (goal : Goal) (operation : Machine → Outcome Entry) :
    World × Progress :=
  s.enter w operation goal fun s => (s, .answered .done)

/-- A thread enters a region in which it is in state `inside`. -/
def beginRegion (s : World) (w : WorkerId) (t : ThreadId) (inside : ThreadState)
    (region : ThreadState → Region) : World × Progress :=
  s.operate (·.checkSafepoint t) fun s _ =>
    ((s.setState t inside).openRegion w (region (s.stateOf t)), .answered .begun)

/-- A thread enters an object for the length of a region, with a record of its own. -/
def beginSynchronized (s : World) (w : WorkerId) (t : ThreadId) (o : ObjectId) :
    World × Progress :=
  let (r, s) := s.addRecord w
  let inside (s : World) : World × Progress :=
    (s.openRegion w (.synchronized o r), .answered .begun)
  s.operate (·.quickEnter t (some o) r) fun s entered =>
    if entered then inside s else s.enter w (·.enter t o r) (.synchronized o r) inside

/-- Ends the innermost region, which has to be a synchronized one, by the exit of its object. -/
def endSynchronized (s : World) (w : WorkerId) (t : ThreadId) (result : Progress) :
    World × Progress :=
  match (s.worker w).regions with
  | .synchronized o r :: _ =>
    (s.closeRegion w).operate (·.exit t o r) fun s _ => (s, result)
  | _ => (s, .refused)

/-- Waits for the turn to request a safepoint. -/
def beginSafepoint (s : World) (w : WorkerId) : World × Progress :=
  let enqueue (s : World) (resume : ThreadState) : World × Progress :=
    ({ s with safepoint := { s.safepoint with queue := s.safepoint.queue ++ [w] } }.setWait w
      (some (.turn resume)), .waiting)
  match (s.worker w).thread with
  | none => enqueue s .new
  | some t =>
    s.operate (·.checkSafepoint t) fun s _ => enqueue (s.setState t .blocked) (s.stateOf t)

/-- Ends the safepoint that the worker holds. -/
def endSafepoint (s : World) (w : WorkerId) : World × Progress :=
  let s := { s with safepoint := { s.safepoint with requested := false } }
  match s.safepoint.barrier.disarm with
  | .error f => (s, .failed f)
  | .ok b =>
    let s := { s with safepoint := { s.safepoint with barrier := b, holder := none } }
    ((s.note .safepointReleased).modifyWorker w fun y => { y with inScope := false },
      .answered .done)

/-- Begins an operation of the thread `t`, as which worker `w` is attached. A region or a safepoint
that has not been begun cannot be ended, and a worker detaches when all of its own have been. A
worker that holds a safepoint is refused a second one, which would wait for ever for the first one
to end. -/
def act (s : World) (w : WorkerId) (t : ThreadId) : Action → World × Progress
  | .attach => s.attach w
  | .detach =>
    if (s.worker w).regions ≠ [] ∨ (s.worker w).inScope then (s, .refused) else s.detach w t
  | .allocate label c => s.poll w t (.allocate label c)
  | .enter o r true => s.concludeEnter w .resume fun m => Locking.enter m t o r
  | .enter o r false => s.concludeEnter w .countLock (·.enter t o r)
  | .quickEnter (some o) r true => s.conclude .flag fun m => Locking.quickEnter m t o r
  | .quickEnter o r _ => s.conclude .flag (·.quickEnter t o r)
  | .exit o r true => s.conclude (fun _ => .done) fun m => Locking.exit m t o r
  | .exit o r false => s.conclude (fun _ => .done) (·.exit t o r)
  | .identityHash o => s.conclude .hash (·.identityHash t o)
  | .inflate o cause => s.conclude .monitor fun m => Locking.inflate m t o cause
  | .poll => s.poll w t .resume
  | .checkSafepoint => s.conclude (fun _ => .done) (·.checkSafepoint t)
  | .beginGuard =>
    ({ s with machine := s.machine.modifyThread t fun x => { x with guards := x.guards + 1 } },
      .answered .done)
  | .endGuard =>
    if (s.machine.thread t).guards = 0 then (s, .refused)
    else
      ({ s with machine := s.machine.modifyThread t fun x => { x with guards := x.guards - 1 } },
        .answered .done)
  | .beginNative => s.beginRegion w t .inNative .native
  | .beginBlocked => s.beginRegion w t .blocked .blocked
  | .endNative =>
    match (s.worker w).regions with
    | .native resume :: _ => (s.closeRegion w).leave w t resume .resume
    | _ => (s, .refused)
  | .endBlocked =>
    match (s.worker w).regions with
    | .blocked resume :: _ => (s.closeRegion w).leave w t resume .resume
    | _ => (s, .refused)
  | .beginSynchronized o => s.beginSynchronized w t o
  | .endSynchronized => s.endSynchronized w t (.answered .done)
  | .failSynchronized => s.endSynchronized w t (.failed .bodyFailed)
  | .beginSafepoint => if (s.worker w).inScope then (s, .refused) else s.beginSafepoint w
  | .endSafepoint => if (s.worker w).inScope then s.endSafepoint w else (s, .refused)
  | .enterMonitor id => s.concludeEnter w .resume (·.enterMonitor t id)
  | .tryEnterMonitor id => s.conclude .flag (·.tryEnterMonitor t id)
  | .exitMonitor id => s.conclude (fun _ => .done) (·.exitMonitor t id)
  | .monitorHash id =>
    let (h, m) := s.machine.monitorHash t id
    ({ s with machine := m }, .answered (.hash h))
  | .claimMonitor id recursions =>
    s.conclude (fun _ => .done) (·.claimMonitor t id recursions)
  | .store o i v => s.conclude (fun _ => .done) (·.updateSlot o i fun _ => v)
  | .load o i => s.conclude .slot (·.loadSlot o i)
  | .add o i v => s.conclude .slot fun m => m.updateSlot o i (· + v)

/-- Begins an operation of a worker that does not wait. A worker that is not attached can only
attach and stop the attached threads. While it holds a safepoint it is refused both: attaching would
park it for ever at the barrier that only it can disarm, and a second safepoint would wait for ever
for the first one to end. -/
def begin (s : World) (w : WorkerId) (a : Action) : World × Progress :=
  match (s.worker w).thread, a with
  | some t, a => s.act w t a
  | none, .attach => if (s.worker w).inScope then (s, .refused) else s.attach w
  | none, .beginSafepoint => if (s.worker w).inScope then (s, .refused) else s.beginSafepoint w
  | none, .endSafepoint => if (s.worker w).inScope then s.endSafepoint w else (s, .refused)
  | none, _ => (s, .refused)

/-- One operation of worker `w`, and then the end of every wait that is over. Answers how the
operation stands and which other operations ended. A worker that waits begins nothing. -/
def step (s : World) (w : WorkerId) (a : Action) :
    World × Progress × List (WorkerId × Progress) :=
  if (s.worker w).wait.isSome then (s, .waiting, [])
  else
    let (s, progress) := s.begin w a
    let (s, finished) := s.settle
    let own := (finished.lookup w).getD progress
    (s, own, finished.filter fun f => f.1 ≠ w)

end World

end ObjectLocks
