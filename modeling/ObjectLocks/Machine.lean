import ObjectLocks.Fault
import ObjectLocks.Heap
import ObjectLocks.LockRecord
import ObjectLocks.Store

/-!
# The locking machine

A machine holds all that locks are made of: the heap, the lock records, the monitors and the
attached threads. The operations of a thread are functions on machines. An operation ends with a
value or with a fault, and with the machine that it leaves behind in either case.

An enter can also end by waiting: the thread is then in the queue of a monitor, and the enter is
complete once the monitor has been handed to it.
-/

namespace ObjectLocks

/-- Everything that locks are made of. -/
structure Machine where
  options : Options
  heap : Store Object
  records : Store LockRecord
  /-- Every monitor ever made, whether a lock goes through it or not. -/
  monitors : Store Monitor
  /-- The monitors whose address was put into a header, the latest first. -/
  inlineMonitors : List MonitorId
  /-- The monitors of objects whose header has no room for an address. -/
  table : MonitorTable
  threads : Store Thread
  /-- The attached threads in the order in which they are looked at. -/
  registry : List ThreadId
  nextThread : ThreadId
  /-- The log, the latest line last. -/
  notices : Array Notice
deriving Inhabited

/-- How an operation of a thread ends. -/
inductive Outcome (α : Type) where
  | ok (value : α) (machine : Machine)
  | fault (cause : Fault) (machine : Machine)

namespace Outcome

variable {α β : Type}

/-- The machine that an operation leaves behind, however it ends. -/
def machine : Outcome α → Machine
  | ok _ m => m
  | fault _ m => m

/-- Goes on with the value, unless there was a fault. -/
def bind (r : Outcome α) (next : α → Machine → Outcome β) : Outcome β :=
  match r with
  | ok a m => next a m
  | fault f m => fault f m

/-- Changes the value of an operation. -/
def map (f : α → β) : Outcome α → Outcome β
  | ok a m => ok (f a) m
  | fault c m => fault c m

end Outcome

/-- How an enter without a fault ends. -/
inductive Entry where
  | entered
  /-- The thread waits for a monitor. It was in state `resume` and returns to it. -/
  | queued (id : MonitorId) (resume : ThreadState)
deriving DecidableEq, Repr

namespace Machine

/-- The machine before anything happened. -/
def new (options : Options) : Machine :=
  ⟨options, .empty, .empty, .empty, [], .empty, .empty, [], firstThread, #[]⟩

/-- The object with a number. -/
def object (m : Machine) (o : ObjectId) : Object := m.heap.get o

/-- The header of an object. -/
def mark (m : Machine) (o : ObjectId) : Mark := (m.object o).mark

/-- The lock record with a number. -/
def record (m : Machine) (r : RecordId) : LockRecord := m.records.get r

/-- The monitor with a number. -/
def monitor (m : Machine) (id : MonitorId) : Monitor := m.monitors.get id

/-- The thread with a number. -/
def thread (m : Machine) (t : ThreadId) : Thread := m.threads.get t

/-- The objects that a thread has fast-locked. -/
def lockStack (m : Machine) (t : ThreadId) : LockStack ObjectId := (m.thread t).lockStack

/-- The lock records that a thread has stack-locked objects with. -/
def lockRecords (m : Machine) (t : ThreadId) : LockStack RecordId := (m.thread t).lockRecords

/-- The object with a number, as it is shown to a programmer. -/
def shown (m : Machine) (o : ObjectId) : String := (m.object o).describe

/-- Changes an object. -/
def modifyObject (m : Machine) (o : ObjectId) (f : Object → Object) : Machine :=
  { m with heap := m.heap.modify o f }

/-- Replaces the header of an object. -/
def setMark (m : Machine) (o : ObjectId) (k : Mark) : Machine :=
  m.modifyObject o fun x => { x with mark := k }

/-- Changes a lock record. -/
def modifyRecord (m : Machine) (r : RecordId) (f : LockRecord → LockRecord) : Machine :=
  { m with records := m.records.modify r f }

/-- Caches a monitor in a lock record, or none. -/
def setCache (m : Machine) (r : RecordId) (c : Option MonitorId) : Machine :=
  m.modifyRecord r fun x => { x with cache := c }

/-- Replaces a monitor. -/
def setMonitor (m : Machine) (id : MonitorId) (x : Monitor) : Machine :=
  { m with monitors := m.monitors.set id x }

/-- Changes a thread. -/
def modifyThread (m : Machine) (t : ThreadId) (f : Thread → Thread) : Machine :=
  { m with threads := m.threads.modify t f }

/-- Replaces the state of a thread. -/
def setState (m : Machine) (t : ThreadId) (s : ThreadState) : Machine :=
  m.modifyThread t fun x => { x with state := s }

/-- Replaces the lock stack of a thread. -/
def setLockStack (m : Machine) (t : ThreadId) (s : LockStack ObjectId) : Machine :=
  m.modifyThread t fun x => { x with lockStack := s }

/-- Replaces the lock records of a thread. -/
def setLockRecords (m : Machine) (t : ThreadId) (s : LockStack RecordId) : Machine :=
  m.modifyThread t fun x => { x with lockRecords := s }

/-- Logs a notice. -/
def note (m : Machine) (n : Notice) : Machine := { m with notices := m.notices.push n }

/-- Allocates an object. Its number is the next one. -/
def allocate (m : Machine) (label : String) (c : Class) : Machine :=
  { m with heap := m.heap.push (.new label c) }

/-- A new lock record of a worker. -/
def addRecord (m : Machine) (w : WorkerId) : RecordId × Machine :=
  (m.records.size, { m with records := m.records.push (.fresh w) })

/-- A new monitor, which no object leads to yet. -/
def addMonitor (m : Machine) (x : Monitor) : MonitorId × Machine :=
  (m.monitors.size, { m with monitors := m.monitors.push x })

/-- Puts an object on the lock stack of a thread, if there is room. -/
def pushObject (m : Machine) (t : ThreadId) (o : ObjectId) : Outcome Unit :=
  match (m.lockStack t).push? o with
  | some s => .ok () (m.setLockStack t s)
  | none => .fault .lockStackOverflow m

/-- Takes every entry of an object off the lock stack of a thread. -/
def dropObject (m : Machine) (t : ThreadId) (o : ObjectId) : Machine :=
  m.setLockStack t ((m.lockStack t).remove o)

/-- Registers a lock record with a thread, if there is room. -/
def pushRecord (m : Machine) (t : ThreadId) (r : RecordId) : Outcome Unit :=
  match (m.lockRecords t).push? r with
  | some s => .ok () (m.setLockRecords t s)
  | none => .fault .lockStackOverflow m

/-- Takes a lock record out of those of a thread. -/
def dropRecord (m : Machine) (t : ThreadId) (r : RecordId) : Machine :=
  m.setLockRecords t ((m.lockRecords t).remove r)

/-- The first attached thread with an object on its lock stack. -/
def fastLocker? (m : Machine) (o : ObjectId) : Option ThreadId :=
  m.registry.find? fun t => (m.lockStack t).contains o

/-- The first attached thread with a record among its lock records. -/
def stackLocker? (m : Machine) (r : RecordId) : Option ThreadId :=
  m.registry.find? fun t => (m.lockRecords t).contains r

/-- Refuses to go on inside a no-safepoint region. -/
def checkSafepoint (m : Machine) (t : ThreadId) : Outcome Unit :=
  if (m.thread t).guards = 0 then .ok () m else .fault .noSafepointRegion m

/-- The end of an exit by a thread that does not hold the lock. -/
def illegalExit (m : Machine) (t : ThreadId) (o : ObjectId) : Outcome Unit :=
  .fault (.illegalExit t o) (m.note (.illegalExit t o))

/-- A thread enters a monitor, or starts to wait for it. -/
def enterMonitor (m : Machine) (t : ThreadId) (id : MonitorId) : Outcome Entry :=
  let x := m.monitor id
  match x.tryEnter t with
  | some x => .ok .entered (m.setMonitor id x)
  | none =>
    let m := (m.setMonitor id x.contend).note (.blocks t x.object x.owner)
    (m.checkSafepoint t).bind fun _ m =>
      let resume := (m.thread t).state
      .ok (.queued id resume) ((m.setMonitor id (x.contend.enqueue t)).setState t .blocked)

/-- A thread enters a monitor if it need not wait. -/
def tryEnterMonitor (m : Machine) (t : ThreadId) (id : MonitorId) : Outcome Bool :=
  match (m.monitor id).tryEnter t with
  | some x => .ok true (m.setMonitor id x)
  | none => .ok false m

/-- The owner of a monitor exits it. -/
def exitMonitor (m : Machine) (t : ThreadId) (id : MonitorId) : Outcome Unit :=
  match (m.monitor id).exit? t with
  | some x => .ok () (m.setMonitor id x)
  | none => .fault (.exitNotOwned t) m

/-- A thread becomes the owner of a monitor that is owned anonymously. -/
def claimMonitor (m : Machine) (t : ThreadId) (id : MonitorId) (recursions : UInt64) :
    Outcome Unit :=
  match (m.monitor id).claim? t recursions with
  | some x => .ok () (m.setMonitor id x)
  | none => .fault .notAnonymous m

/-- Draws a hash from the sequence of a thread. -/
def drawHash (m : Machine) (t : ThreadId) : UInt32 × Machine :=
  let (h, s) := (m.thread t).hashes.next
  (h, m.modifyThread t fun x => { x with hashes := s })

/-- The hash in the header that a monitor keeps, installed on first use. -/
def monitorHash (m : Machine) (t : ThreadId) (id : MonitorId) : UInt32 × Machine :=
  let x := m.monitor id
  if x.header.hasHash then (x.header.hash, m)
  else
    let (h, m) := m.drawHash t
    (h, m.setMonitor id { x with header := x.header.withHash h })

end Machine

end ObjectLocks
