import ObjectLocks.Machine

/-!
# Stack-locking

A thread locks an unlocked object by copying its header into a lock record and making the header
point to the record. A further enter by the owner uses a record whose displaced header is zero and
leaves the header alone. Every record that a thread stack-locks with is in its lock records, by
which it knows a header that points to one of its own records.

Anything else inflates the lock: contention, a full stack of lock records, and the first hash of an
object that is stack-locked. The mode that only uses monitors inflates at the first enter.
-/

namespace ObjectLocks.StackLocking

/-- Makes a monitor whose address goes into the header of its object. -/
def install (m : Machine) (x : Monitor) : MonitorId × Machine :=
  let (id, m) := m.addMonitor x
  (id, { m.setMark x.object (.monitor id) with inlineMonitors := id :: m.inlineMonitors })

/-- The monitor of an object, which is made if there is none. The owner of a stack lock becomes the
owner of the monitor, and the header comes out of the locking record. -/
def inflate (m : Machine) (t : ThreadId) (o : ObjectId) (cause : InflationCause) :
    Outcome MonitorId :=
  match m.mark o with
  | .monitor id => .ok id m
  | .record r =>
    let record := m.record r
    let x := (Monitor.new o).ownedBy (.ofThread? record.owner) 0
    let (id, m) := install m { x with header := record.displaced }
    .ok id (m.note (.inflatedStackLock t o record.owner cause))
  | .word w =>
    if w.isUnlocked then
      let (id, m) := install m { Monitor.new o with header := w }
      .ok id (m.note (.inflatedUnlocked t o cause))
    else .fault (.unexpectedMark w) m

/-- Locks an object with a record and answers `none`, or tells why the lock has to be inflated. -/
def tryStackLock (m : Machine) (t : ThreadId) (o : ObjectId) (r : RecordId) :
    Outcome (Option InflationCause) :=
  match m.mark o with
  | .word w =>
    if w.isUnlocked then
      if (m.lockRecords t).isFull then .ok (some .recordRegistryFull) m
      else
        let m := (m.modifyRecord r fun x => x.lockedOver w t).setMark o (.record r)
        (m.pushRecord t r).map fun _ => none
    else .ok (some .monitorEnter) m
  | .record locker =>
    if (m.lockRecords t).contains locker then
      if (m.lockRecords t).isFull then .ok (some .recursionDepth) m
      else ((m.modifyRecord r fun x => x.lockedAgain t).pushRecord t r).map fun _ => none
    else .ok (some .monitorEnter) m
  | .monitor _ => .ok (some .monitorEnter) m

/-- Enters an object through its monitor. The record stays unused. -/
def enterInflated (m : Machine) (t : ThreadId) (o : ObjectId) (r : RecordId)
    (cause : InflationCause) : Outcome Entry :=
  (inflate (m.modifyRecord r .throughMonitor) t o cause).bind fun id m => m.enterMonitor t id

def enter (m : Machine) (t : ThreadId) (o : ObjectId) (r : RecordId) : Outcome Entry :=
  if m.options.mode = .monitor then enterInflated m t o r .heavyMonitors
  else
    (tryStackLock m t o r).bind fun refusal m =>
      match refusal with
      | none => .ok .entered m
      | some cause => enterInflated m t o r cause

/-- Enters an object that has a monitor, if that takes no waiting. -/
def quickEnter (m : Machine) (t : ThreadId) (o : ObjectId) (r : RecordId) : Outcome Bool :=
  match m.mark o with
  | .monitor id =>
    (m.tryEnterMonitor t id).bind fun entered m =>
      .ok entered (if entered then m.modifyRecord r .throughMonitor else m)
  | .word _ | .record _ => .ok false m

/-- Exits the monitor of an object. Whatever the record stood for before, it is done with. -/
def exitInflated (m : Machine) (t : ThreadId) (o : ObjectId) (r : RecordId) : Outcome Unit :=
  let m := m.dropRecord t r
  match m.mark o with
  | .monitor id => if (m.monitor id).isOwner t then m.exitMonitor t id else m.illegalExit t o
  | .word _ | .record _ => m.illegalExit t o

/-- Exits an object: takes a recursive record back, puts the header back that the record displaced,
or exits the monitor. -/
def exit (m : Machine) (t : ThreadId) (o : ObjectId) (r : RecordId) : Outcome Unit :=
  let record := m.record r
  if m.options.mode = .monitor then exitInflated m t o r
  else if record.isRecursive then
    if (m.lockRecords t).contains r then .ok () (m.dropRecord t r) else m.illegalExit t o
  else if record.displaced ≠ .unused ∧ m.mark o = .record r then
    .ok () ((m.setMark o (.word record.displaced)).dropRecord t r)
  else exitInflated m t o r

/-- The identity hash of an object. The displaced header of a stack lock can only be changed by its
owner, so the first hash of a stack-locked object goes through a monitor. -/
def identityHash (m : Machine) (t : ThreadId) (o : ObjectId) : Outcome UInt32 :=
  let throughMonitor (_ : Unit) : Outcome UInt32 :=
    (inflate m t o .hashCode).bind fun id m =>
      let (h, m) := m.monitorHash t id
      .ok h m
  match m.mark o with
  | .word w =>
    if w.isUnlocked then
      if w.hasHash then .ok w.hash m
      else
        let (h, m) := m.drawHash t
        .ok h (m.setMark o (.word (w.withHash h)))
    else throughMonitor ()
  | .monitor id =>
    let (h, m) := m.monitorHash t id
    .ok h m
  | .record locker =>
    let displaced := (m.record locker).displaced
    if (m.lockRecords t).contains locker && displaced.hasHash then .ok displaced.hash m
    else throughMonitor ()

def holdsLock (m : Machine) (t : ThreadId) (o : ObjectId) : Bool :=
  match m.mark o with
  | .record locker => (m.lockRecords t).contains locker
  | .monitor id => (m.monitor id).isOwner t
  | .word _ => false

def lockOwner? (m : Machine) (o : ObjectId) : Option ThreadId :=
  match m.mark o with
  | .record locker => m.stackLocker? locker
  | .monitor id => (m.monitor id).owner.thread?
  | .word _ => none

/-- The monitor that a header with mark `k` leads to. -/
def readMonitor? (k : Mark) : Option MonitorId := k.monitor?

end ObjectLocks.StackLocking
