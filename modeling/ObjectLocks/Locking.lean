import ObjectLocks.FastLocking
import ObjectLocks.StackLocking

/-!
# Locking

The locking algorithm of a machine is the one of its mode. On top of it stands the bookkeeping that
the algorithms share: the count of held locks, the warning about value-based classes, the check for
no-safepoint regions, and the quick enter that never waits.
-/

namespace ObjectLocks

namespace Locking

/-- Enters an object with a lock record, or queues for its monitor. -/
def enter (m : Machine) : ThreadId → ObjectId → RecordId → Outcome Entry :=
  if m.options.mode = .lightweight then FastLocking.enter m else StackLocking.enter m

/-- Enters an object, if that takes neither waiting nor a new monitor. -/
def quickEnter (m : Machine) : ThreadId → ObjectId → RecordId → Outcome Bool :=
  if m.options.mode = .lightweight then FastLocking.quickEnter m else StackLocking.quickEnter m

/-- Exits an object with the lock record of the enter. -/
def exit (m : Machine) : ThreadId → ObjectId → RecordId → Outcome Unit :=
  if m.options.mode = .lightweight then FastLocking.exit m else StackLocking.exit m

/-- The monitor of an object, which is made if there is none. -/
def inflate (m : Machine) : ThreadId → ObjectId → InflationCause → Outcome MonitorId :=
  if m.options.mode = .lightweight then FastLocking.inflate m else StackLocking.inflate m

/-- The monitor that a header with mark `k` leads to. -/
def readMonitor? (m : Machine) (o : ObjectId) (k : Mark) : Option MonitorId :=
  if m.options.mode = .lightweight then FastLocking.readMonitor? m o k
  else StackLocking.readMonitor? k

end Locking

namespace Machine

/-- The hash of an object, which is drawn on first use. -/
def identityHash (m : Machine) : ThreadId → ObjectId → Outcome UInt32 :=
  if m.options.mode = .lightweight then FastLocking.identityHash m
  else StackLocking.identityHash m

/-- Whether a thread holds the lock of an object. -/
def holdsLock (m : Machine) : ThreadId → ObjectId → Bool :=
  if m.options.mode = .lightweight then FastLocking.holdsLock m else StackLocking.holdsLock m

/-- The attached thread that holds the lock of an object. -/
def lockOwner? (m : Machine) : ObjectId → Option ThreadId :=
  if m.options.mode = .lightweight then FastLocking.lockOwner? m else StackLocking.lockOwner? m

/-- The number of monitors that objects have. -/
def monitorCount (m : Machine) : Nat :=
  if m.options.useTable then m.table.size else m.inlineMonitors.length

/-- The monitor whose address a mark is. With a monitor table no mark is one. -/
def readInline? (m : Machine) (k : Mark) : Option MonitorId :=
  if m.options.useTable then none else k.monitor?

/-- The monitor of an object whose header has mark `k`. -/
def readMonitor? (m : Machine) (o : ObjectId) (k : Mark) : Option MonitorId :=
  if m.options.useTable then Locking.readMonitor? m o k else m.readInline? k

/-- Warns of a lock on an instance of a value-based class. -/
def warnValueBased (m : Machine) (t : ThreadId) (o : ObjectId) : Machine :=
  if (m.object o).type.valueBased then m.note (.valueBased t o) else m

/-- Enters an object. A thread that has to wait counts the lock once it has it. -/
def enter (m : Machine) (t : ThreadId) (o : ObjectId) (r : RecordId) : Outcome Entry :=
  (m.checkSafepoint t).bind fun _ m =>
    (Locking.enter (m.warnValueBased t o) t o r).bind fun entry m =>
      .ok entry (if entry = .entered then m.modifyThread t .gain else m)

/-- Enters an object, if there is one and that takes neither waiting nor a new monitor. -/
def quickEnter (m : Machine) (t : ThreadId) (o : Option ObjectId) (r : RecordId) : Outcome Bool :=
  if (m.thread t).state ≠ .inManaged then .fault .notInManaged m
  else
    match o with
    | none => .ok false m
    | some o =>
      if (m.object o).type.valueBased then .ok false m
      else
        (Locking.quickEnter m t o r).bind fun entered m =>
          .ok entered (if entered then m.modifyThread t .gain else m)

/-- Exits an object. The count drops even if the thread does not hold the object. -/
def exit (m : Machine) (t : ThreadId) (o : ObjectId) (r : RecordId) : Outcome Unit :=
  Locking.exit (m.modifyThread t .lose) t o r

/-- The value of a slot of an object. -/
def loadSlot (m : Machine) (o : ObjectId) (i : Nat) : Outcome UInt64 :=
  let slots := (m.object o).slots
  match slots[i]? with
  | some v => .ok v m
  | none => .fault (.indexOutOfBounds slots.size i) m

/-- Changes a slot of an object and answers what was in it. -/
def updateSlot (m : Machine) (o : ObjectId) (i : Nat) (f : UInt64 → UInt64) : Outcome UInt64 :=
  (m.loadSlot o i).bind fun v m =>
    .ok v (m.modifyObject o fun x => { x with slots := x.slots.setIfInBounds i (f v) })

end Machine

end ObjectLocks
