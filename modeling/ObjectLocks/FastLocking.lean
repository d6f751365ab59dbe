import ObjectLocks.Machine

/-!
# Fast-locking

A thread locks an unlocked object by changing its lock bits and pushing the object on its lock
stack. The rest of the header stays in place, so the identity hash can be read and installed while
the object is locked. A further enter repeats the top entry of the lock stack.

When that does not work out, because of contention, a full lock stack or an enter of an object below
the top, the lock is inflated. The monitor is found through its address in the header or, where
options ask for it, through a table; the header then only carries the monitor bits. A fast lock of
another thread becomes a monitor with an anonymous owner, which that thread claims when it next
enters or exits the object.
-/

namespace ObjectLocks.FastLocking

/-- The monitor that a header with mark `k` leads to. -/
def readMonitor? (m : Machine) (o : ObjectId) (k : Mark) : Option MonitorId :=
  if k.hasMonitor then if m.options.useTable then m.table.get? o else k.monitor? else none

/-- The owner and the recursions of a monitor that replaces a lock whose mark is `k`. -/
def ownerAs (m : Machine) (t : ThreadId) (o : ObjectId) (k : Mark) : Owner × UInt64 :=
  if k.isFastLocked then
    match (m.lockStack t).count o with
    | 0 => (.anonymous, 0)
    | held + 1 => (.thread t, .ofNat held)
  else (.nobody, 0)

/-- Takes the object off the lock stack if the monitor is owned by the thread itself. -/
def transfer (m : Machine) (t : ThreadId) (o : ObjectId) (owner : Owner) : Machine :=
  if owner = .thread t then m.dropObject t o else m

/-- The monitor of an object, its address in the header. -/
def inflateInline (m : Machine) (t : ThreadId) (o : ObjectId) (cause : InflationCause) :
    Outcome MonitorId :=
  let k := m.mark o
  match k.monitor? with
  | some id => .ok id m
  | none =>
    let (owner, recursions) := ownerAs m t o k
    let word := if k.isFastLocked then k.displaced.setUnlocked else k.displaced
    let (id, m) := m.addMonitor { (Monitor.new o).ownedBy owner recursions with header := word }
    let m := transfer (m.setMark o (.monitor id)) t o owner
    let m := m.note (.inflatedInline t o owner cause)
    .ok id { m with inlineMonitors := id :: m.inlineMonitors }

/-- The entry of an object in the monitor table, which is made if there is none. -/
def tableMonitor (m : Machine) (o : ObjectId) : MonitorId × Machine :=
  match m.table.get? o with
  | some id => (id, m)
  | none =>
    let (id, m) := m.addMonitor (.new o)
    (id, { m with table := m.table.insert o id })

/-- The monitor of an object, kept in the table. -/
def inflateIntoTable (m : Machine) (t : ThreadId) (o : ObjectId) (cause : InflationCause) :
    Outcome MonitorId :=
  let (id, m) := tableMonitor m o
  let k := m.mark o
  if k.hasMonitor then .ok id m
  else
    let (owner, recursions) := ownerAs m t o k
    let m :=
      if k.isFastLocked then m.setMonitor id ((m.monitor id).ownedBy owner recursions) else m
    let m := transfer (m.setMark o (k.mapWord .setMonitor)) t o owner
    .ok id (m.note (.inflatedIntoTable t o owner cause))

/-- The monitor of an object, which is made if there is none. -/
def inflate (m : Machine) (t : ThreadId) (o : ObjectId) (cause : InflationCause) :
    Outcome MonitorId :=
  if m.options.useTable then inflateIntoTable m t o cause else inflateInline m t o cause

/-- The thread with the object on its lock stack claims the object's monitor: its entries become the
first enter and the recursions of the monitor. -/
def claim (m : Machine) (t : ThreadId) (o : ObjectId) (id : MonitorId) : Outcome Unit :=
  let held := (m.lockStack t).count o
  let m := m.dropObject t o
  if held = 0 then .fault .subtractOverflow m else m.claimMonitor t id (.ofNat (held - 1))

/-- Forgets the monitor that a record caches. Only records of a system with a table cache any. -/
def clearCache (m : Machine) (r : RecordId) : Machine :=
  if m.options.useTable then m.setCache r none else m

def fillCache (m : Machine) (r : RecordId) (id : MonitorId) : Machine :=
  if m.options.useTable then m.setCache r (some id) else m

def enterInflated (m : Machine) (t : ThreadId) (o : ObjectId) (r : RecordId)
    (cause : InflationCause) : Outcome Entry :=
  (inflate m t o cause).bind fun id m =>
    let claimed :=
      if (m.monitor id).hasAnonymousOwner && (m.lockStack t).contains o then claim m t o id
      else .ok () m
    claimed.bind fun _ m => (fillCache m r id).enterMonitor t id

def lockFast (m : Machine) (t : ThreadId) (o : ObjectId) : Outcome Unit :=
  (m.setMark o ((m.mark o).mapWord .setFastLocked)).pushObject t o

/-- Enters an object. No other thread runs meanwhile, so looking at the header more than once finds
the same header again. -/
def enter (m : Machine) (t : ThreadId) (o : ObjectId) (r : RecordId) : Outcome Entry :=
  let m := clearCache m r
  match (m.lockStack t).tryRecursiveEnter o with
  | some s => .ok .entered (m.setLockStack t s)
  | none =>
    if (m.lockStack t).isFull then enterInflated m t o r .lockStackFull
    else if m.options.fastLockSpins ≠ 0 ∧ (m.mark o).isUnlocked then
      (lockFast m t o).map fun _ => .entered
    else enterInflated m t o r .monitorEnter

/-- Enters an object, if that takes neither waiting nor a new monitor. -/
def quickEnter (m : Machine) (t : ThreadId) (o : ObjectId) (r : RecordId) : Outcome Bool :=
  let m := clearCache m r
  match (m.lockStack t).tryRecursiveEnter o with
  | some s => .ok true (m.setLockStack t s)
  | none =>
    let k := m.mark o
    if k.isUnlocked then
      if (m.lockStack t).isFull then .ok false m else (lockFast m t o).map fun _ => true
    else
      match readMonitor? m o k with
      | some id =>
        (m.tryEnterMonitor t id).bind fun entered m =>
          .ok entered (if entered then fillCache m r id else m)
      | none => .ok false m

/-- The monitor that a record caches, if it belongs to the object. -/
def cached? (m : Machine) (o : ObjectId) (r : RecordId) : Option MonitorId :=
  if m.options.useTable then (m.record r).cache.filter fun id => (m.monitor id).object == o
  else none

/-- Exits a monitor of an object, which the thread claims first if it has to. -/
def exitInflated (m : Machine) (t : ThreadId) (o : ObjectId) (id : MonitorId) : Outcome Unit :=
  let claimed :=
    if (m.monitor id).hasAnonymousOwner then
      if (m.lockStack t).contains o then claim m t o id else m.illegalExit t o
    else .ok () m
  claimed.bind fun _ m =>
    if (m.monitor id).isOwner t then m.exitMonitor t id else m.illegalExit t o

/-- Exits an object: drops a repeated top entry, unlocks the header, or exits the monitor. -/
def exit (m : Machine) (t : ThreadId) (o : ObjectId) (r : RecordId) : Outcome Unit :=
  match (m.lockStack t).tryRecursiveExit o with
  | some s => .ok () (m.setLockStack t s)
  | none =>
    let k := m.mark o
    if (m.lockStack t).contains o && k.isFastLocked then
      .ok () ((m.setMark o (k.mapWord .setUnlocked)).dropObject t o)
    else
      match (cached? m o r).or (readMonitor? m o k) with
      | some id => exitInflated m t o id
      | none => m.illegalExit t o

/-- The identity hash of an object. All headers that are words keep the hash in place. -/
def identityHash (m : Machine) (t : ThreadId) (o : ObjectId) : Outcome UInt32 :=
  match m.mark o with
  | .monitor id =>
    let (h, m) := m.monitorHash t id
    .ok h m
  | .word w =>
    if w.hasHash then .ok w.hash m
    else
      let (h, m) := m.drawHash t
      .ok h (m.setMark o (.word (w.withHash h)))
  | .record _ => .fault .noMonitor m

def holdsLock (m : Machine) (t : ThreadId) (o : ObjectId) : Bool :=
  let k := m.mark o
  let onStack := (m.lockStack t).contains o
  if k.isFastLocked then onStack
  else
    match readMonitor? m o k with
    | some id => (m.monitor id).isOwner t || ((m.monitor id).hasAnonymousOwner && onStack)
    | none => false

def lockOwner? (m : Machine) (o : ObjectId) : Option ThreadId :=
  let k := m.mark o
  if k.isFastLocked then m.fastLocker? o
  else
    (readMonitor? m o k).bind fun id =>
      if (m.monitor id).hasAnonymousOwner then m.fastLocker? o else (m.monitor id).owner.thread?

end ObjectLocks.FastLocking
