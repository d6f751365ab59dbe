import ObjectLocks.Monitor
import ObjectLocks.Options

/-!
# Notices

What a system writes to its log. A notice names its object by number; the text asks for the way in
which the object is shown.
-/

namespace ObjectLocks

/-- Why a lock is inflated. -/
inductive InflationCause where
  | monitorEnter
  | hashCode
  | lockStackFull
  | recursionDepth
  | recordRegistryFull
  | heavyMonitors
deriving DecidableEq, Repr

namespace InflationCause

def text : InflationCause → String
  | monitorEnter => "monitor enter"
  | hashCode => "identity hash"
  | lockStackFull => "lock stack full"
  | recursionDepth => "recursion depth"
  | recordRegistryFull => "lock record registry full"
  | heavyMonitors => "heavy monitors only"

def name : InflationCause → String
  | monitorEnter => "MonitorEnter"
  | hashCode => "HashCode"
  | lockStackFull => "LockStackFull"
  | recursionDepth => "RecursionDepth"
  | recordRegistryFull => "RecordRegistryFull"
  | heavyMonitors => "HeavyMonitors"

def all : List InflationCause :=
  [monitorEnter, hashCode, lockStackFull, recursionDepth, recordRegistryFull, heavyMonitors]

/-- The cause that is shown as `s`. -/
def ofName? (s : String) : Option InflationCause := all.find? fun c => c.name == s

end InflationCause

/-- One line of the log. -/
inductive Notice where
  | chosen (mode : LockingMode) (useTable : Bool)
  /-- A flag was given a value that it does not take. -/
  | invalidFlag (argument name : String)
  /-- An instance of a value-based class is about to be locked. -/
  | valueBased (t : ThreadId) (o : ObjectId)
  | blocks (t : ThreadId) (o : ObjectId) (owner : Owner)
  | inflatedStackLock (t : ThreadId) (o : ObjectId) (owner : Option ThreadId)
      (cause : InflationCause)
  | inflatedUnlocked (t : ThreadId) (o : ObjectId) (cause : InflationCause)
  /-- An object whose lock is not a stack lock got a monitor in its header. -/
  | inflatedInline (t : ThreadId) (o : ObjectId) (owner : Owner) (cause : InflationCause)
  | inflatedIntoTable (t : ThreadId) (o : ObjectId) (owner : Owner) (cause : InflationCause)
  | illegalExit (t : ThreadId) (o : ObjectId)
  | safepointReached
  | safepointReleased
deriving DecidableEq, Repr

/-- The text that names a thread which may be unknown. -/
def threadName? (t : Option ThreadId) : String := threadName (t.getD 0)

/-- The text about an exit by a thread that does not hold the lock. -/
def illegalExitText (t : ThreadId) (shown : String) : String :=
  s!"{threadName t} exits {shown} without owning it"

/-- The text of a notice, objects as `shown`. -/
def Notice.text (shown : ObjectId → String) : Notice → String
  | chosen mode useTable =>
    s!"INFO objsync::options: locking mode: {mode.text}, object monitor table: {useTable}"
  | invalidFlag argument name =>
    s!"WARN objsync::flags: Ignoring flag: {argument} is an invalid value for flag {name}"
  | valueBased t o =>
    "WARN objsync::monitor: " ++ threadName t ++ " synchronizes on " ++ shown o ++
      ", an instance of a value-based class"
  | blocks t o owner =>
    "TRACE objsync::monitor: " ++ threadName t ++ " blocks on " ++ shown o ++ " owned by " ++
      toString owner.number
  | inflatedStackLock t o owner cause =>
    "DEBUG objsync::inflate: " ++ threadName t ++ " inflated " ++ shown o ++ " stack-locked by " ++
      threadName? owner ++ " (" ++ cause.text ++ ")"
  | inflatedUnlocked t o cause =>
    "DEBUG objsync::inflate: " ++ threadName t ++ " inflated unlocked " ++ shown o ++ " (" ++
      cause.text ++ ")"
  | inflatedInline t o owner cause =>
    "DEBUG objsync::inflate: " ++ threadName t ++ " inflated " ++ shown o ++ " owned by " ++
      toString owner.number ++ " (" ++ cause.text ++ ")"
  | inflatedIntoTable t o owner cause =>
    "DEBUG objsync::inflate: " ++ threadName t ++ " inflated " ++ shown o ++
      " into the monitor table, owned by " ++ toString owner.number ++ " (" ++ cause.text ++ ")"
  | illegalExit t o => "ERROR objsync::exit: " ++ illegalExitText t (shown o)
  | safepointReached => "DEBUG objsync::safepoint: safepoint reached"
  | safepointReleased => "DEBUG objsync::safepoint: safepoint released"

end ObjectLocks
