import ObjectLocks.World

/-!
# Commands of a script

A script is a list of steps. A step is an operation of a named worker, or it concerns the whole
session. Workers, objects, classes, lock records and monitors are named.
-/

namespace ObjectLocks.Script

/-- The name of a monitor. -/
inductive MonitorName where
  /-- A monitor that the script made itself. -/
  | own (name : String)
  /-- The monitor that the object goes through now. -/
  | ofObject (o : String)
deriving DecidableEq, Repr

inductive Command where
  | attach
  | detach
  | allocate (o type : String)
  | enter (o r : String) (raw : Bool)
  | quickEnter (o : Option String) (r : String) (raw : Bool)
  | exit (o r : String) (raw : Bool)
  | identityHash (o : String)
  | holdsLock (o : String)
  | lockOwner (o : String)
  /-- The monitor of an object, by the three ways to read it. -/
  | readMonitor (o : String)
  | inflate (o : String) (cause : InflationCause)
  | showRecord (r : String)
  | store (o : String) (i : Nat) (v : UInt64)
  | load (o : String) (i : Nat)
  | add (o : String) (i : Nat) (v : UInt64)
  | showClass (o : String)
  | poll
  | checkSafepoint
  | beginGuard
  | endGuard
  | beginNative
  | endNative
  | beginBlocked
  | endBlocked
  | beginSynchronized (o : String)
  | endSynchronized
  | failSynchronized
  | beginSafepoint
  | endSafepoint
  | threadStates
  | showThread (o : Option String)
  | enterMonitor (m : MonitorName)
  | tryEnterMonitor (m : MonitorName)
  | exitMonitor (m : MonitorName)
  | monitorHash (m : MonitorName)
  | claimMonitor (m : MonitorName) (recursions : UInt64)
  | showMonitor (m : MonitorName)
deriving DecidableEq, Repr

inductive Request where
  | summary
  | newMonitor (m o : String)
  | setHeader (m : MonitorName) (w : LockWord)
  | replaceHeader (m : MonitorName) (new expected : LockWord)
  /-- The monitor of an object in a table of the script's own. -/
  | tableGet (o : String)
  | tableInsert (o : String)
  | tableSize
  /-- Adds a monitor to a list of the script's own. -/
  | listAdd (o : String)
  | listSize
deriving DecidableEq, Repr

/-- A step of a script. A step that cannot be read is refused when its turn comes. -/
inductive Step where
  | worker (name : String) (command : Option Command)
  | session (request : Option Request)
deriving DecidableEq, Repr

/-- What a lock record is asked for. -/
structure RecordReading where
  displaced : LockWord
  recursive : Bool
  owner : Option ThreadId
  cache : Option String
  /-- Whether the record is among the lock records of the worker's thread. -/
  owned : Bool
  count : Nat
deriving DecidableEq, Repr

/-- What an attached thread is asked for. -/
structure ThreadReading where
  description : String
  name : String
  safe : Bool
  threads : Nat
  /-- How often the object is on the lock stack, and whether it is twice in a row. -/
  onLockStack : Option (Nat × Bool)
deriving DecidableEq, Repr

/-- What a monitor is asked for. -/
structure MonitorReading where
  description : String
  isOwner : Bool
  isOwned : Bool
  hasAnonymousOwner : Bool
  owner : Option ThreadId
  previousOwner : Option ThreadId
deriving DecidableEq, Repr

/-- What a step answers. -/
inductive Reading where
  | done
  | begun
  | flag (b : Bool)
  | thread (t : ThreadId)
  | hash (h : UInt32)
  | slot (v : UInt64)
  | states (l : List (ThreadId × ThreadState))
  | owner (t : Option ThreadId)
  | monitorOf (o : Option String)
  | monitorsOf (l : List (Option String))
  | record (r : RecordReading)
  /-- An object's class, the object as it is shown, and how a handle to it is shown. -/
  | class (c : Class) (shown handle : String)
  | threadDetails (r : ThreadReading)
  | monitorDetails (r : MonitorReading)
  | summary (threads objects monitors : Nat) (requested : Bool)
  /-- The header found by a replacement, which succeeded or not. -/
  | replaced (found : Except LockWord LockWord)
  /-- Whether the entry is new, whether it was there before, its object, the size of the table. -/
  | inserted (created : Bool) (same : Option Bool) (o : String) (size : Nat)
  | added (o : String) (size : Nat)
  | size (n : Nat)

/-- How a step ends. -/
inductive Reply where
  | answered (r : Reading)
  | failed (message : String)
  | waiting
  /-- The worker waited already; the step is dropped. -/
  | busy
  /-- The step makes no sense where it stands. -/
  | refused

/-- What a step reports. -/
structure Report where
  reply : Reply
  /-- Workers whose earlier step ended now. -/
  woken : List (String × Reply)
  log : List String
  /-- The lines about the state that are new, changed or gone. -/
  changes : List String

end ObjectLocks.Script
