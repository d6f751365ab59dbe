import ObjectLocks.Thread

/-!
# Monitors

A monitor is the heavy form of a lock: an owner, a count of further enters by the owner, and a queue
of the threads that wait for it. An exiting owner hands the monitor to the head of the queue, so
waiting threads acquire it in the order in which they queued.

A monitor made from a fast lock of another thread has an anonymous owner until that thread claims
it.
-/

namespace ObjectLocks

/-- The owner of a monitor. -/
inductive Owner where
  | nobody
  /-- Some thread that has the object on its lock stack. -/
  | anonymous
  | thread (t : ThreadId)
deriving DecidableEq, Repr, Inhabited

namespace Owner

def number : Owner → Nat
  | nobody => 0
  | anonymous => 1
  | thread t => t

/-- The thread that owns, if it is known. -/
def thread? : Owner → Option ThreadId
  | thread t => some t
  | nobody | anonymous => none

/-- The owner that a lock record names. -/
def ofThread? : Option ThreadId → Owner
  | some t => thread t
  | none => nobody

end Owner

structure Monitor where
  object : ObjectId
  owner : Owner
  /-- The last thread that gave the monitor up. -/
  previousOwner : Option ThreadId
  /-- Enters of the owner beyond the first. The count is a machine word and wraps. -/
  recursions : UInt64
  /-- The header displaced by the monitor's address. -/
  header : LockWord
  queued : Nat
  /-- The waiting threads, the longest waiting first. -/
  queue : List ThreadId
  /-- How often an enter had to wait. -/
  contentions : Nat
deriving DecidableEq, Repr, Inhabited

namespace Monitor

/-- A monitor for `o` that nobody owns. -/
def new (o : ObjectId) : Monitor := ⟨o, .nobody, none, 0, .fresh, 0, [], 0⟩

def isOwner (m : Monitor) (t : ThreadId) : Bool := m.owner == .thread t

def isOwned (m : Monitor) : Bool := m.owner != .nobody

def hasAnonymousOwner (m : Monitor) : Bool := m.owner == .anonymous

/-- The monitor with an owner set before anyone else can see it. -/
def ownedBy (m : Monitor) (o : Owner) (recursions : UInt64) : Monitor :=
  { m with owner := o, recursions := recursions }

/-- Enters without waiting: once more for the owner, or for `t` if there is neither an owner nor a
waiting thread. -/
def tryEnter (m : Monitor) (t : ThreadId) : Option Monitor :=
  if m.owner = .thread t then some { m with recursions := m.recursions + 1 }
  else if m.queued = 0 ∧ m.owner = .nobody then some { m with owner := .thread t }
  else none

def contend (m : Monitor) : Monitor := { m with contentions := m.contentions + 1 }

/-- Puts `t` at the end of the queue. -/
def enqueue (m : Monitor) (t : ThreadId) : Monitor :=
  { m with queued := m.queued + 1, queue := m.queue ++ [t] }

/-- Gives the monitor up, and to the head of the queue if a thread waits. -/
def handOff (m : Monitor) : Monitor :=
  if m.queued = 0 then { m with owner := .nobody }
  else
    match m.queue with
    | [] => { m with owner := .nobody }
    | next :: rest => { m with owner := .thread next, queued := m.queued - 1, queue := rest }

/-- One exit by `t`, which must be the owner: takes back one further enter, or hands the monitor
off. -/
def exit? (m : Monitor) (t : ThreadId) : Option Monitor :=
  if m.owner = .thread t then
    if m.recursions = 0 then some { m with previousOwner := some t }.handOff
    else some { m with recursions := m.recursions - 1 }
  else none

/-- Makes `t` the owner of a monitor that is owned anonymously. -/
def claim? (m : Monitor) (t : ThreadId) (recursions : UInt64) : Option Monitor :=
  if m.owner = .anonymous then some (m.ownedBy (.thread t) recursions) else none

/-- Replaces the displaced header if it is `expected`. Answers the header found. -/
def replaceHeader (m : Monitor) (new expected : LockWord) : Except LockWord LockWord × Monitor :=
  if m.header = expected then (.ok m.header, { m with header := new }) else (.error m.header, m)

/-- The monitor as it is shown to a programmer, its object as `shown`. -/
def describe (m : Monitor) (shown : String) : String :=
  "ObjectMonitor \x7b object: " ++ shown ++ ", owner: " ++ toString m.owner.number ++
    ", recursions: " ++ toString m.recursions ++ ", queued: " ++ toString m.queued ++ " \x7d"

end Monitor

/-- The monitors of a system by object. Entries are never removed. -/
structure MonitorTable where
  entries : List (ObjectId × MonitorId)
deriving Inhabited

namespace MonitorTable

def empty : MonitorTable := ⟨[]⟩

def get? (t : MonitorTable) (o : ObjectId) : Option MonitorId := t.entries.lookup o

/-- Adds the monitor of an object that has none. -/
def insert (t : MonitorTable) (o : ObjectId) (m : MonitorId) : MonitorTable :=
  ⟨(o, m) :: t.entries⟩

def size (t : MonitorTable) : Nat := t.entries.length

end MonitorTable

end ObjectLocks
