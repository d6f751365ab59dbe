import ObjectLocks.HashSequence
import ObjectLocks.LockStack

/-!
# Threads

A thread is the attachment of a worker to the system. Its number is new for every attachment; the
numbers 0 and 1 mean "nobody" and "anonymous" where an owner is shown, so numbers start at 2.
-/

namespace ObjectLocks

abbrev ThreadId := Nat

abbrev ObjectId := Nat

abbrev RecordId := Nat

abbrev MonitorId := Nat

/-- The number of a worker, which may attach as a thread. -/
abbrev WorkerId := Nat

/-- The number of the first thread. -/
def firstThread : ThreadId := 2

def threadName (t : ThreadId) : String := s!"thread#{t}"

/-- What a thread is doing. -/
inductive ThreadState where
  | new
  /-- Runs managed code that holds object references. -/
  | inManaged
  /-- Runs code of the system that may still touch objects. -/
  | inVm
  /-- Waits for a monitor or an internal lock. -/
  | blocked
  /-- Runs native code that does not touch the heap. -/
  | inNative
  /-- Is parked at the barrier. -/
  | atSafepoint
  | terminated
deriving DecidableEq, Repr, Inhabited

namespace ThreadState

/-- A state in which the thread does not touch object references. -/
def isSafe : ThreadState → Bool
  | new | blocked | inNative | atSafepoint | terminated => true
  | inManaged | inVm => false

def ofNat? : Nat → Option ThreadState
  | 0 => some new
  | 1 => some inManaged
  | 2 => some inVm
  | 3 => some blocked
  | 4 => some inNative
  | 5 => some atSafepoint
  | 6 => some terminated
  | _ => none

def toNat : ThreadState → Nat
  | new => 0
  | inManaged => 1
  | inVm => 2
  | blocked => 3
  | inNative => 4
  | atSafepoint => 5
  | terminated => 6

def name : ThreadState → String
  | new => "New"
  | inManaged => "InManaged"
  | inVm => "InVm"
  | blocked => "Blocked"
  | inNative => "InNative"
  | atSafepoint => "AtSafepoint"
  | terminated => "Terminated"

end ThreadState

structure Thread where
  state : ThreadState
  /-- The objects that the thread has fast-locked. -/
  lockStack : LockStack ObjectId
  /-- The lock records that the thread has stack-locked with. -/
  lockRecords : LockStack RecordId
  /-- How many locks the thread holds by its own count. -/
  held : Nat
  /-- How many no-safepoint guards the thread has open. -/
  guards : Nat
  hashes : HashSequence
deriving Inhabited

namespace Thread

/-- The thread numbered `id` as it attaches. -/
def attached (id : ThreadId) : Thread := ⟨.new, .empty, .empty, 0, 0, .seed id⟩

def gain (t : Thread) : Thread := { t with held := t.held + 1 }

/-- One lock less, never below none. -/
def lose (t : Thread) : Thread := { t with held := t.held - 1 }

/-- The thread as it is shown to a programmer. -/
def describe (id : ThreadId) (t : Thread) : String :=
  "ThreadContext \x7b id: ThreadId(" ++ toString id ++ "), state: " ++ t.state.name ++
    ", held_monitor_count: " ++ toString t.held ++ " \x7d"

end Thread

end ObjectLocks
