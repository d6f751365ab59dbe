import ObjectLocks.Thread

/-!
# Lock records

A lock record stands for one enter and the exit that undoes it. Stack-locking keeps the header of
the object in the record and publishes the record in the header. With a monitor table a record
caches the monitor that its enter went through.
-/

namespace ObjectLocks

/-- The record of one enter. -/
structure LockRecord where
  /-- The worker whose record it is. -/
  worker : WorkerId
  /-- The header that the object had before it was stack-locked with this record. The zero word
  marks a recursive lock, `LockWord.unused` a record whose lock went through a monitor. -/
  displaced : LockWord
  /-- The thread that last stack-locked with the record. -/
  owner : Option ThreadId
  /-- The monitor that the last enter went through. -/
  cache : Option MonitorId
deriving DecidableEq, Repr, Inhabited

namespace LockRecord

/-- A record that was never used. -/
def fresh (w : WorkerId) : LockRecord := ⟨w, .unused, none, none⟩

/-- The displaced header of a recursive lock. -/
def recursiveMark : LockWord := ⟨0⟩

def isRecursive (r : LockRecord) : Bool := r.displaced == recursiveMark

/-- The record of a stack-lock by `t` on an object whose header was `w`. -/
def lockedOver (r : LockRecord) (w : LockWord) (t : ThreadId) : LockRecord :=
  { r with displaced := w, owner := some t }

/-- The record of a recursive stack-lock by `t`. -/
def lockedAgain (r : LockRecord) (t : ThreadId) : LockRecord := r.lockedOver recursiveMark t

/-- The record of an enter that went through a monitor. -/
def throughMonitor (r : LockRecord) : LockRecord := { r with displaced := .unused }

end LockRecord

end ObjectLocks
