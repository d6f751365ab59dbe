import ObjectLocks.Notice

/-!
# Faults

A fault ends the operation in which it arises. What the operation changed before stays changed. The
first four faults are misuse that a caller can commit; the others guard the inside of the system.
-/

namespace ObjectLocks

/-- What ends an operation early. -/
inductive Fault where
  | illegalExit (t : ThreadId) (o : ObjectId)
  /-- A thread might wait inside a no-safepoint region. -/
  | noSafepointRegion
  /-- A quick enter by a thread that does not run managed code. -/
  | notInManaged
  /-- A worker that is attached as `t` attaches. -/
  | alreadyAttached (t : ThreadId)
  /-- An exit of a monitor by a thread that does not own it. -/
  | exitNotOwned (t : ThreadId)
  /-- A claim of a monitor that is not owned anonymously. -/
  | notAnonymous
  | lockStackOverflow
  /-- A claim without an entry on the lock stack. -/
  | subtractOverflow
  | indexOutOfBounds (length : Nat) (index : Nat)
  /-- An inflation of a header of no known shape. -/
  | unexpectedMark (w : LockWord)
  | unreachable
  /-- The locker of a word that is not stack-locked. -/
  | notStackLocked
  /-- The monitor of a word without the monitor bits. -/
  | noMonitor
  /-- A value too large for its field. -/
  | invalidField
  | barrierArmed
  | barrierNotArmed
  /-- A preset with invalid options. -/
  | invalidPreset (options : Options) (cause : OptionsError)
  /-- The body of a synchronized region gave up. -/
  | bodyFailed
deriving DecidableEq, Repr

def Fault.message (shown : ObjectId → String) : Fault → String
  | illegalExit t o => illegalExitText t (shown o)
  | noSafepointRegion => "possible safepoint inside a no-safepoint region"
  | notInManaged => "invariant"
  | alreadyAttached t => s!"thread is already attached as {threadName t}"
  | exitNotOwned t => s!"exit of a monitor not owned by {threadName t}"
  | notAnonymous => "monitor is not anonymously owned"
  | lockStackOverflow => "lock stack overflow"
  | subtractOverflow => "attempt to subtract with overflow"
  | indexOutOfBounds length index =>
    s!"index out of bounds: the len is {length} but the index is {index}"
  | unexpectedMark w => s!"unexpected mark {w.describe}"
  | unreachable => "internal error: entered unreachable code"
  | notStackLocked => "assertion failed: self.is_stack_locked()"
  | noMonitor => "assertion failed: self.has_monitor()"
  | invalidField => "assertion failed: Self::is_valid(value)"
  | barrierArmed => "assertion failed: !*armed"
  | barrierNotArmed => "assertion failed: *armed"
  | invalidPreset options cause =>
    "invalid mock options " ++ options.describe ++ ": " ++ cause.message
  | bodyFailed => "sync_panic"

end ObjectLocks
