/-!
# Backoff

A loop that waits for another thread pauses a little longer from round to round, up to a limit.
Beyond the limit it gives the processor away, unless it must not.
-/

namespace ObjectLocks

/-- How a loop waits between two rounds. -/
inductive Pause where
  | spin (beats : Nat)
  | giveWay
deriving DecidableEq, Repr

/-- A request for a pause. -/
inductive PauseRequest where
  | snooze
  | spin
deriving DecidableEq, Repr

/-- How far a loop has backed off. -/
structure Backoff where
  round : Nat
deriving DecidableEq, Repr

namespace Backoff

/-- The last round that doubles the pause. -/
def limit : Nat := 6

def start : Backoff := ⟨0⟩

/-- The next round, which stops at the first one beyond the limit. -/
def advance (b : Backoff) : Backoff := if b.round ≤ limit then ⟨b.round + 1⟩ else b

/-- The pause that a request gets. -/
def pause (b : Backoff) : PauseRequest → Pause
  | .snooze => if b.round ≤ limit then .spin (1 <<< b.round) else .giveWay
  | .spin => .spin (1 <<< min b.round limit)

def pauses (b : Backoff) : List PauseRequest → List Pause
  | [] => []
  | r :: rest => b.pause r :: b.advance.pauses rest

end Backoff

end ObjectLocks
