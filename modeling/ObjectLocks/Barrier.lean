import ObjectLocks.Fault

/-!
# Barriers

Threads that are stopped for a safepoint wait at a barrier while it is armed.
-/

namespace ObjectLocks

/-- A barrier. -/
structure Barrier where
  armed : Bool
deriving DecidableEq, Repr, Inhabited

namespace Barrier

/-- The barrier before it is first armed. -/
def released : Barrier := ⟨false⟩

/-- Arms a barrier that is not armed. -/
def arm (b : Barrier) : Except Fault Barrier :=
  if b.armed then .error .barrierArmed else .ok ⟨true⟩

/-- Disarms a barrier that is armed. -/
def disarm (b : Barrier) : Except Fault Barrier :=
  if b.armed then .ok ⟨false⟩ else .error .barrierNotArmed

end Barrier

end ObjectLocks
