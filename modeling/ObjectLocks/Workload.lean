import ObjectLocks.World

/-!
# The counting workload

Several workers bump a slot of one object, each of them many times. Every bump happens under the
lock of the object: in even rounds in a synchronized region, in odd rounds between two nested enters
and their exits. No bump is lost, and the identity hash of the object stays what it was before.
-/

namespace ObjectLocks

namespace Workload

def counterClass : Class := ⟨"Counter", 1, false⟩

def workers : Nat := 4

def rounds : Nat := 10000

/-- What the workload shows when it is over. -/
structure Report where
  options : Options
  count : Nat
  monitors : Nat
  /-- The identity hash of the counter before and after. -/
  hash : UInt32
  hashAfter : UInt32
deriving DecidableEq, Repr

/-- What the counter should stand at. -/
def expected : Nat := workers * rounds

/-- Carries out an operation that ends at once and without a fault. -/
def perform (s : World) (w : WorkerId) (a : Action) : Option (World × Answer) :=
  match s.step w a with
  | (s, .answered x, _) => some (s, x)
  | _ => none

/-- Adds one to the counter. The two steps are one only under the lock of the counter. -/
def bump (s : World) (w : WorkerId) (counter : ObjectId) : Option World :=
  match perform s w (.load counter 0) with
  | some (s, .slot v) => (perform s w (.store counter 0 (v + 1))).map Prod.fst
  | _ => none

/-- One bump in a synchronized region. -/
def synchronizedRound (s : World) (w : WorkerId) (counter : ObjectId) : Option World := do
  let (s, _) ← perform s w (.beginSynchronized counter)
  let s ← bump s w counter
  let (s, _) ← perform s w .endSynchronized
  return s

/-- One bump between nested enters, and a look for a safepoint. -/
def nestedRound (s : World) (w : WorkerId) (counter : ObjectId) : Option World := do
  let (outer, s) := s.addRecord w
  let (inner, s) := s.addRecord w
  let (s, _) ← perform s w (.enter counter outer false)
  let (s, _) ← perform s w (.enter counter inner false)
  let s ← bump s w counter
  let (s, _) ← perform s w (.exit counter inner false)
  let (s, _) ← perform s w (.exit counter outer false)
  let (s, _) ← perform s w .poll
  return s

/-- The round with number `i`. -/
def round (counter : ObjectId) (w : WorkerId) (s : World) (i : Nat) : Option World :=
  if i % 2 = 0 then synchronizedRound s w counter else nestedRound s w counter

/-- All rounds of one worker, which is attached meanwhile. -/
def count (counter : ObjectId) (s : World) : Option World := do
  let (w, s) := s.addWorker
  let (s, _) ← perform s w .attach
  let s ← (List.range rounds).foldlM (round counter w) s
  let (s, _) ← perform s w .detach
  return s

def hashOf (s : World) (w : WorkerId) (counter : ObjectId) : Option (World × UInt32) :=
  match perform s w (.identityHash counter) with
  | some (s, .hash h) => some (s, h)
  | _ => none

/-- Runs the workload in a new world, one worker after the other, while the worker that set it up is
blocked. -/
def run (s : World) : Option Report := do
  let (owner, s) := s.addWorker
  let (s, _) ← perform s owner .attach
  let counter := s.machine.heap.size
  let (s, _) ← perform s owner (.allocate "counter" counterClass)
  let (s, before) ← hashOf s owner counter
  let (s, _) ← perform s owner .beginBlocked
  let s ← (List.range workers).foldlM (fun s _ => count counter s) s
  let (s, _) ← perform s owner .endBlocked
  let value := (s.machine.object counter).slots.getD 0 0
  let (s, after) ← hashOf s owner counter
  return ⟨s.machine.options, value.toNat, s.machine.monitorCount, before, after⟩

end Workload

end ObjectLocks
