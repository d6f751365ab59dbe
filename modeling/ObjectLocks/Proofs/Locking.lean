import ObjectLocks.Proofs.FastLocking.Operations
import ObjectLocks.Proofs.StackLocking.Operations

/-!
# Operations in every mode

The changes and the invariant of a mode are those of its locking algorithm. The bookkeeping around
the algorithms is not seen in the lock view.
-/

namespace ObjectLocks

/-- The changes that an operation of a thread makes in a mode. -/
def Locking.Change (mode : LockingMode) (t : ThreadId) (op : Operation) : Changes :=
  if mode = .lightweight then FastLocking.Change t op else StackLocking.Change t op

/-- The invariant of the mode. -/
structure LockView.Coherent (v : LockView) : Prop where
  fast : v.mode = .lightweight → FastLocking.Coherent v
  stack : v.mode ≠ .lightweight → StackLocking.Coherent v

variable {v w : LockView} {e : Option Event} {m : Machine} {t : ThreadId} {o : ObjectId}
  {r : RecordId} {op : Operation}

/-- Every operation keeps the invariant. -/
lemma LockView.Coherent.steps (h : v.Coherent) (s : Steps (Locking.Change v.mode t op) v e w)
    (attached : t < v.nextThread) : w.Coherent := by
  unfold Locking.Change at s
  split at s
  next mode =>
    have h' := (h.fast mode).steps s attached
    exact ⟨fun _ => h', fun mode' => absurd h'.mode mode'⟩
  next mode =>
    have h' := (h.stack mode).steps s attached
    exact ⟨fun mode' => absurd mode' h'.mode, fun _ => h'⟩

namespace Locking

/-- An enter makes changes of its mode, and is complete or waits. -/
lemma enter_enters (h : m.view.Coherent) (attached : t < m.nextThread) :
    (enter m t o r).Enters (Change m.options.mode t (.enter o r)) m.view t o r := by
  unfold enter Change
  split
  next mode => exact FastLocking.enter_enters (h.fast mode) attached
  next mode => exact StackLocking.enter_enters (h.stack mode) attached

/-- A quick enter makes changes of the mode of an enter, and enters the object if it answers so. -/
lemma quickEnter_follows (h : m.view.Coherent) (attached : t < m.nextThread) :
    (quickEnter m t o r).Follows (Change m.options.mode t (.enter o r)) m.view
      (quickEvent t o r) none := by
  unfold quickEnter Change
  split
  next mode => exact FastLocking.quickEnter_follows (h.fast mode) attached
  next mode => exact StackLocking.quickEnter_follows (h.stack mode)

/-- An exit makes changes of its mode and exits the object. If it faults, it was rejected. -/
lemma exit_follows (h : m.view.Coherent) :
    (exit m t o r).Follows (Change m.options.mode t (.exit o r)) m.view
      (fun _ => some (.exited t o r)) (some (.rejected t o r)) := by
  unfold exit Change
  split
  next mode => exact FastLocking.exit_follows (h.fast mode)
  next mode => exact StackLocking.exit_follows (h.stack mode)

/-- An inflation makes changes of its mode that no event tells of. -/
lemma inflate_follows (h : m.view.Coherent) (cause : InflationCause) :
    (inflate m t o cause).Follows (Change m.options.mode t (.visit o)) m.view
      (fun _ => none) none := by
  unfold inflate Change
  split
  next mode => exact FastLocking.inflate_follows (h.fast mode) cause
  next mode => exact StackLocking.inflate_follows (h.stack mode) cause

end Locking

namespace Machine

open Locking (Change)

/-- The monitor that the header of an object leads to. -/
def monitorOf? (m : Machine) (o : ObjectId) : Option MonitorId := Locking.readMonitor? m o (m.mark o)

/-- Asking for the identity hash makes changes of its mode that no event tells of. -/
lemma identityHash_follows (h : m.view.Coherent) :
    (m.identityHash t o).Follows (Change m.options.mode t (.visit o)) m.view
      (fun _ => none) none := by
  unfold identityHash Change
  split
  next mode => exact FastLocking.identityHash_follows (h.fast mode)
  next mode => exact StackLocking.identityHash_follows (h.stack mode)

/-- An enter with its bookkeeping makes the same changes as without it. -/
lemma enter_enters (h : m.view.Coherent) (attached : t < m.nextThread) :
    (m.enter t o r).Enters (Change m.options.mode t (.enter o r)) m.view t o r := by
  unfold enter checkSafepoint
  split
  next =>
    dsimp only [Outcome.bind]
    have mode : (m.warnValueBased t o).options = m.options := by
      unfold warnValueBased
      split <;> rfl
    have next : (m.warnValueBased t o).nextThread = m.nextThread :=
      congrArg LockView.nextThread (m.view_warnValueBased t o)
    have enters := Locking.enter_enters (m := m.warnValueBased t o) (t := t) (o := o) (r := r)
      (by rwa [view_warnValueBased]) (next ▸ attached)
    rw [view_warnValueBased, mode] at enters
    match x : Locking.enter (m.warnValueBased t o) t o r with
    | .ok .entered n =>
      rw [x] at enters
      show Steps _ _ _ (n.modifyThread t .gain).view
      rw [view_gain]
      exact enters
    | .ok (.queued _ _) n =>
      rw [x] at enters
      exact enters
    | .fault _ n =>
      rw [x] at enters
      exact enters
  next => exact .refl

/-- A quick enter with its bookkeeping makes the same changes as without it. -/
lemma quickEnter_follows (h : m.view.Coherent) (attached : t < m.nextThread) :
    (m.quickEnter t (some o) r).Follows (Change m.options.mode t (.enter o r)) m.view
      (quickEvent t o r) none := by
  unfold quickEnter
  split
  next => exact .refl
  next =>
    dsimp only
    split
    next => exact .refl
    next =>
      have follows := Locking.quickEnter_follows (t := t) (o := o) (r := r) h attached
      match x : Locking.quickEnter m t o r with
      | .ok true n =>
        rw [x] at follows
        show Steps _ _ _ (n.modifyThread t .gain).view
        rw [view_gain]
        exact follows
      | .ok false n =>
        rw [x] at follows
        exact follows
      | .fault _ n =>
        rw [x] at follows
        exact follows

/-- An exit with its bookkeeping makes the same changes as without it. -/
lemma exit_follows (h : m.view.Coherent) :
    (m.exit t o r).Follows (Change m.options.mode t (.exit o r)) m.view
      (fun _ => some (.exited t o r)) (some (.rejected t o r)) := by
  have follows := Locking.exit_follows (m := m.modifyThread t .lose) (t := t) (o := o) (r := r)
    (by rwa [view_lose])
  rwa [view_lose] at follows

end Machine

end ObjectLocks
