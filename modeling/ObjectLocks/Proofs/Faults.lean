import ObjectLocks.Proofs.Locking
import ObjectLocks.Proofs.Moves

/-!
# Faults of operations

An operation on the lock of an object fails only if its caller misuses it. Whatever else could fail
inside of an operation has been looked at before: that a stack has room before something is pushed,
that a monitor is owned anonymously before it is claimed, and that a thread owns a monitor before it
exits it. Only that the header of an object has a shape that its mode knows is not looked at, and
holds in every coherent system.
-/

namespace ObjectLocks

/-- If an operation fails, then with one of the faults. -/
def Outcome.FailsOnly {α : Type} (faults : List Fault) : Outcome α → Prop
  | ok _ _ => True
  | fault f _ => f ∈ faults

namespace Outcome.FailsOnly

variable {α β : Type} {x : Outcome α} {faults : List Fault}

/-- An operation may be said to fail with more faults than it does. -/
lemma mono {faults' : List Fault} (h : x.FailsOnly faults) (sub : ∀ f ∈ faults, f ∈ faults') :
    x.FailsOnly faults' := by
  cases x with
  | ok a m => trivial
  | fault f m => exact sub f h

/-- An operation that never fails fails with whatever faults are said. -/
lemma of_never (h : x.FailsOnly []) : x.FailsOnly faults := h.mono nofun

/-- An operation fails with the faults of its first part and of what follows. -/
lemma bind {next : α → Machine → Outcome β} (h : x.FailsOnly faults)
    (go : ∀ a m, x = .ok a m → (next a m).FailsOnly faults) : (x.bind next).FailsOnly faults := by
  cases x with
  | ok a m => exact go a m rfl
  | fault f m => exact h

/-- What is answered makes no difference to the faults. -/
lemma map (h : x.FailsOnly faults) (f : α → β) : (x.map f).FailsOnly faults := by
  cases x <;> exact h

end Outcome.FailsOnly

namespace Machine

variable {m : Machine} {t : ThreadId} {o : ObjectId} {r : RecordId} {id : MonitorId}

/-- A safepoint check fails because of a guard only. -/
lemma checkSafepoint_fails : (m.checkSafepoint t).FailsOnly [.noSafepointRegion] := by
  unfold checkSafepoint
  split
  · trivial
  · exact List.mem_singleton_self _

/-- An illegal exit fails as such. -/
lemma illegalExit_fails : (m.illegalExit t o).FailsOnly [.illegalExit t o] :=
  List.mem_singleton_self _

/-- Entering a monitor fails because of a guard only. -/
lemma enterMonitor_fails : (m.enterMonitor t id).FailsOnly [.noSafepointRegion] := by
  unfold enterMonitor
  dsimp only
  split
  · trivial
  · exact checkSafepoint_fails.bind fun _ _ _ => trivial

/-- Trying to enter a monitor never fails. -/
lemma tryEnterMonitor_never : (m.tryEnterMonitor t id).FailsOnly [] := by
  unfold tryEnterMonitor
  split <;> trivial

/-- The owner of a monitor can exit it. -/
lemma exitMonitor_never (own : (m.monitor id).isOwner t = true) :
    (m.exitMonitor t id).FailsOnly [] := by
  unfold exitMonitor
  split
  next => trivial
  next none => exact absurd (beq_iff_eq.1 own) (Monitor.exit?_eq_none none)

/-- A monitor that is owned anonymously can be claimed. -/
lemma claimMonitor_never (anonymous : (m.monitor id).hasAnonymousOwner = true) (c : UInt64) :
    (m.claimMonitor t id c).FailsOnly [] := by
  unfold claimMonitor
  split
  next => trivial
  next none =>
    rw [Monitor.claim?, if_pos (beq_iff_eq.1 anonymous)] at none
    cases none

/-- Exiting a monitor fails because of another owner only. -/
lemma exitMonitor_fails : (m.exitMonitor t id).FailsOnly [.exitNotOwned t] := by
  unfold exitMonitor
  split
  · trivial
  · exact List.mem_singleton_self _

/-- Claiming a monitor fails because of a known owner only. -/
lemma claimMonitor_fails {c : UInt64} : (m.claimMonitor t id c).FailsOnly [.notAnonymous] := by
  unfold claimMonitor
  split
  · trivial
  · exact List.mem_singleton_self _

/-- A stack with room does not overflow. -/
lemma pushObject_never (room : (m.lockStack t).isFull = false) :
    (m.pushObject t o).FailsOnly [] := by
  unfold pushObject
  split
  next => trivial
  next none =>
    have full := LockStack.isFull_iff.2 (LockStack.push?_eq_none none)
    cases room.symm.trans full

/-- Lock records with room do not overflow. -/
lemma pushRecord_never (room : (m.lockRecords t).isFull = false) :
    (m.pushRecord t r).FailsOnly [] := by
  unfold pushRecord
  split
  next => trivial
  next none =>
    have full := LockStack.isFull_iff.2 (LockStack.push?_eq_none none)
    cases room.symm.trans full

end Machine

namespace FastLocking

open Machine

variable {m : Machine} {t : ThreadId} {o : ObjectId} {r : RecordId} {id : MonitorId}

/-- An inflation never fails. -/
lemma inflate_never (cause : InflationCause) : (inflate m t o cause).FailsOnly [] := by
  unfold inflate
  split
  · unfold inflateIntoTable
    dsimp only
    split <;> trivial
  · unfold inflateInline
    dsimp only
    split <;> trivial

/-- A thread with entries of the object can claim a monitor that is owned anonymously. -/
lemma claim_never (anonymous : (m.monitor id).hasAnonymousOwner = true)
    (held : (m.lockStack t).contains o = true) : (claim m t o id).FailsOnly [] := by
  have some : (m.lockStack t).count o ≠ 0 := by
    rw [LockStack.count_eq]
    exact Nat.ne_of_gt (List.count_pos_iff.2 ((LockStack.contains_iff _ _).1 held))
  unfold claim
  dsimp only
  rw [if_neg some]
  exact claimMonitor_never (m := m.dropObject t o) anonymous _

/-- An enter through a monitor fails because of a guard only. -/
lemma enterInflated_fails (cause : InflationCause) :
    (enterInflated m t o r cause).FailsOnly [.noSafepointRegion] := by
  refine (inflate_never cause).of_never.bind fun id n _ => ?_
  refine Outcome.FailsOnly.bind ?_ fun _ _ _ => enterMonitor_fails
  split
  next claims =>
    obtain ⟨anonymous, held⟩ := Bool.and_eq_true_iff.1 claims
    exact (claim_never anonymous held).of_never
  next => trivial

/-- Taking a fast lock never fails if there is room. -/
lemma lockFast_never (room : (m.lockStack t).isFull = false) : (lockFast m t o).FailsOnly [] :=
  pushObject_never (m := m.setMark o ((m.mark o).mapWord .setFastLocked)) room

/-- An enter fails because of a guard only. -/
lemma enter_fails : (enter m t o r).FailsOnly [.noSafepointRegion] := by
  unfold enter
  dsimp only
  split
  next => trivial
  next =>
    split
    next => exact enterInflated_fails _
    next room =>
      split
      next => exact ((lockFast_never (Bool.eq_false_iff.2 room)).of_never).map _
      next => exact enterInflated_fails _

/-- A quick enter never fails. -/
lemma quickEnter_never : (quickEnter m t o r).FailsOnly [] := by
  unfold quickEnter
  dsimp only
  split
  next => trivial
  next =>
    split
    next =>
      split
      next => trivial
      next room => exact (lockFast_never (Bool.eq_false_iff.2 room)).map _
    next =>
      split
      next => exact tryEnterMonitor_never.bind fun _ _ _ => trivial
      next => trivial

/-- An exit through a monitor fails as an illegal exit only. -/
lemma exitInflated_fails : (exitInflated m t o id).FailsOnly [.illegalExit t o] := by
  unfold exitInflated
  dsimp only
  refine Outcome.FailsOnly.bind ?_ fun _ n _ => ?_
  · split
    next anonymous =>
      split
      next held => exact (claim_never anonymous held).of_never
      next => exact illegalExit_fails
    next => trivial
  · split
    next own => exact (exitMonitor_never own).of_never
    next => exact illegalExit_fails

/-- An exit fails as an illegal exit only. -/
lemma exit_fails : (exit m t o r).FailsOnly [.illegalExit t o] := by
  unfold exit
  split
  next => trivial
  next =>
    dsimp only
    split
    next => trivial
    next =>
      split
      next => exact exitInflated_fails
      next => exact illegalExit_fails

/-- The header of an object is never the address of a record. -/
lemma identityHash_never (h : Coherent m.view) : (identityHash m t o).FailsOnly [] := by
  unfold identityHash
  split
  next => trivial
  next => split <;> trivial
  next r hk =>
    have hd := header h o
    cases hf : m.form o <;> rw [hf] at hd <;> cases hd <;> simp_all

end FastLocking

namespace StackLocking

open Machine

variable {m : Machine} {t : ThreadId} {o : ObjectId} {r : RecordId}

/-- Whether a header has a shape that stack-locking knows. -/
def Known : Mark → Prop
  | .word w => w.isUnlocked = true
  | .record _ | .monitor _ => True

/-- Every header of a coherent system has a shape that stack-locking knows. -/
lemma Coherent.known (h : Coherent m.view) (o : ObjectId) : Known (m.mark o) := by
  cases hk : m.mark o with
  | word w => exact beq_iff_eq.2 (form_word h hk).1
  | record _ | monitor _ => trivial

/-- An inflation never fails if the shape of the header is known. -/
lemma inflate_never (known : Known (m.mark o)) (cause : InflationCause) :
    (inflate m t o cause).FailsOnly [] := by
  unfold inflate
  split
  next => trivial
  next => trivial
  next w hk =>
    rw [hk] at known
    rw [if_pos (show w.isUnlocked = true from known)]
    trivial

/-- An enter through a monitor fails because of a guard only. -/
lemma enterInflated_fails (known : Known (m.mark o)) (cause : InflationCause) :
    (enterInflated m t o r cause).FailsOnly [.noSafepointRegion] := by
  have known' : Known ((m.modifyRecord r .throughMonitor).mark o) := known
  exact (inflate_never known' cause).of_never.bind fun _ _ _ => enterMonitor_fails

/-- Trying to stack-lock an object never fails. -/
lemma tryStackLock_never : (tryStackLock m t o r).FailsOnly [] := by
  unfold tryStackLock
  split
  next =>
    split
    next =>
      split
      next => trivial
      next room =>
        -- Neither the record nor the header has a part in how many records there are.
        refine Outcome.FailsOnly.map ?_ _
        exact pushRecord_never (by exact Bool.eq_false_iff.2 room)
    next => trivial
  next =>
    split
    next =>
      split
      next => trivial
      next room =>
        refine Outcome.FailsOnly.map ?_ _
        exact pushRecord_never (by exact Bool.eq_false_iff.2 room)
    next => trivial
  next => trivial

/-- Nothing has changed if an object cannot be stack-locked. -/
lemma tryStackLock_refused {cause : InflationCause} {n : Machine}
    (refused : tryStackLock m t o r = .ok (some cause) n) : n = m := by
  have pushed {k : Machine} : (k.pushRecord t r).map (fun _ => (none : Option InflationCause)) ≠
      .ok (some cause) n := by
    cases k.pushRecord t r <;> exact nofun
  unfold tryStackLock at refused
  split at refused
  next =>
    split at refused
    next =>
      split at refused
      next => cases refused; rfl
      next => exact absurd refused pushed
    next => cases refused; rfl
  next =>
    split at refused
    next =>
      split at refused
      next => cases refused; rfl
      next => exact absurd refused pushed
    next => cases refused; rfl
  next => cases refused; rfl

/-- An enter fails because of a guard only. -/
lemma enter_fails (known : Known (m.mark o)) : (enter m t o r).FailsOnly [.noSafepointRegion] := by
  unfold enter
  split
  next => exact enterInflated_fails known _
  next =>
    refine tryStackLock_never.of_never.bind fun refusal n eq => ?_
    cases refusal with
    | none => trivial
    | some cause =>
      obtain rfl := tryStackLock_refused eq
      exact enterInflated_fails known cause

/-- A quick enter never fails. -/
lemma quickEnter_never : (quickEnter m t o r).FailsOnly [] := by
  unfold quickEnter
  split
  next => exact tryEnterMonitor_never.bind fun _ _ _ => trivial
  next => trivial
  next => trivial

/-- An exit of a monitor fails as an illegal exit only. -/
lemma exitInflated_fails : (exitInflated m t o r).FailsOnly [.illegalExit t o] := by
  unfold exitInflated
  dsimp only
  split
  next =>
    split
    next own => exact (exitMonitor_never own).of_never
    next => exact illegalExit_fails
  next => exact illegalExit_fails
  next => exact illegalExit_fails

/-- An exit fails as an illegal exit only. -/
lemma exit_fails : (exit m t o r).FailsOnly [.illegalExit t o] := by
  unfold exit
  dsimp only
  split
  next => exact exitInflated_fails
  next =>
    split
    next =>
      split
      next => trivial
      next => exact illegalExit_fails
    next =>
      split
      next => trivial
      next => exact exitInflated_fails

/-- Asking for the identity hash never fails if the shape of the header is known. -/
lemma identityHash_never (known : Known (m.mark o)) : (identityHash m t o).FailsOnly [] := by
  have throughMonitor : ((inflate m t o .hashCode).bind fun id m =>
      .ok (m.monitorHash t id).1 (m.monitorHash t id).2).FailsOnly [] :=
    (inflate_never known _).bind fun _ _ _ => trivial
  unfold identityHash
  split
  next =>
    split
    next => split <;> trivial
    next => exact throughMonitor
  next => trivial
  next =>
    dsimp only
    split
    next => trivial
    next => exact throughMonitor

end StackLocking

namespace Locking

variable {m : Machine} {t : ThreadId} {o : ObjectId} {r : RecordId}

/-- In every mode an enter fails because of a guard only. -/
lemma enter_fails (h : m.view.Coherent) : (enter m t o r).FailsOnly [.noSafepointRegion] := by
  unfold enter
  split
  next => exact FastLocking.enter_fails
  next mode => exact StackLocking.enter_fails ((h.stack mode).known o)

/-- In every mode a quick enter never fails. -/
lemma quickEnter_never : (quickEnter m t o r).FailsOnly [] := by
  unfold quickEnter
  split
  · exact FastLocking.quickEnter_never
  · exact StackLocking.quickEnter_never

/-- In every mode an exit fails as an illegal exit only. -/
lemma exit_fails : (exit m t o r).FailsOnly [.illegalExit t o] := by
  unfold exit
  split
  · exact FastLocking.exit_fails
  · exact StackLocking.exit_fails

/-- In every mode an inflation never fails. -/
lemma inflate_never (h : m.view.Coherent) (cause : InflationCause) :
    (inflate m t o cause).FailsOnly [] := by
  unfold inflate
  split
  next => exact FastLocking.inflate_never cause
  next mode => exact StackLocking.inflate_never ((h.stack mode).known o) cause

end Locking

namespace Machine

variable {m : Machine} {t : ThreadId} {o : ObjectId} {r : RecordId}

/-- In every mode asking for the identity hash never fails. -/
lemma identityHash_never (h : m.view.Coherent) : (m.identityHash t o).FailsOnly [] := by
  unfold identityHash
  split
  next mode => exact FastLocking.identityHash_never (h.fast mode)
  next mode => exact StackLocking.identityHash_never ((h.stack mode).known o)

/-- An enter with its bookkeeping fails because of a guard only. -/
lemma enter_fails (h : m.view.Coherent) : (m.enter t o r).FailsOnly [.noSafepointRegion] := by
  unfold enter checkSafepoint
  split
  next =>
    refine (Locking.enter_fails ?_).bind fun _ _ _ => trivial
    rwa [view_warnValueBased]
  next => exact List.mem_singleton_self _

/-- A quick enter with its bookkeeping fails outside of managed code only. -/
lemma quickEnter_fails (x : Option ObjectId) : (m.quickEnter t x r).FailsOnly [.notInManaged] := by
  unfold quickEnter
  split
  next => exact List.mem_singleton_self _
  next =>
    split
    next => trivial
    next =>
      split
      next => trivial
      next => exact (Locking.quickEnter_never.of_never).bind fun _ _ _ => trivial

/-- An exit with its bookkeeping fails as an illegal exit only. -/
lemma exit_fails : (m.exit t o r).FailsOnly [.illegalExit t o] := Locking.exit_fails

/-- The bound that a slot access has to keep. -/
lemma loadSlot_fails (i : Nat) :
    (m.loadSlot o i).FailsOnly [.indexOutOfBounds (m.object o).slots.size i] := by
  unfold loadSlot
  dsimp only
  split
  · trivial
  · exact List.mem_singleton_self _

/-- Updating a slot fails out of bounds only. -/
lemma updateSlot_fails (i : Nat) (f : UInt64 → UInt64) :
    (m.updateSlot o i f).FailsOnly [.indexOutOfBounds (m.object o).slots.size i] :=
  (loadSlot_fails i).bind fun _ _ _ => trivial

end Machine

end ObjectLocks
