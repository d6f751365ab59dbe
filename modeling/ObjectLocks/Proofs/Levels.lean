import ObjectLocks.Proofs.ExitDepth
import ObjectLocks.Proofs.IllegalExit

/-!
# Levels of ownership

How often a thread has entered an object and has yet to exit it, in every mode. With stack-locking a
recursive record does not tell which object it was used for, so the levels of a thread are counted
over the records of its pending enters; the record in the header, or the monitor, counts the others.
Used with care, an object has as many levels as the recursive lock that its history leads to, and an
exit of the latest enter gives one of them back.
-/

namespace ObjectLocks

namespace StackLocking

/-- The levels that the header of an object tells, or its monitor. -/
def firstLevels (m : Machine) (t : ThreadId) (o : ObjectId) : Nat :=
  match m.mark o with
  | .record b => if (m.lockRecords t).contains b then 1 else 0
  | .monitor id => if (m.monitor id).isOwner t then (m.monitor id).recursions.toNat + 1 else 0
  | .word _ => 0

/-- How often a thread has entered an object and has yet to exit it, `p` being the pending enters. -/
def depth (m : Machine) (p : Pending) (t : ThreadId) (o : ObjectId) : Nat :=
  (recordsOf (p t) o).countP (fun r => (m.record r).isRecursive) + firstLevels m t o

variable {m : Machine} {L : Locks} {p : Pending} {t : ThreadId} {o : ObjectId}

/-- A record is recursive or counted otherwise. -/
lemma countP_again (l : List RecordId) :
    l.countP (fun r => (m.record r).isRecursive) + firstCount m.view l = l.length := by
  rw [List.length_eq_countP_add_countP fun r => (m.record r).isRecursive]
  congr 1
  refine List.countP_congr fun r _ => ?_
  exact decide_eq_true_iff.trans ((not_congr beq_iff_eq).symm.trans decide_eq_true_iff.symm)

/-- Who does not own the object has no recursive record for it. -/
lemma Refines.countP_eq_zero (h : Refines m.view L p) (other : (L o).owner? ≠ some t) :
    (recordsOf (p t) o).countP (fun r => (m.record r).isRecursive) = 0 := by
  have rep := h.represents o
  have bal := h.balanced o
  cases eq : L o with
  | unlocked =>
    rw [eq] at bal
    rw [bal t]
    rfl
  | owned u d q =>
    rw [eq] at bal other rep
    obtain ⟨-, -, -, -, -, none⟩ := bal
    have ne : t ≠ u := fun same => other (same ▸ rfl)
    by_cases waits : t ∈ q
    · -- The record of a waiting thread is unused.
      have queued : q = _ := rep.waiting
      split at queued
      next id ho =>
        subst queued
        refine List.countP_eq_zero.2 fun r hr again => ?_
        have unused : (m.record r).displaced = .unused := rep.unused ho waits hr
        rw [LockRecord.isRecursive, unused] at again
        cases again
      next =>
        subst queued
        cases waits
    · rw [none t ne waits]
      rfl

/-- What counts the levels of the owner beside the recursive records. -/
lemma Refines.firstLevels_eq (h : Refines m.view L p) (own : (L o).owner? = some t) :
    firstLevels m t o = firstCount m.view (recordsOf (p t) o) := by
  have rep := h.represents o
  have held : holdsLock m t o = true := h.holds_iff.2 own
  unfold holdsLock at held
  unfold firstLevels
  cases hk : m.mark o with
  | record b =>
    rw [hk] at held
    obtain ⟨u, again, records, recursive, -, bits, eq⟩ := rep.stacked (form_record h.coherent hk)
    rw [eq] at own
    obtain rfl := Option.some.inj own
    simp only [held, if_true]
    rw [records, firstCount_again recursive (not_again bits)]
  | monitor id =>
    rw [hk] at held
    have own' : (m.view.monitor id).owner = .thread t := beq_iff_eq.1 held
    obtain ⟨_, _, -, -, counted, -⟩ := rep.owned (form_monitor h.coherent hk) own'
    simp only [held, if_true]
    exact counted.symm
  | word w =>
    rw [hk] at held
    cases held

/-- A thread that does not hold an object has no level but those of recursive records. -/
lemma firstLevels_eq_zero (out : ¬ holdsLock m t o = true) : firstLevels m t o = 0 := by
  unfold holdsLock at out
  unfold firstLevels
  cases hk : m.mark o with
  | record b =>
    rw [hk] at out
    exact if_neg out
  | monitor id =>
    rw [hk] at out
    exact if_neg out
  | word w => rfl

/-- The records and the header tell the depth of the recursive lock. -/
lemma Refines.depth_eq (h : Refines m.view L p) : depth m p t o = (L o).depth t := by
  have bal := h.balanced o
  unfold depth
  by_cases own : (L o).owner? = some t
  · rw [h.firstLevels_eq own, countP_again]
    cases eq : L o with
    | unlocked =>
      rw [eq] at own
      cases own
    | owned u d q =>
      rw [eq] at own bal
      obtain rfl := Option.some.inj own
      exact bal.2.1.trans (if_pos rfl).symm
  · rw [h.countP_eq_zero own, firstLevels_eq_zero fun held => own (h.holds_iff.1 held)]
    cases eq : L o with
    | unlocked => rfl
    | owned u d q =>
      rw [eq] at own
      exact (if_neg fun same => own (congrArg some same)).symm

end StackLocking

namespace Machine

/-- How often a thread has entered an object and has yet to exit it, `p` being the pending enters. -/
def levels (m : Machine) (p : Pending) (t : ThreadId) (o : ObjectId) : Nat :=
  if m.options.mode = .lightweight then m.depth t o else StackLocking.depth m p t o

/-- An exit of `o` by thread `t` gives one level back, where `p` are the pending enters before and
`p'` those after it. The last exit passes the object on to the thread that has waited longest. -/
structure GivesBack (m : Machine) (p : Pending) (t : ThreadId) (o : ObjectId) (p' : Pending)
    (n : Machine) : Prop where
  level : n.levels p' t o + 1 = m.levels p t o
  next : ∀ u, u ≠ t → n.levels p' u o =
    if n.levels p' t o = 0 ∧ (m.waiting o).head? = some u then 1 else 0
  elsewhere : ∀ u q, q ≠ o → n.levels p' u q = m.levels p u q

end Machine

namespace LockView

variable {m : Machine} {L : Locks} {p : Pending} {t : ThreadId} {o : ObjectId} {id : MonitorId}

/-- The monitor of an object is the one of its form. -/
lemma Coherent.monitorOf?_iff (h : m.view.Coherent) :
    m.monitorOf? o = some id ↔ m.form o = .inflated id := by
  by_cases mode : m.options.mode = .lightweight
  · exact FastLocking.monitorOf?_iff (h.fast mode) id
  · have h := h.stack mode
    have leads : m.monitorOf? o = (m.mark o).monitor? := by
      unfold Machine.monitorOf? Locking.readMonitor?
      rw [if_neg mode]
      rfl
    rw [leads]
    cases hk : m.mark o with
    | record b =>
      rw [StackLocking.form_record h hk]
      exact ⟨nofun, nofun⟩
    | monitor id' =>
      rw [StackLocking.form_monitor h hk]
      exact ⟨fun eq => congrArg _ (Option.some.inj eq),
        fun eq => congrArg some (Form.inflated.inj eq)⟩
    | word w =>
      rw [(StackLocking.form_word h hk).2]
      exact ⟨nofun, nofun⟩

/-- A view that stands for locks is coherent. -/
lemma Refines.coherent (h : m.view.Refines L p) : m.view.Coherent :=
  ⟨fun mode => (h.fast mode).coherent, fun mode => (h.stack mode).coherent⟩

/-- The waiting threads are those of the recursive lock. -/
lemma Refines.waiting_eq (h : m.view.Refines L p) : m.waiting o = (L o).waiting := by
  rw [h.waiting o]
  unfold Machine.waiting
  cases leads : m.monitorOf? o with
  | some id =>
    rw [show m.view.form o = _ from h.coherent.monitorOf?_iff.1 leads]
    rfl
  | none =>
    cases form : m.view.form o with
    | inflated id => cases leads.symm.trans (h.coherent.monitorOf?_iff.2 form)
    | _ => rfl

/-- The levels of a thread are the depth of the recursive lock. -/
lemma Refines.levels_eq (h : m.view.Refines L p) : m.levels p t o = (L o).depth t := by
  unfold Machine.levels
  split
  next mode =>
    have h := h.fast mode
    exact (h.represents o).depth_eq h.coherent t
  next mode => exact (h.stack mode).depth_eq

end LockView

namespace World

variable {address : RecordId → UInt64} {s : World} {h : List Event} {L : Locks} {w : WorkerId}
  {t : ThreadId} {o : ObjectId} {r : RecordId} {rest : List (ObjectId × RecordId)}

/-- An exit of the latest enter of a thread succeeds and gives one level back. -/
lemma exit_givesBack (k : s.view.Tracks address h L) (ht : (s.worker w).thread = some t)
    (free : (s.worker w).wait = none) (latest : pending h t = (o, r) :: rest) (raw : Bool) :
    ∃ n, s.move (.act w (.exit o r raw)) = ({ s with machine := n }, .answered .done) ∧
      s.machine.GivesBack (pending h) t o (Event.pend (pending h) (.exited t o r)) n := by
  let m := s.machine.counted raw t
  have view : m.view = s.machine.view := Machine.view_counted ..
  have refines : m.view.Refines L (pending h) := view ▸ k.refines
  have attached : t < m.view.nextThread := view ▸ k.sound.lt ht
  have awake := k.awake ht (waitsFor_of_wait free)
  have nested : Nested (pending h t) (.exit o r) := ⟨rest, latest⟩
  have event {e : Event} {n : Machine} (of : e.Of t (.exit o r))
      (c : Steps (Locking.Change m.options.mode t (.exit o r)) m.view (some e) n.view) :=
    refines.event attached awake (fun _ => nested) nested.inReverse trivial c
      ((k.distinct.pend of trivial).length_le t)
  have follows := Locking.exit_follows (m := m) (t := t) (o := o) (r := r) (view ▸ k.sound.coherent)
  rw [move_act free, begin_exit ht]
  cases exits : Locking.exit m t o r with
  | ok _ n =>
    rw [exits] at follows
    refine ⟨n, conclude_ok exits _, ?_⟩
    obtain ⟨L', applies, refines'⟩ := event .exited follows
    obtain ⟨y, passes, rfl⟩ := Option.map_eq_some_iff.1 applies
    have levels (u : ThreadId) (q : ObjectId) : s.machine.levels (pending h) u q = (L q).depth u :=
      LockView.Refines.levels_eq (m := s.machine) k.refines
    have levels' (u : ThreadId) (q : ObjectId) :
        n.levels (Event.pend (pending h) (.exited t o r)) u q =
          (Function.update L o y q).depth u := refines'.levels_eq
    have here (u : ThreadId) :
        n.levels (Event.pend (pending h) (.exited t o r)) u o = y.depth u := by
      rw [levels', Function.update_self]
    -- The thread has the enter pending, so that it owns the object.
    obtain ⟨d, q, own⟩ := (k.refines.balanced o).owner
      (mem_recordsOf.2 (latest ▸ List.mem_cons_self)) (awake o)
    have held : 0 < (L o).depth t := by
      have bal := k.refines.balanced o
      rw [own] at bal ⊢
      rw [RecursiveLock.depth, if_pos rfl]
      exact bal.1
    obtain ⟨level, next⟩ := RecursiveLock.depth_exit held (awake o) passes
    refine ⟨?_, fun u ne => ?_, fun u q ne => ?_⟩
    · rw [here, levels, level, Nat.sub_add_cancel held]
    · rw [here, here, LockView.Refines.waiting_eq (m := s.machine) k.refines]
      exact next u ne
    · rw [levels', levels, Function.update_of_ne ne]
  | fault f n =>
    rw [exits] at follows
    obtain ⟨L', applies, -⟩ := event .rejected follows
    cases applies

end World

end ObjectLocks
