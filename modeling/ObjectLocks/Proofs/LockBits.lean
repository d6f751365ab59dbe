import ObjectLocks.Proofs.Retention
import ObjectLocks.Proofs.Runs
import ObjectLocks.Proofs.StackLocking.Headers

/-!
# The lock bits of headers

Every mode has its own headers: with fast-locking they are words that are locked or not, without it
an unlocked word or the address of a lock record, and in all modes an inflated header. No operation
leaves another one behind, also if lock records are used for several locks at once. Which headers
have the monitor bits changes when an object is inflated, and by nothing else.
-/

namespace ObjectLocks

/-- A mark that the header of an object may have in a mode. -/
def Mark.Suits (mode : LockingMode) : Mark → Prop
  | word w => if mode = .lightweight then w.bits ≠ .marked else w.bits = .unlocked
  | record _ => mode = .legacy
  | monitor _ => True

namespace Mark

variable {mode : LockingMode} {k : Mark} {w : LockWord}

/-- Fast-locking has words with any bits but the monitor bits. -/
lemma suits_word (fast : mode = .lightweight) : (word w).Suits mode ↔ w.bits ≠ .marked :=
  .of_eq (if_pos fast)

/-- Without fast-locking a word is an unlocked one. -/
lemma suits_plain (stack : mode ≠ .lightweight) : (word w).Suits mode ↔ w.bits = .unlocked :=
  .of_eq (if_neg stack)

/-- Words with the same lock bits suit the same modes. -/
lemma Suits.congr {w' : LockWord} (h : (word w).Suits mode) (bits : w'.bits = w.bits) :
    (word w').Suits mode := by
  simp only [Suits] at h ⊢
  rwa [bits]

end Mark

namespace Machine

/-- The headers are those of the mode, and so is what comes back out of a lock record. -/
structure WellTagged (m : Machine) : Prop where
  suits : ∀ o, (m.mark o).Suits m.options.mode
  displaced : ∀ r, (m.record r).displaced = .unused ∨ (m.record r).isRecursive = true ∨
    (m.record r).displaced.bits = .unlocked

/-- What an operation does to the lock bits: the object `x`, if any, may get the monitor bits or
lose them, and no other. -/
structure Retags (x : Option ObjectId) (m n : Machine) : Prop where
  tagged : n.WellTagged
  options : n.options = m.options
  bits : ∀ o, x ≠ some o → (n.mark o).hasMonitor = (m.mark o).hasMonitor

variable {m n k : Machine} {x : Option ObjectId} {t : ThreadId} {o : ObjectId} {r : RecordId}
  {id : MonitorId}

namespace Retags

/-- A machine that does not change keeps all monitor bits. -/
lemma refl (h : m.WellTagged) : m.Retags x m := ⟨h, rfl, fun _ _ => rfl⟩

/-- Two changes of the monitor bits of one object are one change of them. -/
lemma trans (h : m.Retags x n) (h' : n.Retags x k) : m.Retags x k where
  tagged := h'.tagged
  options := h'.options.trans h.options
  bits o other := (h'.bits o other).trans (h.bits o other)

/-- An operation that changes no monitor bits leaves those of every object. -/
lemma allBits (h : m.Retags none n) (o : ObjectId) :
    (n.mark o).hasMonitor = (m.mark o).hasMonitor := h.bits o (Option.some_ne_none o).symm

/-- What changes no header and no displaced one changes no monitor bits. -/
lemma of_same (h : m.WellTagged) (options : n.options = m.options) (mark : n.mark = m.mark)
    (displaced : ∀ r, (n.record r).displaced = (m.record r).displaced) : m.Retags x n := by
  refine ⟨⟨fun o => ?_, fun r => ?_⟩, options, fun o _ => by rw [mark]⟩
  · rw [mark, options]
    exact h.suits o
  · unfold LockRecord.isRecursive
    rw [displaced]
    exact h.displaced r

end Retags

namespace WellTagged

variable (h : m.WellTagged)
include h

/-- What touches neither objects nor lock records. -/
lemma retags_locks (options : n.options = m.options) (heap : n.heap = m.heap)
    (records : n.records = m.records) : m.Retags x n := by
  refine .of_same h options (funext fun o => ?_) fun r => ?_
  · unfold mark Machine.object
    rw [heap]
  · unfold record
    rw [records]

/-- A header is replaced by one of the mode. -/
lemma retags_setMark {j : Mark} (suits : j.Suits m.options.mode)
    (bits : x ≠ some o → j.hasMonitor = (m.mark o).hasMonitor) : m.Retags x (m.setMark o j) := by
  have mark (p : ObjectId) : (m.setMark o j).mark p = if p = o then j else m.mark p := by
    rw [mark_setMark, Function.update_apply]
  refine ⟨⟨fun p => ?_, h.displaced⟩, rfl, fun p other => ?_⟩
  · rw [mark]
    split
    · exact suits
    · exact h.suits p
  · rw [mark]
    split
    next eq => exact (bits (eq ▸ other)).trans (by rw [eq])
    next => rfl

/-- A header that is a word keeps its lock bits. -/
lemma retags_setHash {w w' : LockWord} (hk : m.mark o = .word w) (bits : w'.bits = w.bits) :
    m.Retags x (m.setMark o (.word w')) := by
  have suits := h.suits o
  rw [hk] at suits
  refine h.retags_setMark (suits.congr bits) fun _ => ?_
  rw [hk]
  exact congrArg (· == .monitor) bits

/-- A lock record may be changed if nothing but an unlocked word can come back out of it. -/
lemma retags_modifyRecord {f : LockRecord → LockRecord}
    (displaced : (f (m.record r)).displaced = .unused ∨ (f (m.record r)).isRecursive = true ∨
      (f (m.record r)).displaced.bits = .unlocked) : m.Retags x (m.modifyRecord r f) := by
  refine ⟨⟨h.suits, fun q => ?_⟩, rfl, fun _ _ => rfl⟩
  rw [record_modifyRecord, Function.update_apply]
  split
  · exact displaced
  · exact h.displaced q

/-- Clearing or filling a cache changes no monitor bits. -/
lemma retags_setCache (r : RecordId) (c : Option MonitorId) : m.Retags x (m.setCache r c) :=
  h.retags_modifyRecord (h.displaced r)

/-- A new record has no header to give back. -/
lemma retags_addRecord (w : WorkerId) : m.Retags x (m.addRecord w).2 := by
  refine ⟨⟨h.suits, fun q => ?_⟩, rfl, fun _ _ => rfl⟩
  have record : (m.addRecord w).2.record = Function.update m.record m.records.size (.fresh w) :=
    Store.get_push ..
  rw [record, Function.update_apply]
  split
  · exact .inl rfl
  · exact h.displaced q

/-- A change next to the locks changes no monitor bits. -/
lemma retags_aside (same : m.Aside n) : m.Retags x n :=
  h.retags_locks same.options same.heap same.records

/-- A change of an object that leaves its header alone changes no monitor bits. -/
lemma retags_modifyObject {f : Object → Object} (same : ∀ y, (f y).mark = y.mark) :
    m.Retags x (m.modifyObject o f) := by
  refine .of_same h rfl (funext fun p => ?_) fun _ => rfl
  show ((m.heap.modify o f).get p).mark = _
  rw [Store.modify, Store.get_set, Function.update_apply]
  split
  next eq => rw [same, eq]; rfl
  next => rfl

/-- A new object has the header that its number had before. -/
lemma retags_allocate (label : String) (c : Class) : m.Retags x (m.allocate label c) := by
  refine .of_same h rfl (funext fun p => ?_) fun _ => rfl
  show ((m.heap.push (.new label c)).get p).mark = _
  rw [Store.get_push, Function.update_apply]
  split
  next eq =>
    subst eq
    exact (congrArg Object.mark (Store.get_size m.heap)).symm
  next => rfl

end WellTagged

end Machine

namespace Outcome

variable {α β : Type} {m n : Machine} {x : Option ObjectId}

/-- An operation changes the lock bits of no other object, however it ends. -/
def Retags (x : Option ObjectId) (m : Machine) (y : Outcome α) : Prop := m.Retags x y.machine

/-- A change of the monitor bits of an object may come before an operation that changes no other
ones. -/
lemma Retags.after {y : Outcome α} (h : y.Retags x n) (first : m.Retags x n) : y.Retags x m :=
  first.trans h

/-- An operation changes the monitor bits of one object only, if its first part does and whatever
follows does. -/
lemma Retags.bind {y : Outcome α} {f : α → Machine → Outcome β} (h : y.Retags x m)
    (next : ∀ a n, y = .ok a n → n.WellTagged → (f a n).Retags x n) : (y.bind f).Retags x m := by
  cases y with
  | ok a n => exact (next a n rfl h.tagged).after h
  | fault c n => exact h

/-- What an operation answers has no part in the monitor bits. -/
lemma Retags.map {y : Outcome α} (h : y.Retags x m) (f : α → β) : (y.map f).Retags x m := by
  cases y <;> exact h

end Outcome

namespace Machine.WellTagged

variable {m : Machine} {x : Option ObjectId} {t : ThreadId} {o : ObjectId} {r : RecordId}
  {id : MonitorId} (h : m.WellTagged)
include h

/-- Rejecting an exit changes no monitor bits. -/
lemma illegalExit_retags : (m.illegalExit t o).Retags x m := h.retags_locks rfl rfl rfl

/-- Putting an object on the lock stack changes no monitor bits. -/
lemma pushObject_retags : (m.pushObject t o).Retags x m := by
  unfold pushObject
  split <;> exact h.retags_locks rfl rfl rfl

/-- Registering a lock record changes no monitor bits. -/
lemma pushRecord_retags : (m.pushRecord t r).Retags x m := by
  unfold pushRecord
  split <;> exact h.retags_locks rfl rfl rfl

/-- Entering a monitor changes no monitor bits. -/
lemma enterMonitor_retags : (m.enterMonitor t id).Retags x m := by
  unfold enterMonitor checkSafepoint
  dsimp only
  split
  · exact h.retags_locks rfl rfl rfl
  · split <;> exact h.retags_locks rfl rfl rfl

/-- Trying to enter a monitor changes no monitor bits. -/
lemma tryEnterMonitor_retags : (m.tryEnterMonitor t id).Retags x m := by
  unfold tryEnterMonitor
  split <;> exact h.retags_locks rfl rfl rfl

/-- Exiting a monitor changes no monitor bits. -/
lemma exitMonitor_retags : (m.exitMonitor t id).Retags x m := by
  unfold exitMonitor
  split <;> exact h.retags_locks rfl rfl rfl

/-- Claiming a monitor changes no monitor bits. -/
lemma claimMonitor_retags (c : UInt64) : (m.claimMonitor t id c).Retags x m := by
  unfold claimMonitor
  split <;> exact h.retags_locks rfl rfl rfl

/-- Asking a monitor for its hash changes no monitor bits. -/
lemma monitorHash_retags : m.Retags x (m.monitorHash t id).2 := by
  unfold monitorHash
  dsimp only
  split <;> exact h.retags_locks rfl rfl rfl

end Machine.WellTagged

namespace FastLocking

open Machine

variable {m : Machine} {x : Option ObjectId} {t : ThreadId} {o : ObjectId} {r : RecordId}
  {id : MonitorId}

/-- The lock bits of a header change to those of the mode. -/
lemma retags_setBits (h : m.WellTagged) (mode : m.options.mode = .lightweight) {b : LockBits}
    (other : b ≠ .marked) (bits : x ≠ some o → b ≠ .monitor ∧ (m.mark o).hasMonitor = false) :
    m.Retags x (m.setMark o ((m.mark o).mapWord (·.withBits b))) := by
  have suits := h.suits o
  refine h.retags_setMark ?_ fun ne => ?_
  · cases hk : m.mark o with
    | word w =>
      refine (Mark.suits_word mode).2 ?_
      rw [LockWord.bits_withBits]
      exact other
    | record r =>
      rw [hk] at suits
      cases mode.symm.trans suits
    | monitor id => trivial
  · obtain ⟨plain, free⟩ := bits ne
    rw [free]
    cases hk : m.mark o with
    | word w =>
      show ((w.withBits b).bits == .monitor) = false
      rw [LockWord.bits_withBits]
      exact beq_eq_false_iff_ne.2 plain
    | record r => rfl
    | monitor id =>
      rw [hk] at free
      cases free

/-- Taking entries off the lock stack for a monitor changes no monitor bits. -/
lemma transfer_retags (h : m.WellTagged) (owner : Owner) : m.Retags x (transfer m t o owner) := by
  unfold transfer
  split <;> exact h.retags_locks rfl rfl rfl

/-- An inline inflation changes the monitor bits of its own object only. -/
lemma inflateInline_retags (h : m.WellTagged) (cause : InflationCause) :
    (inflateInline m t o cause).Retags (some o) m := by
  unfold inflateInline
  dsimp only
  split
  next => exact Machine.Retags.refl h
  next =>
    rcases ownerAs m t o (m.mark o) with ⟨owner, c⟩
    dsimp only
    generalize hx : ({ (Monitor.new o).ownedBy owner c with header := _ } : Monitor) = y
    have added : m.Retags (some o) (m.addMonitor y).2 := h.retags_locks rfl rfl rfl
    have marked : (m.addMonitor y).2.Retags (some o)
        ((m.addMonitor y).2.setMark o (.monitor (m.addMonitor y).1)) :=
      added.tagged.retags_setMark trivial fun ne => absurd rfl ne
    have moved := transfer_retags (x := some o) (t := t) (o := o) marked.tagged owner
    exact ((added.trans marked).trans moved).trans (moved.tagged.retags_locks rfl rfl rfl)

/-- Finding or making a monitor in the table changes no monitor bits. -/
lemma tableMonitor_retags (h : m.WellTagged) (o : ObjectId) : m.Retags x (tableMonitor m o).2 := by
  unfold tableMonitor
  split <;> exact h.retags_locks rfl rfl rfl

/-- An inflation into the table changes the monitor bits of its own object only. -/
lemma inflateIntoTable_retags (h : m.WellTagged) (mode : m.options.mode = .lightweight)
    (cause : InflationCause) : (inflateIntoTable m t o cause).Retags (some o) m := by
  have found := tableMonitor_retags (x := some o) h o
  unfold inflateIntoTable
  generalize tableMonitor m o = made at found ⊢
  obtain ⟨id, n⟩ := made
  refine Outcome.Retags.after ?_ found
  replace mode : n.options.mode = .lightweight := found.options ▸ mode
  replace found : n.WellTagged := found.tagged
  dsimp only
  split
  next => exact Machine.Retags.refl found
  next =>
    rcases ownerAs n t o (n.mark o) with ⟨owner, c⟩
    dsimp only
    generalize hl : (if (n.mark o).isFastLocked = true then _ else n) = l
    have owned : n.Retags (some o) l := by
      rw [← hl]
      split <;> exact found.retags_locks rfl rfl rfl
    have mark : l.mark o = n.mark o := by
      rw [← hl]
      split <;> rfl
    have marked := retags_setBits (x := some o) (o := o) owned.tagged (owned.options ▸ mode)
      (b := .monitor) nofun fun ne => absurd rfl ne
    rw [mark] at marked
    have moved := transfer_retags (x := some o) (t := t) (o := o) marked.tagged owner
    exact ((owned.trans marked).trans moved).trans (moved.tagged.retags_locks rfl rfl rfl)

/-- An inflation of fast-locking changes the monitor bits of its own object only. -/
lemma inflate_retags (h : m.WellTagged) (mode : m.options.mode = .lightweight)
    (cause : InflationCause) : (inflate m t o cause).Retags (some o) m := by
  unfold inflate
  split
  · exact inflateIntoTable_retags h mode cause
  · exact inflateInline_retags h cause

/-- A claim changes no monitor bits. -/
lemma claim_retags (h : m.WellTagged) : (claim m t o id).Retags x m := by
  have dropped : m.Retags x (m.dropObject t o) := h.retags_locks rfl rfl rfl
  unfold claim
  dsimp only
  split
  · exact dropped
  · exact (dropped.tagged.claimMonitor_retags _).after dropped

/-- Clearing a cache changes no monitor bits. -/
lemma clearCache_retags (h : m.WellTagged) (r : RecordId) : m.Retags x (clearCache m r) := by
  unfold clearCache
  split
  · exact h.retags_setCache r none
  · exact .refl h

/-- Filling a cache changes no monitor bits. -/
lemma fillCache_retags (h : m.WellTagged) (r : RecordId) (id : MonitorId) :
    m.Retags x (fillCache m r id) := by
  unfold fillCache
  split
  · exact h.retags_setCache r _
  · exact .refl h

/-- What is left of an enter once the object has a monitor. -/
lemma enterClaimed_retags (h : m.WellTagged) (id : MonitorId) :
    ((if (m.monitor id).hasAnonymousOwner && (m.lockStack t).contains o then claim m t o id
      else .ok () m).bind fun _ m => (fillCache m r id).enterMonitor t id).Retags x m := by
  refine Outcome.Retags.bind ?_ fun _ n _ h' => ?_
  · split
    · exact claim_retags h
    · exact Machine.Retags.refl h
  · have filled := fillCache_retags (x := x) h' r id
    exact filled.tagged.enterMonitor_retags.after filled

/-- An enter through a monitor changes the monitor bits of its own object only. -/
lemma enterInflated_retags (h : m.WellTagged) (mode : m.options.mode = .lightweight)
    (cause : InflationCause) : (enterInflated m t o r cause).Retags (some o) m :=
  (inflate_retags h mode cause).bind fun id _ _ h' => enterClaimed_retags h' id

/-- A fast lock is a header of fast-locking without the monitor bits. -/
lemma lockFast_retags (h : m.WellTagged) (mode : m.options.mode = .lightweight)
    (unlocked : (m.mark o).isUnlocked = true) : (lockFast m t o).Retags x m := by
  have free : (m.mark o).hasMonitor = false := by
    unfold Mark.hasMonitor
    rw [beq_iff_eq.1 unlocked]
    rfl
  have locked := retags_setBits (x := x) h mode (b := .locked) nofun fun _ => ⟨nofun, free⟩
  exact locked.tagged.pushObject_retags.after locked

/-- An enter of fast-locking changes the monitor bits of its own object only. -/
lemma enter_retags (h : m.WellTagged) (mode : m.options.mode = .lightweight) :
    (enter m t o r).Retags (some o) m := by
  have cleared := clearCache_retags (x := some o) h r
  unfold enter
  dsimp only
  generalize clearCache m r = n at cleared
  have mode' : n.options.mode = .lightweight := cleared.options ▸ mode
  refine Outcome.Retags.after ?_ cleared
  split
  next => exact cleared.tagged.retags_locks rfl rfl rfl
  next =>
    split
    next => exact enterInflated_retags cleared.tagged mode' _
    next =>
      split
      next free => exact (lockFast_retags cleared.tagged mode' free.2).map _
      next => exact enterInflated_retags cleared.tagged mode' _

/-- A quick enter of fast-locking changes no monitor bits. -/
lemma quickEnter_retags (h : m.WellTagged) (mode : m.options.mode = .lightweight) :
    (quickEnter m t o r).Retags x m := by
  have cleared := clearCache_retags (x := x) h r
  unfold quickEnter
  dsimp only
  generalize clearCache m r = n at cleared
  have mode' : n.options.mode = .lightweight := cleared.options ▸ mode
  refine Outcome.Retags.after ?_ cleared
  split
  next => exact cleared.tagged.retags_locks rfl rfl rfl
  next =>
    split
    next unlocked =>
      split
      next => exact Machine.Retags.refl cleared.tagged
      next => exact (lockFast_retags cleared.tagged mode' unlocked).map _
    next =>
      split
      next id _ =>
        refine cleared.tagged.tryEnterMonitor_retags.bind fun entered k _ h' => ?_
        show k.Retags x _
        split
        · exact fillCache_retags h' r id
        · exact .refl h'
      next => exact Machine.Retags.refl cleared.tagged

/-- An exit of an inflated object changes no monitor bits. -/
lemma exitInflated_retags (h : m.WellTagged) : (exitInflated m t o id).Retags x m := by
  unfold exitInflated
  dsimp only
  refine Outcome.Retags.bind ?_ fun _ n _ h' => ?_
  · split
    · split
      · exact claim_retags h
      · exact h.illegalExit_retags
    · exact Machine.Retags.refl h
  · split
    · exact h'.exitMonitor_retags
    · exact h'.illegalExit_retags

/-- An exit of fast-locking changes no monitor bits. -/
lemma exit_retags (h : m.WellTagged) (mode : m.options.mode = .lightweight) :
    (exit m t o r).Retags x m := by
  unfold exit
  split
  next => exact h.retags_locks rfl rfl rfl
  next =>
    dsimp only
    split
    next held =>
      have fast := (Bool.and_eq_true_iff.1 held).2
      have free : (m.mark o).hasMonitor = false := by
        unfold Mark.hasMonitor
        rw [beq_iff_eq.1 fast]
        rfl
      have unlocked := retags_setBits (x := x) h mode (b := .unlocked) (by decide) fun _ =>
        ⟨by decide, free⟩
      exact unlocked.trans (unlocked.tagged.retags_locks rfl rfl rfl)
    next =>
      split
      next => exact exitInflated_retags h
      next => exact h.illegalExit_retags

/-- The identity hash of fast-locking changes no monitor bits. -/
lemma identityHash_retags (h : m.WellTagged) : (identityHash m t o).Retags x m := by
  unfold identityHash
  split
  next => exact h.monitorHash_retags
  next w hk =>
    split
    next => exact Machine.Retags.refl h
    next =>
      have drawn : m.Retags x (m.drawHash t).2 := h.retags_locks rfl rfl rfl
      exact drawn.trans (drawn.tagged.retags_setHash (show (m.drawHash t).2.mark o = _ from hk)
        (LockWord.bits_withHash w _))
  next => exact Machine.Retags.refl h

end FastLocking

namespace StackLocking

open Machine

variable {m : Machine} {x : Option ObjectId} {t : ThreadId} {o : ObjectId} {r : RecordId}
  {id : MonitorId}

/-- Dropping a record changes no monitor bits. -/
lemma dropRecord_retags (h : m.WellTagged) : m.Retags x (m.dropRecord t r) :=
  h.retags_locks rfl rfl rfl

/-- A monitor is installed in the header of its own object. -/
lemma install_retags (h : m.WellTagged) {y : Monitor} (own : y.object = o) :
    m.Retags (some o) (install m y).2 := by
  have added : m.Retags (some o) (m.addMonitor y).2 := h.retags_locks rfl rfl rfl
  have marked : (m.addMonitor y).2.Retags (some o)
      ((m.addMonitor y).2.setMark y.object (.monitor (m.addMonitor y).1)) :=
    added.tagged.retags_setMark trivial fun ne => absurd (congrArg some own.symm) ne
  exact (added.trans marked).trans (marked.tagged.retags_locks rfl rfl rfl)

/-- An inflation of stack-locking changes the monitor bits of its own object only. -/
lemma inflate_retags (h : m.WellTagged) (cause : InflationCause) :
    (inflate m t o cause).Retags (some o) m := by
  unfold inflate
  split
  next => exact Machine.Retags.refl h
  next q _ =>
    have installed := install_retags (o := o) h (y := { (Monitor.new o).ownedBy
      (.ofThread? (m.record q).owner) 0 with header := (m.record q).displaced }) rfl
    exact installed.trans (installed.tagged.retags_locks rfl rfl rfl)
  next w _ =>
    split
    next =>
      have installed := install_retags (o := o) h (y := { Monitor.new o with header := w }) rfl
      exact installed.trans (installed.tagged.retags_locks rfl rfl rfl)
    next => exact Machine.Retags.refl h

/-- A stack lock is a header of stack-locking without the monitor bits. -/
lemma tryStackLock_retags (h : m.WellTagged) (mode : m.options.mode = .legacy) :
    (tryStackLock m t o r).Retags x m := by
  unfold tryStackLock
  split
  next w hk =>
    split
    next unlocked =>
      split
      next => exact Machine.Retags.refl h
      next =>
        have kept : m.Retags x (m.modifyRecord r fun y => y.lockedOver w t) :=
          h.retags_modifyRecord (.inr (.inr (beq_iff_eq.1 unlocked)))
        have locked := kept.tagged.retags_setMark (x := x) (o := o) (j := .record r) mode
          fun _ => by
          show false = (m.mark o).hasMonitor
          rw [hk]
          exact (LockWord.hasMonitor_of_isUnlocked unlocked).symm
        have first := kept.trans locked
        exact (first.tagged.pushRecord_retags.after first).map _
    next => exact Machine.Retags.refl h
  next =>
    split
    next =>
      split
      next => exact Machine.Retags.refl h
      next =>
        have kept : m.Retags x (m.modifyRecord r fun y => y.lockedAgain t) :=
          h.retags_modifyRecord (.inr (.inl rfl))
        exact (kept.tagged.pushRecord_retags.after kept).map _
    next => exact Machine.Retags.refl h
  next => exact Machine.Retags.refl h

/-- A record that a monitor stands for has nothing to give back. -/
lemma throughMonitor_retags (h : m.WellTagged) (r : RecordId) :
    m.Retags x (m.modifyRecord r .throughMonitor) := h.retags_modifyRecord (.inl rfl)

/-- An enter through a monitor changes the monitor bits of its own object only. -/
lemma enterInflated_retags (h : m.WellTagged) (cause : InflationCause) :
    (enterInflated m t o r cause).Retags (some o) m := by
  have first := throughMonitor_retags (x := some o) h r
  refine Outcome.Retags.after ?_ first
  exact (inflate_retags first.tagged cause).bind fun id n _ h' => h'.enterMonitor_retags

/-- An enter of stack-locking changes the monitor bits of its own object only. -/
lemma enter_retags (h : m.WellTagged) (mode : m.options.mode ≠ .lightweight) :
    (enter m t o r).Retags (some o) m := by
  unfold enter
  split
  next => exact enterInflated_retags h _
  next light =>
    refine (tryStackLock_retags h (legacy_of_ne mode light)).bind fun refusal n _ h' => ?_
    cases refusal with
    | none => exact Machine.Retags.refl h'
    | some cause => exact enterInflated_retags h' cause

/-- A quick enter of stack-locking changes no monitor bits. -/
lemma quickEnter_retags (h : m.WellTagged) : (quickEnter m t o r).Retags x m := by
  unfold quickEnter
  split
  next =>
    refine h.tryEnterMonitor_retags.bind fun entered n _ h' => ?_
    show n.Retags x _
    split
    · exact throughMonitor_retags h' r
    · exact .refl h'
  next => exact Machine.Retags.refl h
  next => exact Machine.Retags.refl h

/-- An exit of an inflated object changes no monitor bits. -/
lemma exitInflated_retags (h : m.WellTagged) : (exitInflated m t o r).Retags x m := by
  have dropped := dropRecord_retags (x := x) (t := t) (r := r) h
  unfold exitInflated
  dsimp only
  refine Outcome.Retags.after ?_ dropped
  split
  next =>
    split
    · exact dropped.tagged.exitMonitor_retags
    · exact dropped.tagged.illegalExit_retags
  next => exact dropped.tagged.illegalExit_retags
  next => exact dropped.tagged.illegalExit_retags

/-- A header that comes back is an unlocked word, whichever lock it was displaced for. -/
lemma exit_retags (h : m.WellTagged) (mode : m.options.mode ≠ .lightweight) :
    (exit m t o r).Retags x m := by
  unfold exit
  dsimp only
  split
  next => exact exitInflated_retags h
  next =>
    split
    next =>
      split
      · exact dropRecord_retags h
      · exact h.illegalExit_retags
    next first =>
      split
      next locked =>
        have bits : (m.record r).displaced.bits = .unlocked :=
          ((h.displaced r).resolve_left locked.1).resolve_left first
        have suits := (Mark.suits_plain mode).2 bits
        have restored := h.retags_setMark (x := x) (o := o) suits fun _ => by
          rw [locked.2]
          exact LockWord.hasMonitor_of_isUnlocked (beq_iff_eq.2 bits)
        exact restored.trans (dropRecord_retags restored.tagged)
      next => exact exitInflated_retags h

/-- A hash that needs a monitor changes the monitor bits of its own object only. -/
lemma hashInflated_retags (h : m.WellTagged) (cause : InflationCause) :
    ((inflate m t o cause).bind fun id m =>
      .ok (m.monitorHash t id).1 (m.monitorHash t id).2).Retags (some o) m :=
  (inflate_retags h cause).bind fun _ _ _ h' => h'.monitorHash_retags

/-- The identity hash of stack-locking changes the monitor bits of its own object only. -/
lemma identityHash_retags (h : m.WellTagged) : (identityHash m t o).Retags (some o) m := by
  unfold identityHash
  split
  next w hk =>
    split
    next =>
      split
      next => exact Machine.Retags.refl h
      next =>
        have drawn : m.Retags (some o) (m.drawHash t).2 := h.retags_locks rfl rfl rfl
        exact drawn.trans (drawn.tagged.retags_setHash (show (m.drawHash t).2.mark o = _ from hk)
          (LockWord.bits_withHash w _))
    next => exact hashInflated_retags h _
  next => exact h.monitorHash_retags
  next =>
    dsimp only
    split
    next => exact Machine.Retags.refl h
    next => exact hashInflated_retags h _

end StackLocking

namespace Machine.WellTagged

variable {m n : Machine} {x : Option ObjectId} {t : ThreadId} {o : ObjectId} {r : RecordId}
  (h : m.WellTagged)
include h

/-- An enter changes the monitor bits of its own object only, in every mode. -/
lemma enter_retags : (Locking.enter m t o r).Retags (some o) m := by
  unfold Locking.enter
  split
  next mode => exact FastLocking.enter_retags h mode
  next mode => exact StackLocking.enter_retags h mode

/-- A quick enter changes no monitor bits, in every mode. -/
lemma quickEnter_retags : (Locking.quickEnter m t o r).Retags x m := by
  unfold Locking.quickEnter
  split
  next mode => exact FastLocking.quickEnter_retags h mode
  next => exact StackLocking.quickEnter_retags h

/-- An exit changes no monitor bits, in every mode. -/
lemma exit_retags : (Locking.exit m t o r).Retags x m := by
  unfold Locking.exit
  split
  next mode => exact FastLocking.exit_retags h mode
  next mode => exact StackLocking.exit_retags h mode

/-- An inflation changes the monitor bits of its own object only, in every mode. -/
lemma inflate_retags (cause : InflationCause) :
    (Locking.inflate m t o cause).Retags (some o) m := by
  unfold Locking.inflate
  split
  next mode => exact FastLocking.inflate_retags h mode cause
  next => exact StackLocking.inflate_retags h cause

/-- An identity hash changes the monitor bits of its own object only, in every mode. -/
lemma identityHash_retags : (m.identityHash t o).Retags (some o) m := by
  unfold identityHash
  split
  next => exact FastLocking.identityHash_retags h
  next => exact StackLocking.identityHash_retags h

end Machine.WellTagged

/-- Every operation leaves headers of the mode behind. -/
lemma Machine.Works.wellTagged {may : Machine → MonitorId → Prop} {m n : Machine}
    (c : m.Works may n) (h : m.WellTagged) : n.WellTagged := by
  cases c with
  | aside same => exact (h.retags_aside (x := none) same).tagged
  | enter t o r => exact h.enter_retags.tagged
  | quickEnter t o r => exact (h.quickEnter_retags (x := none)).tagged
  | exit t o r => exact (h.exit_retags (x := none)).tagged
  | inflate t o cause => exact (h.inflate_retags cause).tagged
  | identityHash t o => exact h.identityHash_retags.tagged
  | enterMonitor t _ => exact (h.enterMonitor_retags (x := none)).tagged
  | tryEnterMonitor t _ => exact (h.tryEnterMonitor_retags (x := none)).tagged
  | exitMonitor t _ => exact (h.exitMonitor_retags (x := none)).tagged
  | claimMonitor t c _ => exact (h.claimMonitor_retags (x := none) c).tagged
  | monitorHash t _ => exact (h.monitorHash_retags (x := none)).tagged
  | modifyObject o same => exact (h.retags_modifyObject (x := none) same).tagged
  | allocate label c => exact (h.retags_allocate (x := none) label c).tagged
  | addRecord w => exact (h.retags_addRecord (x := none) w).tagged

/-- A new machine has an unlocked word in every header. -/
lemma Machine.wellTagged_new (options : Options) : (Machine.new options).WellTagged := by
  refine ⟨fun o => ?_, fun _ => .inr (.inr (by decide : LockWord.fresh.bits = .unlocked))⟩
  show (Mark.word .fresh).Suits options.mode
  by_cases mode : options.mode = .lightweight
  · exact (Mark.suits_word mode).2 (by decide)
  · exact (Mark.suits_plain mode).2 (by decide)

/-- The headers are those of the mode at any time of any run. -/
lemma Run.wellTagged {rule : Rule} {options : Options} {s : World} {h : List Event}
    (run : Run rule options s h) : s.machine.WellTagged := by
  induction run with
  | new =>
    have new := Machine.wellTagged_new options
    exact ⟨new.suits, new.displaced⟩
  | move run _ ih =>
    exact World.machine_move (R := fun m n => m.WellTagged → n.WellTagged) (fun _ => id)
      (fun first next before => next (first before))
      (fun (works : Machine.Works (fun _ _ => True) _ _) => works.wellTagged)
      (fun _ _ _ _ _ => trivial) ih

end ObjectLocks
