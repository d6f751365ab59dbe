import ObjectLocks.Proofs.Headers
import ObjectLocks.Proofs.Locking
import ObjectLocks.Proofs.Pieces

/-!
# Headers and their monitors

A header with the monitor bits leads to a monitor, by its address or through the table, and the
monitor tells the object that it was made for. Both ways agree for every object and every monitor.
An operation retains that, and with it the monitors that there are, if it changes no header that has
the monitor bits and puts each new monitor where the header of its object then leads.
-/

namespace ObjectLocks

namespace Mark

variable {k : Mark}

/-- A mark without the monitor bits is the address of no monitor. -/
lemma monitor?_eq_none (free : k.hasMonitor = false) : k.monitor? = none := by
  cases k with
  | word _ | record _ => rfl
  | monitor _ => cases free

end Mark

/-- A mark without the monitor bits leads to no monitor. -/
lemma Locking.readMonitor?_eq_none {m : Machine} {o : ObjectId} {k : Mark}
    (free : k.hasMonitor = false) : readMonitor? m o k = none := by
  unfold readMonitor?
  split
  · exact if_neg (by rw [free]; exact nofun)
  · exact Mark.monitor?_eq_none free

namespace LockWord

/-- An unlocked word has no monitor bits. -/
lemma hasMonitor_of_isUnlocked {w : LockWord} (h : w.isUnlocked = true) : w.hasMonitor = false := by
  unfold hasMonitor
  rw [beq_iff_eq.1 h]
  rfl

end LockWord

namespace Machine

/-- The header of an object leads to a monitor if and only if the monitor is the object's. -/
structure WellLinked (m : Machine) : Prop where
  tables : m.options.useTable = true → m.options.mode = .lightweight
  /-- A header without the monitor bits may come back from any record. -/
  displaced : ∀ r, (m.record r).displaced.hasMonitor = false
  plain : m.options.mode = .lightweight → ∀ o r, m.mark o ≠ .record r
  entered : ∀ o id, m.table.get? o = some id → (m.mark o).hasMonitor = true
  shown : ∀ o, (m.mark o).hasMonitor = true → (m.monitorOf? o).isSome = true
  address : ∀ o id, m.mark o = .monitor id → m.monitorOf? o = some id
  linked : ∀ o id, m.monitorOf? o = some id ↔ id < m.monitors.size ∧ (m.monitor id).object = o
  counted : m.monitorCount = m.monitors.size

/-- What an operation keeps: the monitors that there are stay with their objects. -/
structure Retains (m n : Machine) : Prop where
  linked : n.WellLinked
  options : n.options = m.options
  made : m.monitors.size ≤ n.monitors.size
  object : ∀ id, id < m.monitors.size → (n.monitor id).object = (m.monitor id).object

variable {m n k : Machine} {t : ThreadId} {o p : ObjectId} {r : RecordId} {id : MonitorId}

namespace WellLinked

/-- An object without the monitor bits has no monitor. -/
lemma monitorOf?_eq_none (free : (m.mark o).hasMonitor = false) : m.monitorOf? o = none :=
  Locking.readMonitor?_eq_none free

/-- An object that has a monitor has the monitor bits. -/
lemma hasMonitor_of_monitorOf? (h : m.monitorOf? o = some id) : (m.mark o).hasMonitor = true := by
  by_contra free
  rw [monitorOf?_eq_none (Bool.eq_false_iff.2 free)] at h
  cases h

/-- The monitor bits lead to a monitor. -/
lemma hasMonitor_eq_false (h : m.WellLinked) (none : m.monitorOf? o = none) :
    (m.mark o).hasMonitor = false := by
  by_contra has
  have some := h.shown o ((Bool.not_eq_false _).mp has)
  rw [none] at some
  cases some

/-- The monitor of an object has been made. -/
lemma lt (h : m.WellLinked) (leads : m.monitorOf? o = some id) : id < m.monitors.size :=
  ((h.linked o id).1 leads).1

/-- A monitor that somebody owns has been made. -/
lemma lt_of_owner (owned : (m.monitor id).owner ≠ .nobody) : id < m.monitors.size := by
  by_contra unmade
  apply owned
  unfold monitor
  rw [Store.get_eq_default (Nat.le_of_not_lt unmade)]
  rfl

end WellLinked

namespace Retains

/-- A machine that does not change retains its monitors. -/
lemma refl (h : m.WellLinked) : m.Retains m := ⟨h, rfl, Nat.le_refl _, fun _ _ => rfl⟩

/-- Monitors are retained by two changes if both retain them. -/
lemma trans (h : m.Retains n) (h' : n.Retains k) : m.Retains k where
  linked := h'.linked
  options := h'.options.trans h.options
  made := Nat.le_trans h.made h'.made
  object id lt := (h'.object id (Nat.lt_of_lt_of_le lt h.made)).trans (h.object id lt)

/-- An object keeps its monitor. -/
lemma keeps (h : m.Retains n) (before : m.WellLinked) (leads : m.monitorOf? o = some id) :
    n.monitorOf? o = some id := by
  obtain ⟨lt, own⟩ := (before.linked o id).1 leads
  exact (h.linked.linked o id).2 ⟨Nat.lt_of_lt_of_le lt h.made, (h.object id lt).trans own⟩

/-- What leaves headers, monitors and where they are kept alone. -/
lemma of_same (h : m.WellLinked) (options : n.options = m.options) (mark : n.mark = m.mark)
    (table : n.table = m.table) (listed : n.inlineMonitors = m.inlineMonitors)
    (made : n.monitors.size = m.monitors.size)
    (object : ∀ id, (n.monitor id).object = (m.monitor id).object)
    (displaced : ∀ r, (n.record r).displaced.hasMonitor = false) : m.Retains n := by
  have leads (o : ObjectId) : n.monitorOf? o = m.monitorOf? o := by
    unfold monitorOf? Locking.readMonitor? FastLocking.readMonitor?
    rw [options, mark, table]
  refine ⟨⟨options ▸ h.tables, displaced, ?_, ?_, ?_, ?_, fun o id => ?_, ?_⟩, options,
    Nat.le_of_eq made.symm, fun id _ => object id⟩
  · rw [options, mark]
    exact h.plain
  · rw [table, mark]
    exact h.entered
  · intro o
    rw [mark, leads]
    exact h.shown o
  · intro o
    rw [mark, leads]
    exact h.address o
  · rw [leads, made, object]
    exact h.linked o id
  · rw [made, ← h.counted]
    unfold monitorCount
    rw [options, table, listed]

/-- A new mark that leads where the old one did. -/
lemma of_mark (h : m.WellLinked) {j : Mark}
    (plain : m.options.mode = .lightweight → ∀ r, j ≠ .record r) (word : ∀ id, j ≠ .monitor id)
    (bits : j.hasMonitor = (m.mark o).hasMonitor)
    (read : Locking.readMonitor? m o j = m.monitorOf? o) : m.Retains (m.setMark o j) := by
  have mark (p : ObjectId) : (m.setMark o j).mark p = if p = o then j else m.mark p := by
    rw [mark_setMark, Function.update_apply]
  have bits' (p : ObjectId) : ((m.setMark o j).mark p).hasMonitor = (m.mark p).hasMonitor := by
    rw [mark]
    split
    next eq => rw [bits, eq]
    next => rfl
  have leads (p : ObjectId) : (m.setMark o j).monitorOf? p = m.monitorOf? p := by
    show Locking.readMonitor? m p ((m.setMark o j).mark p) = _
    rw [mark]
    split
    next eq => rw [eq, read]
    next => rfl
  refine ⟨⟨h.tables, h.displaced, fun mode p r => ?_, fun p id => ?_, fun p => ?_, fun p id => ?_,
    fun p id => ?_, h.counted⟩, rfl, Nat.le_refl _, fun _ _ => rfl⟩
  · rw [mark]
    split
    · exact plain mode r
    · exact h.plain mode p r
  · rw [bits']
    exact h.entered p id
  · rw [bits', leads]
    exact h.shown p
  · rw [mark, leads]
    split
    · exact fun eq => absurd eq (word id)
    · exact h.address p id
  · rw [leads]
    exact h.linked p id

/-- An object without a monitor gets a new one. -/
lemma of_made (h : m.WellLinked) (options : n.options = m.options) (records : n.records = m.records)
    (free : (m.mark o).hasMonitor = false) (leads : n.monitorOf? o = some m.monitors.size)
    (plain : n.options.mode = .lightweight → ∀ r, n.mark o ≠ .record r)
    (address : ∀ id, n.mark o = .monitor id → id = m.monitors.size)
    (mark : ∀ p, p ≠ o → n.mark p = m.mark p)
    (table : ∀ p, p ≠ o → n.table.get? p = m.table.get? p)
    (made : n.monitors.size = m.monitors.size + 1) (counted : n.monitorCount = m.monitorCount + 1)
    (object : ∀ id, (n.monitor id).object =
      if id = m.monitors.size then o else (m.monitor id).object) : m.Retains n := by
  have bits : (n.mark o).hasMonitor = true := WellLinked.hasMonitor_of_monitorOf? leads
  have leads' (p : ObjectId) (ne : p ≠ o) : n.monitorOf? p = m.monitorOf? p := by
    unfold monitorOf? Locking.readMonitor? FastLocking.readMonitor?
    rw [options, mark p ne, table p ne]
  -- Every other object leads where it did before, so each clause is split at `o`.
  refine ⟨⟨options ▸ h.tables, fun r => ?_, fun mode p r => ?_, fun p id found => ?_,
    fun p has => ?_, fun p id hk => ?_, fun p id => ?_, ?_⟩, options, made ▸ Nat.le_succ _,
    fun id lt => ?_⟩
  · unfold record
    rw [records]
    exact h.displaced r
  · by_cases eq : p = o
    · exact eq ▸ plain mode r
    · rw [mark p eq]
      exact h.plain (options ▸ mode) p r
  · by_cases eq : p = o
    · exact eq ▸ bits
    · rw [mark p eq]
      exact h.entered p id (table p eq ▸ found)
  · by_cases eq : p = o
    · rw [eq, leads]
      rfl
    · rw [mark p eq] at has
      rw [leads' p eq]
      exact h.shown p has
  · by_cases eq : p = o
    · subst eq
      rw [leads, address id hk]
    · rw [leads' p eq]
      exact h.address p id (mark p eq ▸ hk)
  · rw [made, object]
    -- The new monitor is made for `o`, and no other object can lead to it yet.
    by_cases new : id = m.monitors.size
    · subst new
      rw [if_pos rfl]
      constructor
      · intro found
        refine ⟨Nat.lt_succ_self _, ?_⟩
        by_contra ne
        rw [leads' p (Ne.symm ne)] at found
        exact Nat.lt_irrefl _ (h.lt found)
      · rintro ⟨-, rfl⟩
        exact leads
    · rw [if_neg new, Nat.lt_succ_iff, Nat.le_iff_lt_or_eq, or_iff_left new]
      by_cases eq : p = o
      · subst eq
        rw [leads, ← h.linked p id, WellLinked.monitorOf?_eq_none free]
        simp only [Option.some.injEq, reduceCtorEq, iff_false]
        exact Ne.symm new
      · rw [leads' p eq]
        exact h.linked p id
  · rw [counted, made, h.counted]
  · rw [object, if_neg (Nat.ne_of_lt lt)]

end Retains

namespace WellLinked

variable (h : m.WellLinked)
include h

/-- What touches neither headers nor monitors retains the monitors. -/
lemma retains_aside (same : m.Aside n) : m.Retains n := by
  obtain ⟨options, heap, records, monitors, listed, table⟩ := same
  refine .of_same h options ?_ table listed (by rw [monitors]) (fun id => ?_) fun r => ?_
  · funext o
    unfold mark Machine.object
    rw [heap]
  · unfold monitor
    rw [monitors]
  · unfold record
    rw [records]
    exact h.displaced r

/-- A log line retains the monitors. -/
lemma retains_note (x : Notice) : m.Retains (m.note x) :=
  h.retains_aside ⟨rfl, rfl, rfl, rfl, rfl, rfl⟩

/-- A change of a thread retains the monitors. -/
lemma retains_modifyThread (t : ThreadId) (f : Thread → Thread) : m.Retains (m.modifyThread t f) :=
  h.retains_aside ⟨rfl, rfl, rfl, rfl, rfl, rfl⟩

/-- Objects change as long as their headers stay. -/
lemma retains_heap {heap : Store Object} (same : ∀ o, (heap.get o).mark = m.mark o) :
    m.Retains { m with heap := heap } :=
  .of_same h rfl (funext same) rfl rfl rfl (fun _ => rfl) h.displaced

/-- A change of an object that leaves its mark alone retains the monitors. -/
lemma retains_modifyObject {f : Object → Object} (same : ∀ x, (f x).mark = x.mark) :
    m.Retains (m.modifyObject o f) := by
  apply h.retains_heap
  intro p
  rw [Store.modify, Store.get_set, Function.update_apply]
  split
  next eq => rw [same, eq]; rfl
  next => rfl

/-- A new object has the header that its number had before. -/
lemma retains_allocate (label : String) (c : Class) : m.Retains (m.allocate label c) := by
  apply h.retains_heap
  intro p
  rw [Store.get_push, Function.update_apply]
  split
  next eq =>
    subst eq
    exact (congrArg Object.mark (Store.get_size m.heap)).symm
  next => rfl

/-- A record may change as long as it displaces no monitor bits. -/
lemma retains_modifyRecord {f : LockRecord → LockRecord}
    (none : (f (m.record r)).displaced.hasMonitor = false) : m.Retains (m.modifyRecord r f) := by
  refine .of_same h rfl rfl rfl rfl rfl (fun _ => rfl) fun q => ?_
  rw [record_modifyRecord, Function.update_apply]
  split
  · exact none
  · exact h.displaced q

/-- A new record retains the monitors. -/
lemma retains_addRecord (w : WorkerId) : m.Retains (m.addRecord w).2 := by
  refine .of_same h rfl rfl rfl rfl rfl (fun _ => rfl) fun q => ?_
  show ((m.records.push (.fresh w)).get q).displaced.hasMonitor = false
  rw [Store.get_push, Function.update_apply]
  split
  · exact (by decide : LockWord.unused.hasMonitor = false)
  · exact h.displaced q

/-- A monitor may change as long as it stays the one of its object. -/
lemma retains_setMonitor (lt : id < m.monitors.size) {x : Monitor}
    (same : x.object = (m.monitor id).object) : m.Retains (m.setMonitor id x) := by
  refine .of_same h rfl rfl rfl rfl ?_ (fun i => ?_) h.displaced
  · exact (Store.size_set ..).trans (Nat.max_eq_left lt)
  · rw [monitor_setMonitor, Function.update_apply]
    split
    next eq => rw [same, eq]
    next => rfl

/-- A header without the monitor bits changes to another one. -/
lemma retains_setMark {j : Mark} (free : (m.mark o).hasMonitor = false)
    (none : j.hasMonitor = false)
    (plain : m.options.mode = .lightweight → ∀ r, j ≠ .record r) : m.Retains (m.setMark o j) := by
  refine .of_mark h plain (fun id eq => ?_) (none.trans free.symm) ?_
  · rw [eq] at none
    cases none
  · rw [Locking.readMonitor?_eq_none none, monitorOf?_eq_none free]

/-- A header that is a word keeps its lock bits. -/
lemma retains_setHash {w w' : LockWord} (hk : m.mark o = .word w) (bits : w'.bits = w.bits) :
    m.Retains (m.setMark o (.word w')) := by
  have same : (Mark.word w').hasMonitor = (m.mark o).hasMonitor := by
    rw [hk]
    exact congrArg (· == .monitor) bits
  refine .of_mark h (fun _ _ => nofun) (fun _ => nofun) same ?_
  unfold monitorOf? Locking.readMonitor? FastLocking.readMonitor?
  rw [same, hk]
  rfl

/-- A drawn hash is put into a header that is a word. -/
lemma retains_hashed (t : ThreadId) {w : LockWord} (hk : m.mark o = .word w) (x : UInt32) :
    m.Retains ((m.drawHash t).2.setMark o (.word (w.withHash x))) := by
  have drawn : m.Retains (m.drawHash t).2 := h.retains_modifyThread t _
  have hk' : (m.drawHash t).2.mark o = .word w := hk
  exact drawn.trans (drawn.linked.retains_setHash hk' (LockWord.bits_withHash w x))

/-- A new monitor whose address goes into the header of its object. -/
lemma retains_installed (table : m.options.useTable = false) (free : (m.mark o).hasMonitor = false)
    {x : Monitor} (own : x.object = o) :
    let n := { (m.addMonitor x).2.setMark o (.monitor m.monitors.size) with
      inlineMonitors := m.monitors.size :: m.inlineMonitors }
    m.Retains n ∧ n.monitorOf? o = some m.monitors.size := by
  intro n
  have mark : n.mark = Function.update m.mark o (.monitor m.monitors.size) :=
    mark_setMark (m.addMonitor x).2 o _
  have leads : n.monitorOf? o = some m.monitors.size := by
    show Locking.readMonitor? n o (n.mark o) = _
    rw [mark, Function.update_self]
    unfold Locking.readMonitor? FastLocking.readMonitor?
    rw [show n.options.useTable = false from table]
    split <;> rfl
  refine ⟨.of_made h rfl rfl free leads ?_ ?_ ?_ (fun _ _ => rfl) (Store.size_push ..) ?_ ?_, leads⟩
  · rw [mark, Function.update_self]
    exact fun _ _ => nofun
  · rw [mark, Function.update_self]
    exact fun _ eq => (Mark.monitor.inj eq).symm
  · intro p ne
    rw [mark, Function.update_of_ne ne]
  · unfold monitorCount
    rw [show n.options.useTable = false from table, table]
    rfl
  · intro id
    show ((m.monitors.push x).get id).object = _
    rw [Store.get_push, Function.update_apply]
    split
    · exact own
    · rfl

end WellLinked

end Machine

namespace Outcome

variable {α β : Type} {m n : Machine}

/-- An operation retains the monitors, however it ends. -/
def Retains (m : Machine) (x : Outcome α) : Prop := m.Retains x.machine

/-- A change that retains the monitors may come before an operation that does. -/
lemma Retains.after {x : Outcome α} (h : x.Retains n) (first : m.Retains n) : x.Retains m :=
  first.trans h

/-- An operation retains the monitors if its first part does and whatever follows does. -/
lemma Retains.bind {x : Outcome α} {f : α → Machine → Outcome β} (h : x.Retains m)
    (next : ∀ a n, x = .ok a n → n.WellLinked → (f a n).Retains n) : (x.bind f).Retains m := by
  cases x with
  | ok a n => exact (next a n rfl h.linked).after h
  | fault c n => exact h

/-- What is answered makes no difference to the monitors. -/
lemma Retains.map {x : Outcome α} (h : x.Retains m) (f : α → β) : (x.map f).Retains m := by
  cases x <;> exact h

end Outcome

namespace Machine.WellLinked

variable {m : Machine} {t : ThreadId} {o : ObjectId} {r : RecordId} {id : MonitorId}
  (h : m.WellLinked)
include h

/-- An illegal exit retains the monitors. -/
lemma illegalExit_retains : (m.illegalExit t o).Retains m := h.retains_note _

/-- Pushing an object retains the monitors. -/
lemma pushObject_retains : (m.pushObject t o).Retains m := by
  unfold pushObject
  split
  · exact h.retains_modifyThread t _
  · exact Retains.refl h

/-- Pushing a record retains the monitors. -/
lemma pushRecord_retains : (m.pushRecord t r).Retains m := by
  unfold pushRecord
  split
  · exact h.retains_modifyThread t _
  · exact Retains.refl h

/-- Entering a monitor retains the monitors. -/
lemma enterMonitor_retains (lt : id < m.monitors.size) : (m.enterMonitor t id).Retains m := by
  unfold enterMonitor
  dsimp only
  split
  next x enter => exact h.retains_setMonitor lt (Monitor.tryEnter_object enter)
  next =>
    have counted := h.retains_setMonitor lt (x := (m.monitor id).contend) rfl
    have noted := counted.trans (counted.linked.retains_note (.blocks t (m.monitor id).object
      (m.monitor id).owner))
    generalize (m.setMonitor id (m.monitor id).contend).note _ = n at noted
    unfold checkSafepoint
    split
    next =>
      have lt' := Nat.lt_of_lt_of_le lt noted.made
      have queued : n.Retains (n.setMonitor id ((m.monitor id).contend.enqueue t)) :=
        noted.linked.retains_setMonitor lt' (noted.object id lt).symm
      exact noted.trans (queued.trans (queued.linked.retains_modifyThread t _))
    next => exact noted

/-- Trying to enter a monitor retains the monitors. -/
lemma tryEnterMonitor_retains (lt : id < m.monitors.size) : (m.tryEnterMonitor t id).Retains m := by
  unfold tryEnterMonitor
  split
  next enter => exact h.retains_setMonitor lt (Monitor.tryEnter_object enter)
  next => exact Retains.refl h

/-- Exiting a monitor retains the monitors. -/
lemma exitMonitor_retains : (m.exitMonitor t id).Retains m := by
  unfold exitMonitor
  split
  next x exit =>
    have owned : (m.monitor id).owner ≠ .nobody := by
      rw [(Monitor.exit?_eq_some exit).1]
      exact nofun
    exact h.retains_setMonitor (lt_of_owner owned) (Monitor.exit?_object exit)
  next => exact Retains.refl h

/-- Claiming a monitor retains the monitors. -/
lemma claimMonitor_retains (c : UInt64) : (m.claimMonitor t id c).Retains m := by
  unfold claimMonitor
  split
  next x claim =>
    obtain ⟨anonymous, rfl⟩ := Monitor.claim?_eq_some claim
    have owned : (m.monitor id).owner ≠ .nobody := by
      rw [anonymous]
      exact nofun
    exact h.retains_setMonitor (lt_of_owner owned) rfl
  next => exact Retains.refl h

/-- Asking a monitor for the hash retains the monitors. -/
lemma monitorHash_retains (lt : id < m.monitors.size) : m.Retains (m.monitorHash t id).2 := by
  unfold monitorHash
  dsimp only
  split
  next => exact .refl h
  next =>
    have drawn : m.Retains (m.drawHash t).2 := h.retains_modifyThread t _
    exact drawn.trans (drawn.linked.retains_setMonitor lt rfl)

end Machine.WellLinked

/-- An inflation retains the monitors, and then the object has the one that it answers. -/
def Outcome.Monitors (m : Machine) (o : ObjectId) : Outcome MonitorId → Prop
  | ok id n => m.Retains n ∧ n.monitorOf? o = some id
  | fault _ n => m.Retains n

/-- An inflation that ends with a monitor retains the others. -/
lemma Outcome.Monitors.retains {m : Machine} {o : ObjectId} {x : Outcome MonitorId}
    (h : x.Monitors m o) : x.Retains m := by
  cases x with
  | ok id n => exact h.1
  | fault f n => exact h

/-- The monitor that an inflation answers has been made. -/
lemma Outcome.Monitors.lt {m n : Machine} {o : ObjectId} {x : Outcome MonitorId} {id : MonitorId}
    (h : x.Monitors m o) (eq : x = .ok id n) : id < n.monitors.size := by
  subst eq
  exact h.1.linked.lt h.2

end ObjectLocks
