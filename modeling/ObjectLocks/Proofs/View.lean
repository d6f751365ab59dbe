import Mathlib.Logic.Function.Basic
import Mathlib.Tactic.Lemma
import Mathlib.Tactic.Simps.Basic
import ObjectLocks.Locking
import ObjectLocks.Proofs.LockStack
import ObjectLocks.Proofs.Word.Fields

/-!
# The lock view of a machine

What locks are read from, and no more: for every object the form of its header, the lock records,
the monitors, the lock stacks as lists, and the attached threads. Log lines, thread states, held
counts, slots and hash sequences are not part of the view, and neither are the hash bits of a
header. Each change of a machine is a change of its view or leaves the view alone; this is said once
for each change below, and the theory of the locking algorithms speaks about views from then on.
-/

namespace ObjectLocks

/-- What the header of an object says about its lock. -/
inductive Form where
  | unlocked
  /-- The object is on the lock stack of its owner. -/
  | fast
  | stacked (r : RecordId)
  | inflated (id : MonitorId)
  /-- No header of a running system has this form. -/
  | invalid
deriving DecidableEq, Repr

/-- The form of a header with mark `k`, where `entry` is the monitor of the object in the table. With
a table, an entry and the monitor bits go together. -/
def Form.ofMark (options : Options) (entry : Option MonitorId) (k : Mark) : Form :=
  if options.mode = .lightweight then
    if options.useTable then
      match k, entry with
      | .word w, none =>
        match w.bits with
        | .unlocked => .unlocked
        | .locked => .fast
        | _ => .invalid
      | .word w, some id => if w.bits = .monitor then .inflated id else .invalid
      | _, _ => .invalid
    else
      match k with
      | .word w =>
        match w.bits with
        | .unlocked => .unlocked
        | .locked => .fast
        | _ => .invalid
      | .monitor id => .inflated id
      | .record _ => .invalid
  else
    match k with
    | .word w => if w.bits = .unlocked then .unlocked else .invalid
    | .record r => .stacked r
    | .monitor id => .inflated id

/-- The form of the header of an object. -/
def Machine.form (m : Machine) (o : ObjectId) : Form :=
  .ofMark m.options (m.table.get? o) (m.mark o)

/-- The part of a machine that locks are read from. -/
@[ext] structure LockView where
  mode : LockingMode
  form : ObjectId → Form
  record : RecordId → LockRecord
  recordCount : Nat
  monitor : MonitorId → Monitor
  monitorCount : Nat
  /-- The objects that a thread has fast-locked, the latest last. -/
  lockStack : ThreadId → List ObjectId
  /-- The records that a thread has stack-locked with, the latest last. -/
  lockRecords : ThreadId → List RecordId
  registry : List ThreadId
  nextThread : ThreadId

/-- What the locks of a machine are read from. -/
def Machine.view (m : Machine) : LockView where
  mode := m.options.mode
  form := m.form
  record := m.record
  recordCount := m.records.size
  monitor := m.monitor
  monitorCount := m.monitors.size
  lockStack t := (m.lockStack t).toList
  lockRecords t := (m.lockRecords t).toList
  registry := m.registry
  nextThread := m.nextThread

namespace LockView

/-- The view with another header of an object. -/
@[simps] def setForm (v : LockView) (o : ObjectId) (f : Form) : LockView :=
  { v with form := Function.update v.form o f }

/-- The view with another record. A record that is new is counted. -/
@[simps] def setRecord (v : LockView) (r : RecordId) (x : LockRecord) : LockView :=
  { v with
    record := Function.update v.record r x
    recordCount := max v.recordCount (r + 1) }

/-- The view with another monitor. A monitor that is new is counted. -/
@[simps] def setMonitor (v : LockView) (id : MonitorId) (x : Monitor) : LockView :=
  { v with
    monitor := Function.update v.monitor id x
    monitorCount := max v.monitorCount (id + 1) }

/-- The view with another lock stack of a thread. -/
@[simps] def setLockStack (v : LockView) (t : ThreadId) (l : List ObjectId) : LockView :=
  { v with lockStack := Function.update v.lockStack t l }

/-- The view with other lock records of a thread. -/
@[simps] def setLockRecords (v : LockView) (t : ThreadId) (l : List RecordId) : LockView :=
  { v with lockRecords := Function.update v.lockRecords t l }

/-- The view with a new monitor to which an object leads. -/
def inflate (v : LockView) (o : ObjectId) (x : Monitor) : LockView :=
  (v.setMonitor v.monitorCount x).setForm o (.inflated v.monitorCount)

/-- The last of two monitors written under one number stays. -/
lemma setMonitor_setMonitor (v : LockView) (id : MonitorId) (x y : Monitor) :
    (v.setMonitor id x).setMonitor id y = v.setMonitor id y := by
  simp [setMonitor]

/-- The view without an object on the lock stack of a thread. -/
def dropObject (v : LockView) (t : ThreadId) (o : ObjectId) : LockView :=
  v.setLockStack t ((v.lockStack t).filter (· ≠ o))

/-- The view without a record among the lock records of a thread. -/
def dropRecord (v : LockView) (t : ThreadId) (r : RecordId) : LockView :=
  v.setLockRecords t ((v.lockRecords t).filter (· ≠ r))

/-- A thread under a new number. -/
@[simps] def attach (v : LockView) : LockView :=
  { v with
    lockStack := Function.update v.lockStack v.nextThread []
    lockRecords := Function.update v.lockRecords v.nextThread []
    registry := v.registry ++ [v.nextThread]
    nextThread := v.nextThread + 1 }

variable {u v w : LockView} {o p : ObjectId} {id id' : MonitorId} {x : Monitor}

/-- The monitor that an object leads to exists and belongs to the object. -/
def Linked (v : LockView) : Prop :=
  ∀ o id, v.form o = .inflated id → id < v.monitorCount ∧ (v.monitor id).object = o

/-- Different objects lead to different monitors. -/
lemma Linked.ne (h : v.Linked) (ho : v.form o = .inflated id) (hp : v.form p = .inflated id')
    (ne : p ≠ o) : id' ≠ id := by
  intro eq
  subst eq
  exact ne ((h p id' hp).2.symm.trans (h o id' ho).2)

/-- No object leads to a monitor that does not exist yet. -/
lemma Linked.ne_new (h : v.Linked) (hp : v.form p = .inflated id) : id ≠ v.monitorCount :=
  Nat.ne_of_lt (h p id hp).1

/-- A monitor may change as long as it stays the one of its object. -/
lemma Linked.setMonitor (h : v.Linked) (same : x.object = (v.monitor id).object) :
    (v.setMonitor id x).Linked := by
  intro p id' hp
  obtain ⟨lt, eq⟩ := h p id' hp
  refine ⟨Nat.lt_of_lt_of_le lt (Nat.le_max_left ..), ?_⟩
  rw [setMonitor_monitor, Function.update_apply]
  split
  next e => rw [same, ← e, eq]
  next => exact eq

/-- An object may get a header that leads to no monitor. -/
lemma Linked.setForm (h : v.Linked) {f : Form} (plain : ∀ id, f ≠ .inflated id) :
    (v.setForm o f).Linked := by
  intro p id hp
  rw [setForm_form, Function.update_apply] at hp
  split at hp
  next => exact absurd hp (plain id)
  next => exact h p id hp

/-- An object may get a new monitor of its own. -/
lemma Linked.inflate (h : v.Linked) (own : x.object = o) : (v.inflate o x).Linked := by
  intro p id hp
  simp only [LockView.inflate, setForm_form, Function.update_apply] at hp
  split at hp
  next e =>
    obtain rfl := Form.inflated.inj hp
    refine ⟨Nat.lt_of_lt_of_le (Nat.lt_succ_self _) (Nat.le_max_right ..), ?_⟩
    simp only [LockView.inflate, setForm_monitor, setMonitor_monitor, Function.update_self]
    rw [own, e]
  next =>
    obtain ⟨lt, eq⟩ := h p id hp
    refine ⟨Nat.lt_of_lt_of_le lt (Nat.le_max_left ..), ?_⟩
    simp only [LockView.inflate, setForm_monitor, setMonitor_monitor,
      Function.update_of_ne (h.ne_new hp)]
    exact eq

/-- The headers and monitors of all objects but `o` are the same in two views. -/
structure Elsewhere (o : ObjectId) (v w : LockView) : Prop where
  form : ∀ p, p ≠ o → w.form p = v.form p
  monitor : ∀ p, p ≠ o → ∀ id, v.form p = .inflated id → w.monitor id = v.monitor id

/-- A view is the same everywhere as itself. -/
lemma Elsewhere.refl (o : ObjectId) (v : LockView) : Elsewhere o v v :=
  ⟨fun _ _ => rfl, fun _ _ _ _ => rfl⟩

/-- The headers and monitors of other objects depend on the headers and the monitors only. -/
lemma Elsewhere.congr (s : v.Elsewhere o u) (form : w.form = u.form)
    (monitor : w.monitor = u.monitor) : v.Elsewhere o w :=
  ⟨form ▸ s.form, monitor ▸ s.monitor⟩

/-- A new header of an object leaves all other objects alone. -/
lemma elsewhere_setForm (v : LockView) (o : ObjectId) (f : Form) : Elsewhere o v (v.setForm o f) :=
  ⟨fun _ ne => Function.update_of_ne ne _ _, fun _ _ _ _ => rfl⟩

/-- A change of the monitor of an object leaves all other objects alone. -/
lemma elsewhere_setMonitor (h : v.Linked) (ho : v.form o = .inflated id) (x : Monitor) :
    Elsewhere o v (v.setMonitor id x) :=
  ⟨fun _ _ => rfl, fun _ ne _ hp => Function.update_of_ne (h.ne ho hp ne) _ _⟩

/-- A new monitor for an object leaves all other objects alone. -/
lemma elsewhere_inflate (h : v.Linked) (o : ObjectId) (x : Monitor) :
    Elsewhere o v (v.inflate o x) :=
  ⟨fun _ ne => Function.update_of_ne ne _ _,
    fun _ _ _ hp => Function.update_of_ne (h.ne_new hp) _ _⟩

end LockView

/-- An update of what belongs to one thread leaves that of all others alone. -/
lemma update_cases {α : Type} {f g : ThreadId → α} {t : ThreadId} {a : α}
    (h : g = Function.update f t a) (u : ThreadId) : g u = a ∧ u = t ∨ g u = f u ∧ u ≠ t := by
  by_cases eq : u = t
  · exact .inl ⟨by rw [h, eq, Function.update_self], eq⟩
  · exact .inr ⟨by rw [h, Function.update_of_ne eq], eq⟩

namespace Store

variable {α : Type}

/-- A pushed value makes a store one larger. -/
@[simp] lemma size_push (s : Store α) (a : α) : (s.push a).size = s.size + 1 := by
  simp [push, size]

variable [Inhabited α]

/-- Writing a number updates the store as a function. -/
lemma get_set (s : Store α) (i : Nat) (a : α) : (s.set i a).get = Function.update s.get i a := by
  funext j
  by_cases h : j = i
  · subst h
    rw [get_set_self, Function.update_self]
  · rw [get_set_of_ne s a h, Function.update_of_ne h]

/-- Pushing a value updates the store as a function. -/
lemma get_push (s : Store α) (a : α) : (s.push a).get = Function.update s.get s.size a := by
  funext j
  by_cases h : j = s.size
  · subst h
    rw [get_push_size, Function.update_self]
  · rw [get_push_of_ne s a h, Function.update_of_ne h]

/-- A number that has not been written has the default value. -/
lemma get_eq_default {s : Store α} {i : Nat} (unwritten : s.size ≤ i) : s.get i = default := by
  have outside : s.cells.size ≤ i := unwritten
  simp [get, Array.getD_eq_getD_getElem?, outside]

/-- The first unwritten number has the default value. -/
lemma get_size (s : Store α) : s.get s.size = default := get_eq_default (Nat.le_refl _)

/-- A store reaches as far as the largest number written. -/
@[simp] lemma size_set (s : Store α) (i : Nat) (a : α) : (s.set i a).size = max s.size (i + 1) := by
  unfold set size
  split <;> simp <;> omega

end Store

namespace Machine

variable (m : Machine) (t : ThreadId) (o : ObjectId) (r : RecordId) (id : MonitorId)

/-- A change of a thread that leaves its two stacks alone is not seen. -/
lemma view_modifyThread {f : Thread → Thread} (hs : ∀ x, (f x).lockStack = x.lockStack)
    (hr : ∀ x, (f x).lockRecords = x.lockRecords) : (m.modifyThread t f).view = m.view := by
  have get : ∀ u, (m.modifyThread t f).thread u = if u = t then f (m.thread u) else m.thread u := by
    intro u
    simp only [thread, modifyThread, Store.modify, Store.get_set, Function.update_apply]
    split
    · next h => rw [h]
    · rfl
  ext1 <;> try rfl
  · funext u
    show ((m.modifyThread t f).thread u).lockStack.toList = _
    rw [get]
    split
    · rw [hs]; rfl
    · rfl
  · funext u
    show ((m.modifyThread t f).thread u).lockRecords.toList = _
    rw [get]
    split
    · rw [hr]; rfl
    · rfl

/-- The state of a thread is not seen in the view. -/
@[simp] lemma view_setState (x : ThreadState) : (m.setState t x).view = m.view :=
  m.view_modifyThread t (fun _ => rfl) (fun _ => rfl)

/-- One more lock held is not seen in the view. -/
@[simp] lemma view_gain : (m.modifyThread t .gain).view = m.view :=
  m.view_modifyThread t (fun _ => rfl) (fun _ => rfl)

/-- One lock less held is not seen in the view. -/
@[simp] lemma view_lose : (m.modifyThread t .lose).view = m.view :=
  m.view_modifyThread t (fun _ => rfl) (fun _ => rfl)

/-- A log line is not seen in the view. -/
@[simp] lemma view_note (n : Notice) : (m.note n).view = m.view := rfl

/-- A warning about a value-based class is not seen in the view. -/
@[simp] lemma view_warnValueBased : (m.warnValueBased t o).view = m.view := by
  unfold warnValueBased
  split <;> rfl

/-- A drawn hash is not seen in the view. -/
@[simp] lemma view_drawHash : (m.drawHash t).2.view = m.view :=
  m.view_modifyThread t (fun _ => rfl) (fun _ => rfl)

/-- A new lock stack is seen as the list of its entries. -/
@[simp] lemma view_setLockStack (s : LockStack ObjectId) :
    (m.setLockStack t s).view = m.view.setLockStack t s.toList := by
  ext1 <;> try rfl
  all_goals
    funext u
    simp only [view, lockStack, lockRecords, thread, setLockStack, modifyThread, Store.modify,
      Store.get_set, LockView.setLockStack, Function.update_apply]
    split
    · next h => simp [h]
    · rfl

/-- New lock records are seen as the list of their entries. -/
@[simp] lemma view_setLockRecords (s : LockStack RecordId) :
    (m.setLockRecords t s).view = m.view.setLockRecords t s.toList := by
  ext1 <;> try rfl
  all_goals
    funext u
    simp only [view, lockStack, lockRecords, thread, setLockRecords, modifyThread, Store.modify,
      Store.get_set, LockView.setLockRecords, Function.update_apply]
    split
    · next h => simp [h]
    · rfl

/-- An object that is dropped is dropped from the view. -/
@[simp] lemma view_dropObject : (m.dropObject t o).view = m.view.dropObject t o := by
  simp only [dropObject, view_setLockStack, LockStack.toList_remove]
  rfl

/-- A record that is dropped is dropped from the view. -/
@[simp] lemma view_dropRecord : (m.dropRecord t r).view = m.view.dropRecord t r := by
  simp only [dropRecord, view_setLockRecords, LockStack.toList_remove]
  rfl

/-- A change of a record is one of the view. -/
@[simp] lemma view_modifyRecord (f : LockRecord → LockRecord) :
    (m.modifyRecord r f).view = m.view.setRecord r (f (m.record r)) := by
  ext1 <;> try rfl
  · show (m.records.modify r f).get = _
    rw [Store.modify, Store.get_set]
    rfl
  · exact Store.size_set _ _ _

/-- A change of a monitor is one of the view. -/
@[simp] lemma view_setMonitor (x : Monitor) : (m.setMonitor id x).view = m.view.setMonitor id x := by
  ext1 <;> try rfl
  · exact Store.get_set _ _ _
  · exact Store.size_set _ _ _

/-- A new monitor is the first in the view that did not exist. -/
@[simp] lemma view_addMonitor (x : Monitor) :
    (m.addMonitor x).2.view = m.view.setMonitor m.monitors.size x := by
  ext1 <;> try rfl
  · exact Store.get_push _ _
  · show _ = max m.monitors.size (m.monitors.size + 1)
    rw [Nat.max_eq_right (Nat.le_succ _)]
    exact Store.size_push _ _

/-- A new mark of an object leaves all other marks alone. -/
lemma mark_setMark (k : Mark) : (m.setMark o k).mark = Function.update m.mark o k := by
  funext p
  simp only [mark, object, setMark, modifyObject, Store.modify, Store.get_set, Function.update_apply]
  split <;> rfl

/-- A new mark of an object is told by the form of its header. -/
lemma form_setMark (k : Mark) :
    (m.setMark o k).form = Function.update m.form o (.ofMark m.options (m.table.get? o) k) := by
  funext p
  show Form.ofMark m.options (m.table.get? p) ((m.setMark o k).mark p) = _
  rw [mark_setMark]
  by_cases h : p = o
  · subst h
    rw [Function.update_self, Function.update_self]
  · rw [Function.update_of_ne h, Function.update_of_ne h]
    rfl

/-- A new mark changes the form of the header in the view. -/
@[simp] lemma view_setMark (k : Mark) :
    (m.setMark o k).view = m.view.setForm o (.ofMark m.options (m.table.get? o) k) := by
  ext1 <;> try rfl
  exact m.form_setMark o k

/-- The form of a header that is a word is told by its lock bits. -/
lemma form_word (options : Options) (entry : Option MonitorId) {w w' : LockWord}
    (bits : w'.bits = w.bits) :
    Form.ofMark options entry (.word w') = Form.ofMark options entry (.word w) := by
  cases entry <;> simp only [Form.ofMark, bits]

/-- So a new hash is not seen. -/
lemma view_setMark_word {w w' : LockWord} (hk : m.mark o = .word w) (bits : w'.bits = w.bits) :
    (m.setMark o (.word w')).view = m.view := by
  have same : Form.ofMark m.options (m.table.get? o) (.word w') = m.view.form o := by
    rw [form_word _ _ bits, ← hk]
    rfl
  rw [view_setMark, same, LockView.setForm, Function.update_eq_self]

/-- A new object is unlocked, and so is an object that does not exist yet. -/
@[simp] lemma view_allocate (label : String) (c : Class) : (m.allocate label c).view = m.view := by
  ext1 <;> try rfl
  funext p
  show Form.ofMark m.options (m.table.get? p) ((m.heap.push (.new label c)).get p).mark = m.form p
  rw [Store.get_push]
  by_cases h : p = m.heap.size
  · subst h
    rw [Function.update_self]
    show _ = Form.ofMark m.options _ (m.heap.get m.heap.size).mark
    rw [Store.get_size]
    rfl
  · rw [Function.update_of_ne h]
    rfl

/-- A change of an object that leaves its mark alone is not seen. -/
@[simp] lemma view_modifyObject {f : Object → Object} (h : ∀ x, (f x).mark = x.mark) :
    (m.modifyObject o f).view = m.view := by
  ext1 <;> try rfl
  funext p
  show Form.ofMark m.options (m.table.get? p) ((m.heap.modify o f).get p).mark = m.form p
  rw [Store.modify, Store.get_set]
  by_cases e : p = o
  · subst e
    rw [Function.update_self, h]
    rfl
  · rw [Function.update_of_ne e]
    rfl

/-- A new record is the first in the view that did not exist. -/
@[simp] lemma view_addRecord (w : WorkerId) :
    (m.addRecord w).2.view = m.view.setRecord m.records.size (.fresh w) := by
  ext1 <;> try rfl
  · exact Store.get_push _ _
  · show _ = max m.records.size (m.records.size + 1)
    rw [Nat.max_eq_right (Nat.le_succ _)]
    exact Store.size_push _ _

end Machine

end ObjectLocks
