import Mathlib.Data.Set.Card
import ObjectLocks.Proofs.FastLocking.Retention
import ObjectLocks.Proofs.Runs
import ObjectLocks.Proofs.StackLocking.Retention

/-!
# One monitor for each object

An object gets a monitor when it is first inflated, and keeps it for good: no operation makes a
second one, drops the monitor bits or moves a monitor to another object, also if exits are not
balanced, if lock records are used for several locks at once, and if monitors are entered and exited
past their objects. So whoever looks for the monitor of an object finds the same one, by the latest
header or by an earlier one.
-/

namespace ObjectLocks

namespace Machine

variable {m n : Machine} {t : ThreadId} {o : ObjectId} {r : RecordId}

/-- An enter retains the monitors in every mode. -/
lemma WellLinked.enter_retains (h : m.WellLinked) : (Locking.enter m t o r).Retains m := by
  unfold Locking.enter
  split
  next mode => exact FastLocking.enter_retains h mode
  next mode => exact StackLocking.enter_retains h mode

/-- A quick enter retains the monitors in every mode. -/
lemma WellLinked.quickEnter_retains (h : m.WellLinked) :
    (Locking.quickEnter m t o r).Retains m := by
  unfold Locking.quickEnter
  split
  next mode => exact FastLocking.quickEnter_retains h mode
  next => exact StackLocking.quickEnter_retains h

/-- An exit retains the monitors in every mode. -/
lemma WellLinked.exit_retains (h : m.WellLinked) : (Locking.exit m t o r).Retains m := by
  unfold Locking.exit
  split
  next mode => exact FastLocking.exit_retains h mode
  next => exact StackLocking.exit_retains h

/-- An inflation gives the object a monitor in every mode. -/
lemma WellLinked.inflate_monitors (h : m.WellLinked) (cause : InflationCause) :
    (Locking.inflate m t o cause).Monitors m o := by
  unfold Locking.inflate
  split
  next mode => exact FastLocking.inflate_monitors h mode cause
  next mode => exact StackLocking.inflate_monitors h mode cause

/-- Asking for the identity hash retains the monitors in every mode. -/
lemma WellLinked.identityHash_retains (h : m.WellLinked) : (m.identityHash t o).Retains m := by
  unfold identityHash
  split
  next => exact FastLocking.identityHash_retains h
  next mode => exact StackLocking.identityHash_retains h mode

/-- A monitor has been made. -/
def HasMade (m : Machine) (id : MonitorId) : Prop := id < m.monitors.size

/-- Every operation retains the monitors, if those are made that it uses past their objects. -/
lemma Works.retains (c : m.Works HasMade n) (h : m.WellLinked) : m.Retains n := by
  cases c with
  | aside same => exact h.retains_aside same
  | enter t o r => exact h.enter_retains
  | quickEnter t o r => exact h.quickEnter_retains
  | exit t o r => exact h.exit_retains
  | inflate t o cause => exact (h.inflate_monitors cause).retains
  | identityHash t o => exact h.identityHash_retains
  | enterMonitor t lt => exact h.enterMonitor_retains lt
  | tryEnterMonitor t lt => exact h.tryEnterMonitor_retains lt
  | exitMonitor t lt => exact h.exitMonitor_retains
  | claimMonitor t c lt => exact h.claimMonitor_retains c
  | monitorHash t lt => exact h.monitorHash_retains lt
  | modifyObject o same => exact h.retains_modifyObject same
  | allocate label c => exact h.retains_allocate label c
  | addRecord w => exact h.retains_addRecord w

/-- What the readers answer for a mark that was once in the header of an object. -/
structure Reads (m : Machine) (o : ObjectId) (k : Mark) : Prop where
  agree : m.readMonitor? o k = Locking.readMonitor? m o k
  /-- No reader answers anything but the object's monitor. -/
  answer : m.readMonitor? o k = none ∨ m.readMonitor? o k = m.monitorOf? o
  shown : k.hasMonitor = true → m.readMonitor? o k = m.monitorOf? o
  inline : m.options.useTable = false → m.readInline? k = m.readMonitor? o k
  /-- With a table no mark is the address of a monitor. -/
  table : m.options.useTable = true → ∀ j, m.readInline? j = none

/-- With a table, a mark with the monitor bits leads to the entry of the object. -/
lemma readMonitor?_table (h : m.WellLinked) (table : m.options.useTable = true) (k : Mark) :
    Locking.readMonitor? m o k = if k.hasMonitor then m.table.get? o else none := by
  unfold Locking.readMonitor? FastLocking.readMonitor?
  rw [if_pos (h.tables table), table]
  rfl

/-- Without a table, a mark leads to the monitor whose address it is. -/
lemma readMonitor?_inline (table : m.options.useTable = false) (k : Mark) :
    Locking.readMonitor? m o k = k.monitor? := by
  unfold Locking.readMonitor? FastLocking.readMonitor?
  rw [table]
  split
  · cases has : k.hasMonitor with
    | true => rfl
    | false => exact (Mark.monitor?_eq_none has).symm
  · rfl

/-- A mark with the monitor bits leads to the same monitor for ever. -/
lemma Retains.read (kept : m.Retains n) (h : m.WellLinked) (has : (m.mark o).hasMonitor = true) :
    Locking.readMonitor? n o (m.mark o) = n.monitorOf? o := by
  obtain ⟨id, leads⟩ := Option.isSome_iff_exists.1 (h.shown o has)
  have leads' := kept.keeps h leads
  rw [leads']
  cases table : n.options.useTable with
  | true =>
    have has' := WellLinked.hasMonitor_of_monitorOf? leads'
    unfold monitorOf? at leads'
    rw [readMonitor?_table kept.linked table, if_pos has'] at leads'
    rw [readMonitor?_table kept.linked table, if_pos has, leads']
  | false =>
    unfold monitorOf? at leads
    rw [readMonitor?_inline (kept.options ▸ table)] at leads
    rw [readMonitor?_inline table, leads]

/-- The readers answer the monitor of an object for every mark that the object ever had. -/
lemma Retains.reads (kept : m.Retains n) (h : m.WellLinked) (o : ObjectId) :
    n.Reads o (m.mark o) := by
  have agree : n.readMonitor? o (m.mark o) = Locking.readMonitor? n o (m.mark o) := by
    unfold readMonitor? readInline?
    cases table : n.options.useTable with
    | true => rfl
    | false => exact (readMonitor?_inline table _).symm
  refine ⟨agree, ?_, fun has => agree.trans (kept.read h has), fun table => ?_, fun table j => ?_⟩
  · cases has : (m.mark o).hasMonitor with
    | true => exact .inr (agree.trans (kept.read h has))
    | false => exact .inl (agree.trans (Locking.readMonitor?_eq_none has))
  · unfold readMonitor?
    rw [table]
    rfl
  · exact if_pos table

/-- What headers and monitors tell at any time. -/
structure Monitored (m : Machine) : Prop where
  /-- The monitor bits lead to a monitor. -/
  shown : ∀ o, (m.mark o).hasMonitor = true ↔ ∃ id, m.monitorOf? o = some id
  /-- Every monitor ever made is the monitor of its object. -/
  linked : ∀ o id, m.monitorOf? o = some id ↔ m.HasMade id ∧ (m.monitor id).object = o
  counted : {o | (m.mark o).hasMonitor = true}.encard = m.monitorCount

/-- What stays from one time to a later one. -/
structure Lasts (m n : Machine) : Prop where
  bits : ∀ o, (m.mark o).hasMonitor = true → (n.mark o).hasMonitor = true
  monitor : ∀ o id, m.monitorOf? o = some id → n.monitorOf? o = some id
  count : m.monitorCount ≤ n.monitorCount
  reads : ∀ o, n.Reads o (m.mark o)

/-- A header has the monitor bits if the object has a monitor. -/
lemma WellLinked.shown_iff (h : m.WellLinked) (o : ObjectId) :
    (m.mark o).hasMonitor = true ↔ ∃ id, m.monitorOf? o = some id :=
  ⟨fun has => Option.isSome_iff_exists.1 (h.shown o has),
    fun ⟨_, leads⟩ => hasMonitor_of_monitorOf? leads⟩

/-- Headers and monitors tell the same at any time. -/
lemma WellLinked.monitored (h : m.WellLinked) : m.Monitored := by
  refine ⟨h.shown_iff, h.linked, ?_⟩
  -- The objects with a monitor are the objects of the monitors, each of one.
  have image : {o | (m.mark o).hasMonitor = true} =
      (fun id => (m.monitor id).object) '' (Finset.range m.monitors.size : Set MonitorId) := by
    ext o
    simp only [Set.mem_ofPred_eq, h.shown_iff, h.linked, Set.mem_image, Finset.coe_range,
      Set.mem_Iio]
  have injective : Set.InjOn (fun id => (m.monitor id).object)
      (Finset.range m.monitors.size : Set MonitorId) := by
    intro i hi j hj same
    rw [Finset.coe_range, Set.mem_Iio] at hi hj
    have leads := (h.linked _ i).2 ⟨hi, same⟩
    have leads' := (h.linked _ j).2 ⟨hj, rfl⟩
    exact Option.some.inj (leads.symm.trans leads')
  rw [image, injective.encard_image, Set.encard_coe_eq_coe_finsetCard, Finset.card_range, h.counted]

/-- What is told of monitors stays true. -/
lemma Retains.lasts (kept : m.Retains n) (h : m.WellLinked) : m.Lasts n where
  bits o has := by
    obtain ⟨id, leads⟩ := (h.shown_iff o).1 has
    exact (kept.linked.shown_iff o).2 ⟨id, kept.keeps h leads⟩
  monitor _ _ leads := kept.keeps h leads
  count := by
    rw [h.counted, kept.linked.counted]
    exact kept.made
  reads := kept.reads h

/-- A new machine has no monitors. -/
lemma wellLinked_new {options : Options} (valid : options.validate = .ok ()) :
    (Machine.new options).WellLinked := by
  have tables : options.useTable = true → options.mode = .lightweight := by
    intro table
    by_contra mode
    rw [Options.validate, if_pos ⟨table, mode⟩] at valid
    cases valid
  have free (o : ObjectId) : ((Machine.new options).mark o).hasMonitor = false :=
    (by decide : LockWord.fresh.hasMonitor = false)
  refine ⟨tables, fun _ => (by decide : LockWord.fresh.hasMonitor = false), fun _ _ _ => nofun,
    fun _ _ => nofun, fun o has => ?_, fun _ _ => nofun, fun o id => ?_, ?_⟩
  · rw [free o] at has
    cases has
  · rw [WellLinked.monitorOf?_eq_none (free o)]
    exact ⟨nofun, fun made => absurd made.1 (Nat.not_lt_zero _)⟩
  · unfold monitorCount
    split <;> rfl

end Machine

/-- Every use of locks and monitors, as long as the monitors have been made. -/
def madeMonitors : Rule := fun s _ x => ∀ w a, x = .act w a →
  ∀ id, a.monitor? = some id → s.machine.HasMade id

instance (s : World) (h : List Event) (x : Move) : Decidable (madeMonitors s h x) :=
  inferInstanceAs (Decidable (∀ w a, x = .act w a → ∀ id ∈ a.monitor?, id < _))

/-- What is known of the monitors at any time, and from then on. -/
structure World.OneMonitor (s : World) (h : List Event) : Prop where
  now : s.machine.Monitored
  lasting : ∀ l, madeMonitors.Allows s h l → s.machine.Lasts (s.follow h l).1.machine

/-- Every sequence of moves retains the monitors. -/
lemma World.retains_follow {s : World} {h : List Event} (linked : s.machine.WellLinked)
    (l : List Move) (allowed : madeMonitors.Allows s h l) :
    s.machine.Retains (s.follow h l).1.machine := by
  induction l generalizing s h with
  | nil => exact .refl linked
  | cons x l ih =>
    have kept := World.machine_move (R := fun m n => m.WellLinked → m.Retains n)
      (fun _ => .refl) (fun first next before => (first before).trans (next (first before).linked))
      Machine.Works.retains allowed.1 linked
    exact kept.trans (ih kept.linked allowed.2)

namespace Run

variable {options : Options} {s : World} {h : List Event}

/-- Headers lead to their monitors in every run. -/
lemma wellLinked (run : Run madeMonitors options s h) (valid : options.validate = .ok ()) :
    s.machine.WellLinked := by
  induction run with
  | new => exact ((Machine.wellLinked_new valid).retains_note _).linked
  | @move s h x _ allowed ih => exact (World.retains_follow ih [x] ⟨allowed, trivial⟩).linked

/-- In every valid configuration an object gets at most one monitor, and keeps it for good. All
readers of marks agree on it, also if the mark is not the latest one. -/
theorem one_monitor (run : Run madeMonitors options s h) (valid : options.validate = .ok ()) :
    s.OneMonitor h :=
  have linked := run.wellLinked valid
  ⟨linked.monitored, fun l allowed => (World.retains_follow linked l allowed).lasts linked⟩

/-- Two threads contend for an object, whose monitor is kept in a table. Its owner then enters the
monitor itself. -/
def tabledMonitor : World × List Event :=
  (World.new ⟨.lightweight, true, 64, 16⟩).follow []
    [.addWorker, .addWorker, .act 0 .attach, .act 1 .attach, .addRecord 0, .addRecord 1,
      .act 0 (.allocate "first" ⟨"Counter", 1, false⟩),
      .act 0 (.allocate "second" ⟨"Counter", 1, false⟩), .act 0 (.enter 1 0 false),
      .act 1 (.enter 1 1 false), .act 0 (.exit 1 0 false), .wake 1, .act 1 (.enterMonitor 0)]

/-- Both threads find the one monitor, and it is there for good. -/
theorem one_monitor_tabled : tabledMonitor.1.machine.monitorOf? 1 = some 0 ∧
    tabledMonitor.1.machine.monitorCount = 1 ∧ tabledMonitor.1.OneMonitor tabledMonitor.2 :=
  ⟨by decide +kernel, by decide +kernel,
    one_monitor (.follow .new _ (by decide +kernel)) (by decide)⟩

end Run

end ObjectLocks
