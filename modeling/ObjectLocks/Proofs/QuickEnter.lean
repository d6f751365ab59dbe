import ObjectLocks.Proofs.Faults
import ObjectLocks.Proofs.Pieces
import ObjectLocks.Proofs.Unguarded

/-!
# Quick enters

A quick enter looks at the same things as an enter, in another order and without waiting, spinning or
making a monitor. If it succeeds, it leaves what an enter would have left. If it is in vain, it has
changed nothing but what an enter changes first, so that an enter after it is as good as an enter
alone.
-/

namespace ObjectLocks

/-- What a quick enter tells about an enter in its place: the enter is complete as well and leaves
the same machine, or it goes on from where the quick enter has ended, which is the machine `k`. -/
def Outcome.Anticipates (enter : Machine → Outcome Entry) (m k : Machine) : Outcome Bool → Prop
  | .ok true n => enter m = .ok .entered n
  | .ok false n => n = k ∧ enter k = enter m
  | .fault _ _ => False

/-- A quick enter anticipates another enter that does the same in both machines. -/
lemma Outcome.Anticipates.congr {enter enter' : Machine → Outcome Entry} {m k : Machine}
    {x : Outcome Bool} (h : x.Anticipates enter m k) (before : enter' m = enter m)
    (after : enter' k = enter k) : x.Anticipates enter' m k := by
  cases x with
  | ok a n =>
    cases a with
    | true => exact before.trans h
    | false =>
      obtain ⟨vain, same⟩ : n = k ∧ enter k = enter m := h
      exact ⟨vain, after.trans (same.trans before.symm)⟩
  | fault f n => exact h

/-- Valid options have a table only with fast-locking, and at least one attempt of a fast lock. -/
lemma Options.of_validate {options : Options} (valid : options.validate = .ok ()) :
    (options.useTable = true → options.mode = .lightweight) ∧ options.fastLockSpins ≠ 0 := by
  unfold validate at valid
  split at valid
  next => cases valid
  next tables =>
    split at valid
    next => cases valid
    next spins =>
      refine ⟨fun table => ?_, spins⟩
      by_contra other
      exact tables ⟨table, other⟩

namespace FastLocking

variable {m : Machine} {t : ThreadId} {o : ObjectId} {r : RecordId} {id : MonitorId}

/-- Forgetting a cached monitor twice is forgetting it once. -/
lemma clearCache_clearCache (m : Machine) (r : RecordId) :
    clearCache (clearCache m r) r = clearCache m r := by
  unfold clearCache
  by_cases table : m.options.useTable = true
  · have table' : (m.setCache r none).options.useTable = true := table
    rw [if_pos table, if_pos table']
    unfold Machine.setCache Machine.modifyRecord Store.modify
    simp only [Store.get_set_self, Store.set_set]
  · rw [if_neg table, if_neg table]

/-- An enter forgets the cached monitor first anyway. -/
lemma enter_clearCache : enter (clearCache m r) t o r = enter m t o r := by
  unfold enter
  rw [clearCache_clearCache]

/-- An object that has a monitor is inflated already. -/
lemma inflate_of_readMonitor? (read : readMonitor? m o (m.mark o) = some id)
    (cause : InflationCause) : inflate m t o cause = .ok id m := by
  unfold readMonitor? at read
  split at read
  next has =>
    unfold inflate
    split at read
    next table =>
      rw [if_pos table]
      unfold inflateIntoTable tableMonitor
      simp only [read, has, if_true]
    next table =>
      rw [if_neg table]
      unfold inflateInline
      simp only [read]
  next => cases read

/-- A monitor that can be entered at once is not owned anonymously, and the order in which it is
entered and cached does not matter. -/
lemma enterInflated_of_tryEnter {x : Monitor} (read : readMonitor? m o (m.mark o) = some id)
    (entered : (m.monitor id).tryEnter t = some x) (cause : InflationCause) :
    enterInflated m t o r cause = .ok .entered (fillCache (m.setMonitor id x) r id) := by
  have known : (m.monitor id).hasAnonymousOwner = false :=
    beq_eq_false_iff_ne.2 (Monitor.tryEnter_owner_ne entered)
  have same : (fillCache m r id).monitor id = m.monitor id := by
    unfold fillCache
    split <;> rfl
  have order : (fillCache m r id).setMonitor id x = fillCache (m.setMonitor id x) r id := by
    unfold fillCache
    show _ = if m.options.useTable then _ else _
    split <;> rfl
  have entered' : ((fillCache m r id).monitor id).tryEnter t = some x := by rw [same, entered]
  unfold enterInflated
  simp only [inflate_of_readMonitor? read, Outcome.bind, known, Bool.false_and, Bool.false_eq_true,
    if_false]
  rw [Machine.enterMonitor_of_tryEnter entered', order]

/-- With fast-locking a quick enter anticipates an enter, and in vain it forgets the cached monitor.
-/
lemma quickEnter_anticipates (spins : m.options.fastLockSpins ≠ 0) :
    (quickEnter m t o r).Anticipates (enter · t o r) m (clearCache m r) := by
  have vain : clearCache m r = clearCache m r ∧ enter (clearCache m r) t o r = enter m t o r :=
    ⟨rfl, enter_clearCache⟩
  have spins' : (clearCache m r).options.fastLockSpins ≠ 0 := by
    unfold clearCache
    split <;> exact spins
  unfold quickEnter
  cases again : ((clearCache m r).lockStack t).tryRecursiveEnter o with
  | some s =>
    simp only [again]
    show enter m t o r = .ok .entered _
    unfold enter
    simp only [again]
  | none =>
    simp only [again]
    split
    next unlocked =>
      split
      next => exact vain
      next room =>
        have never := lockFast_never (m := clearCache m r) (o := o) (Bool.eq_false_iff.2 room)
        cases locked : lockFast (clearCache m r) t o with
        | ok _ n =>
          show enter m t o r = .ok .entered n
          unfold enter
          simp only [again, room, Bool.false_eq_true, if_false]
          rw [if_pos ⟨spins', unlocked⟩, locked]
          rfl
        | fault f n =>
          rw [locked] at never
          cases never
    next locked =>
      split
      next id read =>
        unfold Machine.tryEnterMonitor
        cases entered : ((clearCache m r).monitor id).tryEnter t with
        | none => exact vain
        | some x =>
          -- Whether the lock stack is full or not, the enter goes through the monitor.
          show enter m t o r = .ok .entered (fillCache ((clearCache m r).setMonitor id x) r id)
          unfold enter
          simp only [again]
          split
          next => exact enterInflated_of_tryEnter read entered _
          next =>
            rw [if_neg fun spin => locked spin.2]
            exact enterInflated_of_tryEnter read entered _
      next => exact vain

end FastLocking

namespace StackLocking

variable {m : Machine} {t : ThreadId} {o : ObjectId} {r : RecordId}

/-- With stack-locking a quick enter anticipates an enter, and in vain it changes nothing. -/
lemma quickEnter_anticipates : (quickEnter m t o r).Anticipates (enter · t o r) m m := by
  have vain : m = m ∧ enter m t o r = enter m t o r := ⟨rfl, rfl⟩
  unfold quickEnter
  split
  next id hk =>
    unfold Machine.tryEnterMonitor
    cases entered : (m.monitor id).tryEnter t with
    | none => exact vain
    | some x =>
      have through (cause) : enterInflated m t o r cause =
          .ok .entered ((m.setMonitor id x).modifyRecord r .throughMonitor) := by
        have hk' : (m.modifyRecord r .throughMonitor).mark o = .monitor id := hk
        have entered' : ((m.modifyRecord r .throughMonitor).monitor id).tryEnter t = some x := entered
        unfold enterInflated inflate
        simp only [hk', Outcome.bind]
        exact Machine.enterMonitor_of_tryEnter entered'
      show enter m t o r = .ok .entered ((m.setMonitor id x).modifyRecord r .throughMonitor)
      unfold enter tryStackLock
      simp only [hk, Outcome.bind, through, ite_self]
  next => exact vain
  next => exact vain

end StackLocking

namespace Machine

/-- The machine after a quick enter in vain: with a table, the record no longer caches a monitor. -/
def forget (m : Machine) (r : RecordId) : Machine :=
  if m.options.useTable then m.setCache r none else m

variable {m : Machine} {t : ThreadId} {o : ObjectId} {r : RecordId}

/-- A quick enter in vain leaves the options alone. -/
@[simp] lemma options_forget : (m.forget r).options = m.options := by
  unfold forget
  split <;> rfl

/-- A quick enter in vain leaves the threads alone. -/
lemma thread_forget : (m.forget r).thread = m.thread := by
  unfold forget
  split <;> rfl

/-- A quick enter in vain leaves the objects alone. -/
lemma object_forget : (m.forget r).object = m.object := by
  unfold forget
  split <;> rfl

end Machine

namespace Locking

variable {m : Machine} {t : ThreadId} {o : ObjectId} {r : RecordId}

/-- In every mode a quick enter anticipates an enter. -/
lemma quickEnter_anticipates (valid : m.options.validate = .ok ()) :
    (quickEnter m t o r).Anticipates (enter · t o r) m (m.forget r) := by
  obtain ⟨tables, spins⟩ := Options.of_validate valid
  unfold quickEnter
  split
  next fast =>
    refine (FastLocking.quickEnter_anticipates (o := o) (r := r) spins).congr ?_ ?_
    · exact congrFun (congrFun (congrFun (if_pos fast) t) o) r
    · have fast' : (m.forget r).options.mode = .lightweight := by rwa [Machine.options_forget]
      exact congrFun (congrFun (congrFun (if_pos fast') t) o) r
  next stack =>
    have inline : m.forget r = m := if_neg fun table => stack (tables table)
    have same : enter m t o r = StackLocking.enter m t o r :=
      congrFun (congrFun (congrFun (if_neg stack) t) o) r
    rw [inline]
    exact StackLocking.quickEnter_anticipates.congr same same

end Locking

namespace Machine

variable {m : Machine} {t : ThreadId} {o : ObjectId} {r : RecordId}

/-- Outside of no-safepoint regions, an enter of an object of an ordinary class is what the locking
algorithm does, and is counted. -/
lemma enter_ordinary (unguarded : (m.thread t).guards = 0)
    (ordinary : (m.object o).type.valueBased = false) : m.enter t o r =
      (Locking.enter m t o r).bind fun entry m =>
        .ok entry (if entry = .entered then m.modifyThread t .gain else m) := by
  have warned : m.warnValueBased t o = m := if_neg (by rw [ordinary]; exact nofun)
  unfold enter checkSafepoint
  rw [if_pos unguarded]
  simp only [Outcome.bind, warned]

/-- A quick enter of an object of an ordinary class is what the locking algorithm does, and is
counted. -/
lemma quickEnter_ordinary (managed : (m.thread t).state = .inManaged)
    (ordinary : (m.object o).type.valueBased = false) : m.quickEnter t (some o) r =
      (Locking.quickEnter m t o r).bind fun entered m =>
        .ok entered (if entered then m.modifyThread t .gain else m) := by
  unfold quickEnter
  rw [if_neg (not_not_intro managed)]
  exact if_neg (by rw [ordinary]; exact nofun)

/-- A quick enter of an object of a value-based class is in vain. -/
lemma quickEnter_valueBased (managed : (m.thread t).state = .inManaged)
    (valueBased : (m.object o).type.valueBased = true) :
    m.quickEnter t (some o) r = .ok false m := by
  unfold quickEnter
  rw [if_neg (not_not_intro managed)]
  exact if_pos valueBased

/-- With its bookkeeping a quick enter anticipates an enter. -/
lemma quickEnter_anticipates (valid : m.options.validate = .ok ())
    (managed : (m.thread t).state = .inManaged) (unguarded : (m.thread t).guards = 0) :
    (m.quickEnter t (some o) r).Anticipates (·.enter t o r) m
      (if (m.object o).type.valueBased then m else m.forget r) := by
  cases ordinary : (m.object o).type.valueBased with
  | true =>
    rw [quickEnter_valueBased managed ordinary]
    exact ⟨rfl, rfl⟩
  | false =>
    have anticipates := Locking.quickEnter_anticipates (t := t) (o := o) (r := r) valid
    have enter := enter_ordinary (r := r) unguarded ordinary
    have enter' := enter_ordinary (m := m.forget r) (r := r) (by rwa [thread_forget])
      (by rwa [object_forget])
    rw [quickEnter_ordinary managed ordinary]
    match eq : Locking.quickEnter m t o r with
    | .ok true n =>
      rw [eq] at anticipates
      show m.enter t o r = .ok .entered (n.modifyThread t .gain)
      rw [enter, show Locking.enter m t o r = _ from anticipates]
      rfl
    | .ok false n =>
      rw [eq] at anticipates
      obtain ⟨rfl, same⟩ := anticipates
      refine ⟨rfl, ?_⟩
      show (m.forget r).enter t o r = m.enter t o r
      rw [enter, enter', show Locking.enter (m.forget r) t o r = _ from same]
    | .fault f n =>
      rw [eq] at anticipates
      exact anticipates.elim

/-- A quick enter in vain has changed something only if it has looked at the lock. -/
lemma quickEnter_vain (valid : m.options.validate = .ok ()) {x : Option ObjectId} {n : Machine}
    (vain : m.quickEnter t x r = .ok false n) :
    n = if x.any fun o => !(m.object o).type.valueBased then m.forget r else m := by
  by_cases managed : (m.thread t).state = .inManaged
  · cases x with
    | none =>
      unfold quickEnter at vain
      rw [if_neg (not_not_intro managed)] at vain
      cases vain
      rfl
    | some o =>
      rw [Option.any_some]
      cases ordinary : (m.object o).type.valueBased with
      | true =>
        rw [quickEnter_valueBased managed ordinary] at vain
        cases vain
        rfl
      | false =>
        rw [quickEnter_ordinary managed ordinary] at vain
        have anticipates := Locking.quickEnter_anticipates (t := t) (o := o) (r := r) valid
        match eq : Locking.quickEnter m t o r with
        | .ok false n' =>
          rw [eq] at vain anticipates
          cases vain
          exact anticipates.1
        | .ok true n' | .fault f n' =>
          rw [eq] at vain
          cases vain
  · unfold quickEnter at vain
    rw [if_pos managed] at vain
    cases vain

end Machine

namespace World

variable {s : World} {w : WorkerId} {t : ThreadId} {o : ObjectId} {r : RecordId} {raw : Bool}

/-- A quick enter, and an enter after it if it was in vain. -/
def quickThenEnter (s : World) (w : WorkerId) (o : ObjectId) (r : RecordId) (raw : Bool) :
    World × Progress :=
  match s.move (.act w (.quickEnter (some o) r raw)) with
  | (s, .answered (.flag true)) => (s, .answered .done)
  | (s, .answered (.flag false)) => s.move (.act w (.enter o r raw))
  | other => other

/-- The world after a quick enter in vain. It has looked at the lock if there is an object, and not
of a value-based class, which a raw quick enter does not ask. -/
def forget (s : World) (x : Option ObjectId) (r : RecordId) (raw : Bool) : World :=
  if x.any fun o => raw || !(s.machine.object o).type.valueBased then
    { s with machine := s.machine.forget r }
  else s

/-- What quick enters do at any time. -/
structure EntersQuickly (s : World) : Prop where
  /-- Followed by an enter if it was in vain, a quick enter is as good as an enter alone. -/
  agrees : ∀ w t o r raw, (s.worker w).thread = some t → (s.machine.thread t).state = .inManaged →
    (s.machine.thread t).guards = 0 →
    s.quickThenEnter w o r raw = s.move (.act w (.enter o r raw))
  ends : ∀ w x r raw, (s.worker w).wait = none →
    (s.move (.act w (.quickEnter x r raw))).2 ≠ .waiting
  vain : ∀ w x r raw s', s.move (.act w (.quickEnter x r raw)) = (s', .answered (.flag false)) →
    s' = s.forget x r raw

/-- Enters that do the same go on in the same way. -/
lemma concludeEnter_congr {enter : Machine → Outcome Entry} {n : Machine}
    (same : enter n = enter s.machine) (goal : Goal) :
    { s with machine := n }.concludeEnter w goal enter = s.concludeEnter w goal enter := by
  cases s
  simp only [concludeEnter, World.enter, operate, show enter n = enter _ from same]

/-- A quick enter that anticipates the enter after it leaves what the enter alone leaves. -/
lemma agrees_of_anticipates {quick : Machine → Outcome Bool} {enter : Machine → Outcome Entry}
    {k : Machine} {goal : Goal} (h : (quick s.machine).Anticipates enter s.machine k)
    (quicks : s.move (.act w (.quickEnter (some o) r raw)) = s.conclude .flag quick)
    (enters : ∀ n, { s with machine := n }.move (.act w (.enter o r raw)) =
      { s with machine := n }.concludeEnter w goal enter) :
    s.quickThenEnter w o r raw = s.move (.act w (.enter o r raw)) := by
  have alone : s.move (.act w (.enter o r raw)) = s.concludeEnter w goal enter := enters s.machine
  unfold quickThenEnter
  rw [quicks, alone]
  match eq : quick s.machine with
  | .ok true n =>
    rw [eq] at h
    have entered : s.concludeEnter w goal enter = ({ s with machine := n }, .answered .done) := by
      unfold concludeEnter World.enter
      rw [operate_ok h]
    rw [conclude_ok eq, entered]
  | .ok false n =>
    rw [eq] at h
    obtain ⟨rfl, same⟩ := h
    rw [conclude_ok eq]
    show { s with machine := n }.move (.act w (.enter o r raw)) = _
    rw [enters n, concludeEnter_congr same]
  | .fault f n =>
    rw [eq] at h
    exact h.elim

/-- A quick enter and an enter after it leave what the enter alone leaves. -/
lemma agrees (valid : s.machine.options.validate = .ok ()) (ht : (s.worker w).thread = some t)
    (managed : (s.machine.thread t).state = .inManaged)
    (unguarded : (s.machine.thread t).guards = 0) :
    s.quickThenEnter w o r raw = s.move (.act w (.enter o r raw)) := by
  cases wait : (s.worker w).wait with
  | some x =>
    unfold quickThenEnter
    rw [move_of_waits wait, move_of_waits wait]
  | none =>
    have begins (n : Machine) (a : Action) :
        { s with machine := n }.move (.act w a) = { s with machine := n }.act w t a := by
      have free : ({ s with machine := n }.worker w).wait = none := wait
      have ht' : ({ s with machine := n }.worker w).thread = some t := ht
      rw [move_act free, begin_attached ht']
    cases raw with
    | true =>
      exact agrees_of_anticipates (Locking.quickEnter_anticipates valid) (begins s.machine _)
        fun n => begins n _
    | false =>
      exact agrees_of_anticipates (Machine.quickEnter_anticipates valid managed unguarded)
        (begins s.machine _) fun n => begins n _

/-- An operation that is answered has the value of the answer. -/
lemma conclude_eq {α : Type} {answer : α → Answer} {operation : Machine → Outcome α} {s' : World}
    {b : Answer} (eq : s.conclude answer operation = (s', .answered b)) :
    ∃ a n, operation s.machine = .ok a n ∧ answer a = b ∧ s' = { s with machine := n } := by
  cases done : operation s.machine with
  | ok a n =>
    rw [conclude_ok done] at eq
    cases eq
    exact ⟨a, n, rfl, rfl, rfl⟩
  | fault f n =>
    rw [conclude_fault done] at eq
    cases eq

/-- A quick enter is an operation of the machine, and has no part in waits. -/
lemma quickEnter_act (ht : (s.worker w).thread = some t) (x : Option ObjectId) :
    s.begin w (.quickEnter x r raw) = s.conclude .flag fun m =>
      match x, raw with
      | some o, true => Locking.quickEnter m t o r
      | x, _ => m.quickEnter t x r := by
  rw [begin_attached ht]
  cases x <;> cases raw <;> rfl

/-- A quick enter does not wait. -/
lemma quickEnter_ends (free : (s.worker w).wait = none) (x : Option ObjectId) :
    (s.move (.act w (.quickEnter x r raw))).2 ≠ .waiting := by
  intro waits
  rw [move_act free] at waits
  cases ht : (s.worker w).thread with
  | none =>
    simp only [World.begin, ht] at waits
    cases waits
  | some t =>
    rw [quickEnter_act ht] at waits
    generalize (fun m => _ : Machine → Outcome Bool) = operation at waits
    cases eq : operation s.machine with
    | ok a n =>
      rw [conclude_ok eq] at waits
      cases waits
    | fault f n =>
      rw [conclude_fault eq] at waits
      cases waits

/-- A quick enter in vain has forgotten the cached monitor at most. -/
lemma quickEnter_vain (valid : s.machine.options.validate = .ok ()) {x : Option ObjectId}
    {s' : World}
    (vain : s.move (.act w (.quickEnter x r raw)) = (s', .answered (.flag false))) :
    s' = s.forget x r raw := by
  cases wait : (s.worker w).wait with
  | some y =>
    rw [move_of_waits wait] at vain
    cases vain
  | none =>
    rw [move_act wait] at vain
    cases ht : (s.worker w).thread with
    | none =>
      simp only [World.begin, ht] at vain
      cases vain
    | some t =>
      rw [quickEnter_act ht] at vain
      obtain ⟨b, n, eq, flag, rfl⟩ := conclude_eq vain
      cases flag
      unfold forget
      cases x with
      | none =>
        have vain : s.machine.quickEnter t none r = .ok false n := by cases raw <;> exact eq
        rw [Machine.quickEnter_vain valid vain]
        rfl
      | some o =>
        cases raw with
        | true =>
          have anticipates := Locking.quickEnter_anticipates (t := t) (o := o) (r := r) valid
          rw [show Locking.quickEnter s.machine t o r = _ from eq] at anticipates
          rw [anticipates.1]
          rfl
        | false =>
          rw [Machine.quickEnter_vain valid eq, Option.any_some, Option.any_some, Bool.false_or]
          split <;> rfl

/-- Quick enters agree with enters in every world with valid options. -/
lemma entersQuickly (valid : s.machine.options.validate = .ok ()) : s.EntersQuickly where
  agrees _ _ _ _ _ ht managed unguarded := agrees valid ht managed unguarded
  ends _ x _ _ free := quickEnter_ends free x
  vain _ _ _ _ _ vain := quickEnter_vain valid vain

end World

namespace Machine

variable {m n : Machine} {t : ThreadId}

/-- What an operation does to a machine with headers that fit it: they still do, and the options are
the same. -/
def Settles (m n : Machine) : Prop := m.WellMarked → n.options = m.options ∧ n.WellMarked

/-- An alteration leaves the headers fitting and the options alone. -/
lemma Alters.settles (h : m.Alters t n) : m.Settles n :=
  fun marked => ⟨h.options, h.marked marked⟩

/-- An exit of a monitor leaves the headers fitting and the options alone. -/
lemma Exits.settles (h : m.Exits t n) : m.Settles n := by
  obtain ⟨k, id, y, alters, -, -, rfl⟩ := h
  exact alters.settles

end Machine

namespace Outcome

variable {α : Type} {m : Machine} {t : ThreadId}

/-- An operation that alters the machine leaves the headers fitting and the options alone. -/
lemma Alters.settles {x : Outcome α} (h : x.Alters t m) : m.Settles x.machine := by
  cases x with
  | ok a n => exact Machine.Alters.settles h
  | fault f n => exact Machine.Alters.settles h.1

/-- An enter leaves the headers fitting and the options alone. -/
lemma Enqueues.settles {x : Outcome Entry} (h : x.Enqueues t m) : m.Settles x.machine := by
  match x, h with
  | .ok .entered n, h => exact Machine.Alters.settles h
  | .ok (.queued id resume) n, ⟨k, alters, _, _, _, _, eq⟩ =>
    subst eq
    exact alters.settles
  | .fault f n, h => exact h.1.settles

/-- An exit leaves the headers fitting and the options alone. -/
lemma Exits.settles {x : Outcome Unit} (h : x.Exits t m) : m.Settles x.machine := by
  cases x with
  | ok a n => exact h.elim Machine.Alters.settles Machine.Exits.settles
  | fault f n => exact Machine.Alters.settles h.1

end Outcome

/-- Every operation leaves the headers fitting and the options alone. -/
lemma Machine.Works.settles {may : Machine → MonitorId → Prop} {m n : Machine}
    (works : m.Works may n) : m.Settles n := by
  intro marked
  cases works with
  | aside h =>
    refine ⟨h.options, fun mode o => ?_⟩
    rw [h.mark, h.table]
    exact marked (h.options ▸ mode) o
  | enter t o r => exact (Locking.enter_enqueues marked).settles marked
  | quickEnter t o r => exact (Locking.quickEnter_alters marked).settles marked
  | exit t o r => exact (Locking.exit_exits marked).settles marked
  | inflate t o cause => exact (Locking.inflate_alters marked cause).settles marked
  | identityHash t o => exact (identityHash_alters marked).settles marked
  | enterMonitor t _ => exact (enterMonitor_enqueues m t _).settles marked
  | tryEnterMonitor t _ => exact (tryEnterMonitor_alters m t _).settles marked
  | exitMonitor t _ => exact (exitMonitor_exits m t _).settles marked
  | claimMonitor t n _ => exact (claimMonitor_alters m t _ n).settles marked
  | monitorHash t _ => exact (alters_monitorHash m t _).settles marked
  | modifyObject o same => exact (alters_modifyObject m 0 o same).settles marked
  | allocate label c => exact (alters_allocate m 0 label c).settles marked
  | addRecord w => exact ⟨rfl, marked⟩

namespace Run

variable {rule : Rule} {options : Options} {s : World} {h : List Event}

/-- The options of a system never change. -/
lemma options_eq (run : Run rule options s h) : s.machine.options = options := by
  induction run with
  | new => rfl
  | @move s h x run _ ih =>
    have settles : s.machine.Settles (s.move x).1.machine := by
      refine World.machine_move (fun _ marked => ⟨rfl, marked⟩) (fun first second marked => ?_)
        (fun (works : Machine.Works (fun _ _ => True) _ _) => works.settles)
        fun _ _ _ _ _ => trivial
      obtain ⟨same, marked⟩ := first marked
      exact ⟨(second marked).1.trans same, (second marked).2⟩
    exact (settles run.wellMarked).1.trans ih

/-- At any time of any run with valid options, quick enters agree with enters, and those in vain
change nothing that matters. -/
theorem quick_enter_agrees (run : Run rule options s h) (valid : options.validate = .ok ()) :
    s.EntersQuickly :=
  World.entersQuickly (run.options_eq ▸ valid)

/-- With a table, a thread holds an object whose monitor is cached by a record of another thread. -/
def busy : World × List Event :=
  (World.new { Options.ofMode .lightweight with useTable := true }).follow []
    [.addWorker, .addWorker, .act 0 .attach, .act 1 .attach, .addRecord 0, .addRecord 1,
      .act 0 (.allocate "shared" ⟨"Counter", 1, false⟩), .act 1 (.inflate 0 .monitorEnter),
      .act 1 (.enter 0 1 false), .act 1 (.exit 0 1 false), .act 0 (.enter 0 0 false)]

/-- The quick enter is in vain and has forgotten the cached monitor. An enter after it waits like
one without it. -/
theorem quick_enter_agrees_busy :
    (busy.1.move (.act 1 (.quickEnter (some 0) 1 false))).2 = .answered (.flag false) ∧
      busy.1.quickThenEnter 1 0 1 false = busy.1.move (.act 1 (.enter 0 1 false)) ∧
      (busy.1.move (.act 1 (.quickEnter (some 0) 1 false))).1 = busy.1.forget (some 0) 1 false := by
  have agrees : busy.1.EntersQuickly :=
    quick_enter_agrees (.follow .new _ (anything.allows _ _ _)) (rfl : Options.validate _ = _)
  have vain : (busy.1.move (.act 1 (.quickEnter (some 0) 1 false))).2 = .answered (.flag false) := by
    decide +kernel
  refine ⟨vain, agrees.agrees 1 3 0 1 false (by decide +kernel) (by decide +kernel)
    (by decide +kernel), agrees.vain 1 (some 0) 1 false _ ?_⟩
  exact Prod.ext rfl vain

end Run

end ObjectLocks
