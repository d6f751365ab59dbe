import ObjectLocks.Proofs.ExitDepth
import ObjectLocks.Proofs.Faults
import ObjectLocks.Proofs.Pieces

/-!
# Exits by threads that do not hold the lock

An exit by a thread that does not hold the object is rejected, and leaves every lock as it was, in
all modes but one. With stack-locking, an exit goes by its record before it looks at the object: a
record that stands for a further enter is taken back whatever object it was entered with, and a
record is taken from its thread before the exit is rejected, so that a stack lock made with it is
held by nobody any more.
-/

namespace ObjectLocks

namespace FastLocking

variable {m : Machine} {v w : LockView} {t : ThreadId} {op : Operation} {o : ObjectId}
  {r : RecordId}

/-- What is on the lock stack of a thread is held by it. -/
lemma Coherent.holds_of_mem (h : Coherent v) (mem : o ∈ v.lockStack t) : Holds v t o := by
  have placed := h.placed o
  unfold Holds
  cases hf : v.form o with
  | unlocked => exact placed.unlocked hf t mem
  | fast => exact mem
  | inflated id =>
    by_cases own : (v.monitor id).owner = .anonymous
    · exact .inr ⟨own, mem⟩
    · exact absurd mem (placed.inflated hf own t)
  | stacked _ | invalid =>
    rw [Placed, hf] at placed
    exact placed.elim

/-- Who holds an inflated object owns its monitor, or has it on the lock stack if the owner is
anonymous. -/
lemma holds_inflated {id : MonitorId} (ho : v.form o = .inflated id) :
    Holds v t o ↔ (v.monitor id).owner = .thread t ∨
      (v.monitor id).owner = .anonymous ∧ o ∈ v.lockStack t := by
  rw [Holds, ho]

/-- A change of its monitor decides anew who holds an inflated object. -/
lemma holds_setMonitor {id : MonitorId} {x : Monitor} (ho : v.form o = .inflated id) :
    Holds (v.setMonitor id x) t o ↔
      x.owner = .thread t ∨ x.owner = .anonymous ∧ o ∈ v.lockStack t := by
  rw [holds_inflated (v := v.setMonitor id x) ho, LockView.setMonitor_monitor, Function.update_self]
  rfl

/-- A silent change gives the object to nobody and takes it from nobody. -/
lemma Change.holds (c : Change t op v none w) (h : Coherent v) :
    Holds w t op.object ↔ Holds v t op.object := by
  cases c with
  | inflateFree ho =>
    rw [holds_inflated (Function.update_self ..), Holds, ho]
    simp [LockView.inflate, Monitor.new]
  | inflateOwn ho mem =>
    refine iff_of_true ((holds_inflated (Function.update_self ..)).2 (.inl ?_)) (h.holds_of_mem mem)
    simp [LockView.inflate, LockView.dropObject, Monitor.ownedBy]
  | inflateOther ho _ =>
    rw [holds_inflated (Function.update_self ..), Holds, ho]
    simp [LockView.inflate, Monitor.ownedBy]
  | claim ho own mem =>
    exact iff_of_true ((holds_setMonitor (v := v.dropObject t op.object) ho).2 (.inl rfl))
      (h.holds_of_mem mem)
  | annotate ho same =>
    rw [holds_setMonitor ho, holds_inflated ho, same.owner]
  | cache _ => exact Iff.rfl

/-- Whoever completes an exit held the object. -/
lemma Change.exited_holds (c : Change t (.exit o r) v (some (.exited t o r)) w) (h : Coherent v) :
    Holds v t o := by
  cases c with
  | drop top => exact h.holds_of_mem (by rw [top]; simp)
  | unlock _ mem _ => exact h.holds_of_mem mem
  | exitMonitor ho exit => exact (holds_inflated ho).2 (.inl (Monitor.exit?_eq_some exit).1)

/-- Only the thread that holds an object completes an exit of it. -/
lemma exit_holds {n : Machine} (h : Coherent m.view) (attached : t < m.nextThread)
    (exited : exit m t o r = .ok () n) : holdsLock m t o = true := by
  have follows := exit_follows (t := t) (o := o) (r := r) h
  rw [exited] at follows
  obtain ⟨u, ⟨coherent, -, same⟩, c⟩ := Steps.before_event
    (P := fun v => Coherent v ∧ t < v.nextThread ∧ (Holds v t o ↔ Holds m.view t o)) follows
    ⟨h, attached, Iff.rfl⟩ fun ⟨h, attached, same⟩ c =>
      ⟨c.coherent h attached, c.nextThread ▸ attached, (c.holds h).trans same⟩
  rw [holdsLock_iff h, ← same]
  exact c.exited_holds coherent

/-- Whoever claims a monitor owns it. -/
lemma claim_isOwner {id : MonitorId} {n : Machine} (claimed : claim m t o id = .ok () n) :
    (n.monitor id).isOwner t = true := by
  unfold claim Machine.claimMonitor at claimed
  dsimp only at claimed
  split at claimed
  next => cases claimed
  next =>
    split at claimed
    next x claim =>
      cases claimed
      obtain ⟨-, rfl⟩ := Monitor.claim?_eq_some claim
      rw [Machine.monitor_setMonitor, Function.update_self]
      exact beq_self_eq_true _
    next => cases claimed

/-- An exit of an inflated object that is rejected is logged, and the monitor stays as it is. -/
lemma exitInflated_rejected {id : MonitorId} {f : Fault} {n : Machine}
    (rejected : exitInflated m t o id = .fault f n) : n = m.note (.illegalExit t o) := by
  have checked {k : Machine} (rejected : (if (k.monitor id).isOwner t then k.exitMonitor t id
      else k.illegalExit t o) = .fault f n) :
      n = k.note (.illegalExit t o) ∧ (k.monitor id).isOwner t = false := by
    split at rejected
    next own =>
      have never := Machine.exitMonitor_never own
      rw [rejected] at never
      cases never
    next other =>
      cases rejected
      exact ⟨rfl, Bool.eq_false_iff.2 other⟩
  unfold exitInflated at rejected
  dsimp only at rejected
  split at rejected
  next anonymous =>
    split at rejected
    next held =>
      -- A claim does not fail, and is no reason to reject the exit.
      have never := claim_never anonymous held
      cases claimed : claim m t o id with
      | ok _ k =>
        rw [claimed] at rejected
        cases (checked rejected).2.symm.trans (claim_isOwner claimed)
      | fault f k =>
        rw [claimed] at never
        cases never
    next =>
      cases rejected
      rfl
  next => exact (checked rejected).1

/-- A rejected exit of fast-locking is logged and does nothing else. -/
lemma exit_rejected {f : Fault} {n : Machine} (rejected : exit m t o r = .fault f n) :
    n = m.note (.illegalExit t o) := by
  unfold exit at rejected
  split at rejected
  next => cases rejected
  next =>
    dsimp only at rejected
    split at rejected
    next => cases rejected
    next =>
      split at rejected
      next => exact exitInflated_rejected rejected
      next =>
        cases rejected
        rfl

end FastLocking

namespace Machine

/-- An exit of stack-locking that is complete whether or not the thread holds the object: its record
stands for a further enter of some object, or the header of the object points to the record. -/
def Slips (m : Machine) (t : ThreadId) (o : ObjectId) (r : RecordId) : Prop :=
  m.options.mode = .legacy ∧
    if (m.record r).isRecursive then (m.lockRecords t).contains r = true
    else (m.record r).displaced ≠ .unused ∧ m.mark o = .record r

instance (m : Machine) (t : ThreadId) (o : ObjectId) (r : RecordId) : Decidable (m.Slips t o r) :=
  inferInstanceAs (Decidable (_ ∧ ite ..))

/-- The record is taken from the thread, and nothing else happens. -/
structure Drops (m : Machine) (t : ThreadId) (r : RecordId) (n : Machine) : Prop where
  aside : m.Aside n
  registry : n.registry = m.registry
  nextThread : n.nextThread = m.nextThread
  notices : n.notices = m.notices
  thread : ∀ u, n.thread u =
    if u = t then { m.thread u with lockRecords := (m.lockRecords u).remove r } else m.thread u

variable {m n : Machine} {t : ThreadId} {r : RecordId}

/-- Dropping a record from its thread is all that `dropRecord` does. -/
lemma drops_dropRecord (m : Machine) (t : ThreadId) (r : RecordId) :
    m.Drops t r (m.dropRecord t r) := by
  refine ⟨⟨rfl, rfl, rfl, rfl, rfl, rfl⟩, rfl, rfl, rfl, fun u => ?_⟩
  unfold dropRecord setLockRecords
  rw [thread_modifyThread]
  split
  next eq => rw [eq]
  next => rfl

/-- How an exit ends: it is complete if it slips or the thread holds the object. Otherwise it drops
the record and is rejected. -/
def Checks (m : Machine) (t : ThreadId) (o : ObjectId) (r : RecordId) : Outcome Unit → Prop
  | .ok _ _ => m.Slips t o r ∨ m.holdsLock t o = true
  | .fault f n => ¬ m.Slips t o r ∧ f = .illegalExit t o ∧
      ∃ k, m.Drops t r k ∧ n = k.note (.illegalExit t o)

/-- Without the record among the lock records of the thread, nothing is dropped. -/
lemma drops_of_absent (absent : (m.lockRecords t).contains r = false) : m.Drops t r m := by
  refine ⟨⟨rfl, rfl, rfl, rfl, rfl, rfl⟩, rfl, rfl, rfl, fun u => ?_⟩
  split
  next eq =>
    subst eq
    rw [LockStack.remove_of_absent absent]
    rfl
  next => rfl

end Machine

namespace StackLocking

variable {m : Machine} {t : ThreadId} {o : ObjectId} {r : RecordId}

/-- An exit through the monitor that does not slip is complete for the holder of the object only. -/
lemma exitInflated_checks (mode : m.options.mode ≠ .lightweight) (checked : ¬ m.Slips t o r) :
    m.Checks t o r (exitInflated m t o r) := by
  have drops := Machine.drops_dropRecord m t r
  have rejected : m.Checks t o r ((m.dropRecord t r).illegalExit t o) := ⟨checked, rfl, _, drops, rfl⟩
  unfold exitInflated
  dsimp only
  split
  next id hk =>
    split
    next own =>
      have held : m.holdsLock t o = true := by
        unfold Machine.holdsLock holdsLock
        rw [if_neg mode, show m.mark o = .monitor id from hk]
        exact own
      have never := Machine.exitMonitor_never own
      cases eq : (m.dropRecord t r).exitMonitor t id with
      | ok _ n => exact .inr held
      | fault f n =>
        rw [eq] at never
        cases never
    next => exact rejected
  next => exact rejected
  next => exact rejected

/-- Every exit of stack-locking slips, is complete for the holder of the object, or is rejected. -/
lemma exit_checks (mode : m.options.mode ≠ .lightweight) : m.Checks t o r (exit m t o r) := by
  unfold exit
  dsimp only
  split
  next heavy =>
    refine exitInflated_checks mode fun slips => ?_
    cases heavy.symm.trans slips.1
  next light =>
    have legacy : m.options.mode = .legacy := by
      cases eq : m.options.mode <;> simp_all
    split
    next again =>
      split
      next mem => exact .inl ⟨legacy, by rwa [if_pos again]⟩
      next out =>
        have absent : (m.lockRecords t).contains r = false := Bool.eq_false_iff.2 out
        refine ⟨fun slips => out ?_, rfl, m, Machine.drops_of_absent absent, rfl⟩
        have listed := slips.2
        rwa [if_pos again] at listed
    next first =>
      split
      next published => exact .inl ⟨legacy, by rwa [if_neg first]⟩
      next hidden =>
        refine exitInflated_checks mode fun slips => hidden ?_
        have published := slips.2
        rwa [if_neg first] at published

end StackLocking

namespace Machine

variable {m n : Machine} {t u : ThreadId} {o p : ObjectId} {r : RecordId}

/-- The machine as an exit by thread `t` finds it: its count of held locks has dropped, unless the
exit is a raw one. -/
def counted (m : Machine) (raw : Bool) (t : ThreadId) : Machine :=
  if raw then m else m.modifyThread t .lose

/-- A rejected exit takes its record from the thread. -/
def Strikes (m : Machine) (t : ThreadId) (r : RecordId) : Prop :=
  m.options.mode = .legacy ∧ (m.lockRecords t).contains r = true

instance (m : Machine) (t : ThreadId) (r : RecordId) : Decidable (m.Strikes t r) :=
  inferInstanceAs (Decidable (_ ∧ _))

/-- The count of held locks is no part of the locks. -/
lemma aside_counted (m : Machine) (raw : Bool) (t : ThreadId) : m.Aside (m.counted raw t) := by
  cases raw <;> exact ⟨rfl, rfl, rfl, rfl, rfl, rfl⟩

/-- Only the thread that exits has its count of held locks changed. -/
lemma thread_counted (m : Machine) (raw : Bool) (t u : ThreadId) : (m.counted raw t).thread u =
    if u = t then { m.thread u with held := (m.thread u).held - if raw then 0 else 1 }
    else m.thread u := by
  cases raw with
  | true => exact (ite_self _).symm
  | false => exact thread_modifyThread m t .lose u

/-- The view does not show the count of held locks. -/
lemma view_counted (m : Machine) (raw : Bool) (t : ThreadId) : (m.counted raw t).view = m.view := by
  cases raw with
  | true => rfl
  | false => exact m.view_lose t

/-- What a rejected exit changes of the locks, if anything: the record is no longer among the lock
records of the thread. -/
structure Struck (m : Machine) (t : ThreadId) (r : RecordId) (n : Machine) : Prop where
  aside : m.Aside n
  registry : n.registry = m.registry
  lockStack : n.lockStack = m.lockStack
  lockRecords : ∀ u b, (n.lockRecords u).contains b = true ↔
    (m.lockRecords u).contains b = true ∧ ¬ (u = t ∧ m.Strikes t r ∧ b = r)

/-- So only a stack lock with the record is lost. -/
lemma Struck.holds (h : m.Struck t r n) (u : ThreadId) (p : ObjectId) : n.holdsLock u p = true ↔
    m.holdsLock u p = true ∧ ¬ (u = t ∧ m.Strikes t r ∧ m.mark p = .record r) := by
  have mark := h.aside.mark
  have monitor := h.aside.monitor
  unfold holdsLock
  rw [h.aside.options]
  split
  next fast =>
    have same : FastLocking.holdsLock n u p = FastLocking.holdsLock m u p := by
      unfold FastLocking.holdsLock FastLocking.readMonitor?
      rw [h.lockStack, mark, monitor, h.aside.table, h.aside.options]
    rw [same]
    exact (and_iff_left fun struck => nomatch fast.symm.trans struck.2.1.1).symm
  next =>
    unfold StackLocking.holdsLock
    rw [mark]
    cases hk : m.mark p with
    | record b =>
      simp only [Mark.record.injEq]
      exact h.lockRecords u b
    | monitor id =>
      simp [monitor]
    | word w => simp

/-- A struck stack lock has its thread as owner no more, and every other lock keeps its owner. -/
lemma Struck.owner (h : m.Struck t r n) (p : ObjectId) :
    if m.Strikes t r ∧ m.mark p = .record r then n.lockOwner? p ≠ some t
    else n.lockOwner? p = m.lockOwner? p := by
  have mark := h.aside.mark
  have monitor := h.aside.monitor
  unfold lockOwner?
  rw [h.aside.options]
  split
  next struck =>
    obtain ⟨strikes, hk⟩ := struck
    have stack : m.options.mode ≠ .lightweight := by rw [strikes.1]; exact nofun
    rw [if_neg stack]
    unfold StackLocking.lockOwner?
    rw [mark, hk]
    -- The thread no longer has the record, so that it is not found to be the locker.
    intro found
    have contained := List.find?_some found
    exact ((h.lockRecords t r).1 contained).2 ⟨rfl, strikes, rfl⟩
  next other =>
    split
    next =>
      unfold FastLocking.lockOwner? FastLocking.readMonitor? fastLocker?
      rw [h.lockStack, mark, monitor, h.aside.table, h.aside.options, h.registry]
    next =>
      unfold StackLocking.lockOwner? stackLocker?
      rw [mark, monitor, h.registry]
      cases hk : m.mark p with
      | record b =>
        have same (u : ThreadId) : (n.lockRecords u).contains b = (m.lockRecords u).contains b := by
          rw [Bool.eq_iff_iff, h.lockRecords u b]
          refine and_iff_left fun ⟨_, strikes, eq⟩ => other ⟨strikes, ?_⟩
          rw [hk, eq]
        simp only [same]
      | monitor id => rfl
      | word w => rfl

/-- Without stack-locking no thread has a record to lose. -/
lemma Drops.thread_counted {raw : Bool} (drops : (m.counted raw t).Drops t r n)
    (recordless : m.options.mode ≠ .legacy → (m.lockRecords t).contains r = false)
    (u : ThreadId) : n.thread u = if u = t then { m.thread t with
      held := (m.thread t).held - if raw then 0 else 1
      lockRecords := if m.Strikes t r then (m.lockRecords t).remove r else m.lockRecords t }
    else m.thread u := by
  have registered : (if m.Strikes t r then (m.lockRecords t).remove r else m.lockRecords t) =
      (m.lockRecords t).remove r := by
    split
    next => rfl
    next spared =>
      refine (LockStack.remove_of_absent ?_).symm
      by_cases legacy : m.options.mode = .legacy
      · exact Bool.eq_false_iff.2 fun contained => spared ⟨legacy, contained⟩
      · exact recordless legacy
  rw [registered, drops.thread, lockRecords, Machine.thread_counted]
  split
  next eq =>
    subst eq
    rfl
  next => rfl

/-- Dropping the record changes the locks only as a rejected exit may. -/
lemma Drops.struck {raw : Bool} (drops : (m.counted raw t).Drops t r n)
    (recordless : m.options.mode ≠ .legacy → (m.lockRecords t).contains r = false) :
    m.Struck t r n := by
  have thread := drops.thread_counted recordless
  refine ⟨(aside_counted m raw t).trans drops.aside, drops.registry.trans ?_, ?_, fun u b => ?_⟩
  · cases raw <;> rfl
  · funext u
    unfold lockStack
    rw [thread]
    split
    next eq => rw [eq]
    next => rfl
  · show (n.thread u).lockRecords.contains b = true ↔ _
    rw [thread]
    by_cases eq : u = t
    · subst eq
      by_cases strikes : m.Strikes u r
      · simp only [if_true, LockStack.contains_remove, strikes, true_and]
      · simp only [if_true, strikes, if_false, false_and, and_false, not_false_eq_true, and_true]
    · simp only [eq, if_false, false_and, not_false_eq_true, and_true]
      rfl

/-- What a rejected exit of `o` leaves behind. -/
structure Rejects (m : Machine) (raw : Bool) (t : ThreadId) (o : ObjectId) (r : RecordId)
    (n : Machine) : Prop where
  /-- All headers, records and monitors are as they were. -/
  aside : m.Aside n
  registry : n.registry = m.registry
  nextThread : n.nextThread = m.nextThread
  logged : n.notices = m.notices.push (.illegalExit t o)
  thread : ∀ u, n.thread u = if u = t then { m.thread t with
      held := (m.thread t).held - if raw then 0 else 1
      lockRecords := if m.Strikes t r then (m.lockRecords t).remove r else m.lockRecords t }
    else m.thread u
  /-- Everyone holds what they held, but for a stack lock with the record. -/
  holds : ∀ u p, n.holdsLock u p = true ↔
    m.holdsLock u p = true ∧ ¬ (u = t ∧ m.Strikes t r ∧ m.mark p = .record r)
  owner : ∀ p, if m.Strikes t r ∧ m.mark p = .record r then n.lockOwner? p ≠ some t
    else n.lockOwner? p = m.lockOwner? p

/-- A rejected exit that has dropped its record leaves behind what it should. -/
lemma Drops.rejects {raw : Bool} (drops : (m.counted raw t).Drops t r n)
    (recordless : m.options.mode ≠ .legacy → (m.lockRecords t).contains r = false) :
    m.Rejects raw t o r (n.note (.illegalExit t o)) := by
  have struck := drops.struck recordless
  have logged : n.notices.push (.illegalExit t o) = m.notices.push (.illegalExit t o) := by
    rw [drops.notices]
    cases raw <;> rfl
  have nextThread : n.nextThread = m.nextThread := drops.nextThread.trans (by cases raw <;> rfl)
  exact ⟨struck.aside.trans ⟨rfl, rfl, rfl, rfl, rfl, rfl⟩, struck.registry, nextThread, logged,
    drops.thread_counted recordless, struck.holds, struck.owner⟩

/-- Counting held locks leaves the lock stacks alone. -/
lemma lockStack_counted (m : Machine) (raw : Bool) (t : ThreadId) :
    (m.counted raw t).lockStack = m.lockStack := by
  funext u
  show ((m.counted raw t).thread u).lockStack = (m.thread u).lockStack
  rw [thread_counted]
  split <;> rfl

/-- Counting held locks leaves the lock records alone. -/
lemma lockRecords_counted (m : Machine) (raw : Bool) (t : ThreadId) :
    (m.counted raw t).lockRecords = m.lockRecords := by
  funext u
  show ((m.counted raw t).thread u).lockRecords = (m.thread u).lockRecords
  rw [thread_counted]
  split <;> rfl

/-- Who holds which object does not depend on the count of held locks. -/
lemma holdsLock_counted (m : Machine) (raw : Bool) (t u : ThreadId) (p : ObjectId) :
    (m.counted raw t).holdsLock u p = m.holdsLock u p := by
  have aside := aside_counted m raw t
  unfold holdsLock FastLocking.holdsLock FastLocking.readMonitor? StackLocking.holdsLock
  rw [aside.options, aside.table, aside.mark, aside.monitor, lockStack_counted, lockRecords_counted]

/-- Whether an exit slips does not depend on the count of held locks. -/
lemma slips_counted (m : Machine) (raw : Bool) (t : ThreadId) (o : ObjectId) (r : RecordId) :
    (m.counted raw t).Slips t o r ↔ m.Slips t o r := by
  have aside := aside_counted m raw t
  unfold Slips record
  rw [aside.options, aside.records, aside.mark, lockRecords_counted]

end Machine

/-- Only stack-locking puts records among the lock records of threads. -/
def LockView.Recordless (v : LockView) : Prop := v.mode ≠ .legacy → ∀ t, v.lockRecords t = []

/-- Without stack-locking no thread has a record registered. -/
lemma LockView.Recordless.absent {m : Machine} (h : m.view.Recordless)
    (other : m.options.mode ≠ .legacy) (t : ThreadId) (r : RecordId) :
    (m.lockRecords t).contains r = false := by
  have none : (m.lockRecords t).toList = [] := h other t
  rw [Bool.eq_false_iff, ne_eq, LockStack.contains_iff, none]
  exact List.not_mem_nil

namespace Locking

variable {m : Machine} {t : ThreadId} {o : ObjectId} {r : RecordId}

/-- Every exit slips, is complete for the holder of the object, or is rejected, in every mode. -/
lemma exit_checks (h : m.view.Coherent) (attached : t < m.nextThread) (light : m.view.Recordless) :
    m.Checks t o r (exit m t o r) := by
  unfold exit
  split
  next fast =>
    have other : m.options.mode ≠ .legacy := by rw [fast]; exact nofun
    have fails := FastLocking.exit_fails (m := m) (t := t) (o := o) (r := r)
    cases eq : FastLocking.exit m t o r with
    | ok _ n =>
      refine .inr ?_
      unfold Machine.holdsLock
      rw [if_pos fast]
      exact FastLocking.exit_holds (h.fast fast) attached eq
    | fault f n =>
      rw [eq] at fails
      refine ⟨fun slips => other slips.1, List.mem_singleton.1 fails, m, ?_,
        FastLocking.exit_rejected eq⟩
      exact Machine.drops_of_absent (light.absent other t r)
  next stack => exact StackLocking.exit_checks stack

end Locking

/-- A change of stack-locking registers no record while there is no stack-locking. -/
lemma StackLocking.Change.recordless {v w : LockView} {t : ThreadId} {op : Operation}
    {e : Option Event} (c : StackLocking.Change t op v e w) (h : v.Recordless) : w.Recordless := by
  intro other u
  have light := h (c.mode ▸ other)
  have dropped (r : RecordId) : (v.dropRecord t r).lockRecords u = [] := by
    rw [LockView.dropRecord, LockView.setLockRecords_lockRecords, Function.update_apply]
    split
    next => rw [light t, List.filter_nil]
    next => exact light u
  cases c with
  | lock legacy _ _ | again legacy _ _ => exact absurd legacy other
  | exitAgain _ _ | restore _ _ | exitMonitor _ _ _ | reject _ _ _ => exact dropped _
  | _ => exact light u

/-- An operation registers no record unless it stack-locks. -/
lemma LockView.Recordless.steps {v w : LockView} {t : ThreadId} {op : Operation} {e : Option Event}
    (h : v.Recordless) (c : Steps (Locking.Change v.mode t op) v e w) : w.Recordless := by
  refine c.keeps h fun {x e y} light c => ?_
  unfold Locking.Change at c
  split at c
  next =>
    have same : y.lockRecords = x.lockRecords := by cases c <;> rfl
    have mode : y.mode = x.mode := c.mode
    intro other u
    rw [same]
    exact light (mode ▸ other) u
  next => exact c.recordless light

/-- A step of a system registers no record unless it stack-locks. -/
lemma SystemView.Step.recordless {s s' : SystemView} {l : Label} (c : Step s l s')
    (h : s.locks.Recordless) : s'.locks.Recordless := by
  cases c with
  | lock _ _ c _ => exact h.steps c
  | wait _ _ c _ => exact h.steps c
  | attach _ =>
    intro other u
    rw [LockView.attach_lockRecords, Function.update_apply]
    split
    next => rfl
    next => exact h other u
  | _ => exact h

namespace World

variable {s : World} {w : WorkerId} {t : ThreadId}

/-- An exit of a worker with a thread is one of the machine, with the held locks counted first. -/
lemma begin_exit (ht : (s.worker w).thread = some t) (o : ObjectId) (r : RecordId) (raw : Bool) :
    s.begin w (.exit o r raw) =
      s.conclude (fun _ => .done) fun m => Locking.exit (m.counted raw t) t o r := by
  rw [begin_attached ht]
  cases raw <;> rfl

end World

namespace Run

variable {options : Options} {s : World} {h : List Event} {w : WorkerId} {t : ThreadId}
  {o : ObjectId} {r : RecordId} {raw : Bool}

/-- Without stack-locking no thread ever has a record registered, and the view is sound. -/
lemma recordless (run : Run anyUse options s h) : s.view.Sound ∧ s.machine.view.Recordless := by
  induction run with
  | new => exact ⟨World.sound_new options, fun _ _ => rfl⟩
  | @move s h x _ allowed ih =>
    obtain ⟨sound, light⟩ := ih
    have path : SystemView.Path (fun _ _ => True) s.view (s.move x).1.view :=
      World.move_path sound allowed trivial fun _ _ _ => trivial
    exact ⟨path.sound sound, path.keeps sound light fun _ light _ c => c.recordless light⟩

/-- How an exit ends at any time of any run. -/
lemma exit_cases (run : Run anyUse options s h) (ht : (s.worker w).thread = some t) (o : ObjectId)
    (r : RecordId) (raw : Bool) :
    (∃ n, s.begin w (.exit o r raw) = ({ s with machine := n }, .answered .done)) ∧
        (s.machine.Slips t o r ∨ s.machine.holdsLock t o = true) ∨
      (∃ n, s.begin w (.exit o r raw) = ({ s with machine := n }, .failed (.illegalExit t o)) ∧
        s.machine.Rejects raw t o r n) ∧ ¬ s.machine.Slips t o r := by
  obtain ⟨sound, light⟩ := run.recordless
  let m := s.machine.counted raw t
  have view : m.view = s.machine.view := Machine.view_counted ..
  have attached : t < m.view.nextThread := view ▸ sound.lt ht
  have checks := Locking.exit_checks (m := m) (o := o) (r := r) (view ▸ sound.coherent) attached
    (view ▸ light)
  rw [World.begin_exit ht]
  cases eq : Locking.exit m t o r with
  | ok _ n =>
    rw [eq] at checks
    refine .inl ⟨⟨n, World.conclude_ok eq _⟩, ?_⟩
    rwa [Machine.Checks, Machine.slips_counted, Machine.holdsLock_counted] at checks
  | fault f n =>
    rw [eq] at checks
    obtain ⟨checked, rfl, k, drops, rfl⟩ := checks
    refine .inr ⟨⟨_, World.conclude_fault eq _, drops.rejects (light.absent · t r)⟩, ?_⟩
    rwa [Machine.slips_counted] at checked

/-- At any time of any run an exit by a thread that does not hold the object is rejected, unless it
slips. -/
theorem exit_without_lock (run : Run anyUse options s h) (attached : (s.worker w).thread = some t)
    (other : s.machine.holdsLock t o = false) : (s.begin w (.exit o r raw)).2 =
      if s.machine.Slips t o r then .answered .done else .failed (.illegalExit t o) := by
  rcases run.exit_cases attached o r raw with ⟨⟨n, eq⟩, slips | held⟩ | ⟨⟨n, eq, -⟩, checked⟩
  · rw [eq, if_pos slips]
  · cases other.symm.trans held
  · rw [eq, if_neg checked]

/-- A thread stack-locks an object with the record 0 and enters it again with the record 1. Then it
exits an object that nobody has locked, with either record. -/
def mistaken : World × List Event :=
  (World.new (.ofMode .legacy)).follow []
    [.addWorker, .act 0 .attach, .addRecord 0, .addRecord 0,
      .act 0 (.allocate "locked" ⟨"Counter", 1, false⟩),
      .act 0 (.allocate "free" ⟨"Counter", 1, false⟩), .act 0 (.enter 0 0 false),
      .act 0 (.enter 0 1 false)]

/-- The exit with the record of the further enter slips, and the other one is rejected. -/
theorem exit_without_lock_mistaken :
    (mistaken.1.begin 0 (.exit 1 1 false)).2 = .answered .done ∧
      (mistaken.1.begin 0 (.exit 1 0 false)).2 = .failed (.illegalExit 2 1) := by
  have run : Run anyUse _ mistaken.1 mistaken.2 := .follow .new _ (by decide +kernel)
  have slips : mistaken.1.machine.Slips 2 1 1 := by decide +kernel
  have checked : ¬ mistaken.1.machine.Slips 2 1 0 := by decide +kernel
  have attached : (mistaken.1.worker 0).thread = some 2 := by decide +kernel
  have last : (mistaken.1.begin 0 (.exit 1 1 false)).2 = _ :=
    exit_without_lock run attached (by decide +kernel)
  have first : (mistaken.1.begin 0 (.exit 1 0 false)).2 = _ :=
    exit_without_lock run attached (by decide +kernel)
  rw [if_pos slips] at last
  rw [if_neg checked] at first
  exact ⟨last, first⟩

/-- A rejected exit leaves every lock alone, but for a stack lock of the thread that its record
belongs to. -/
theorem rejected_exit (run : Run anyUse options s h) (attached : (s.worker w).thread = some t)
    (rejected : (s.begin w (.exit o r raw)).2 = .failed (.illegalExit t o)) :
    ∃ n, (s.begin w (.exit o r raw)).1 = { s with machine := n } ∧
      s.machine.Rejects raw t o r n := by
  rcases run.exit_cases attached o r raw with ⟨⟨n, eq⟩, -⟩ | ⟨⟨n, eq, rejects⟩, -⟩
  · rw [eq] at rejected
    cases rejected
  · exact ⟨n, by rw [eq], rejects⟩

/-- The thread holds its object before it is rejected, and not after. -/
theorem rejected_exit_mistaken :
    ∃ n, (mistaken.1.begin 0 (.exit 1 0 false)).1 = { mistaken.1 with machine := n } ∧
      mistaken.1.machine.Rejects false 2 1 0 n ∧
      mistaken.1.machine.holdsLock 2 0 = true ∧ n.holdsLock 2 0 = false := by
  have run : Run anyUse _ mistaken.1 mistaken.2 := .follow .new _ (by decide +kernel)
  have rejected : (mistaken.1.begin 0 (.exit 1 0 false)).2 = .failed (.illegalExit 2 1) := by
    decide +kernel
  obtain ⟨n, eq, rejects⟩ := rejected_exit run (by decide +kernel) rejected
  have held : mistaken.1.machine.holdsLock 2 0 = true := by decide +kernel
  refine ⟨n, eq, rejects, held, Bool.eq_false_iff.2 fun kept => ?_⟩
  exact ((rejects.holds 2 0).1 kept).2 (by decide +kernel)

end Run

end ObjectLocks
