import ObjectLocks.Proofs.Scene

/-!
# Operations without guards

An operation looks at the no-safepoint guards of its thread in one place, before it may have to wait.
So what it does with open guards is what it does without them, up to there.
-/

namespace ObjectLocks

namespace Store

variable {α : Type} [Inhabited α]

/-- The last of two values written under one number stays. -/
lemma set_set (s : Store α) (i : Nat) (a b : α) : (s.set i a).set i b = s.set i b := by
  unfold set
  split
  next lt => simp [lt]
  next le =>
    have size : (s.cells ++ Array.replicate (i - s.cells.size) default).size = i := by simp; omega
    rw [if_pos (by simp; omega)]
    congr 1
    generalize s.cells ++ Array.replicate (i - s.cells.size) default = cells at size
    subst size
    apply Array.ext'
    simp

end Store

/-- The machine with all guards of thread `t` closed. -/
def Machine.unguard (m : Machine) (t : ThreadId) : Machine :=
  m.modifyThread t fun x => { x with guards := 0 }

namespace Machine

variable (m : Machine) (t : ThreadId)

/-- Closing the guards of a thread leaves all other threads alone. -/
lemma thread_unguard (u : ThreadId) : (m.unguard t).thread u =
    if u = t then { m.thread u with guards := 0 } else m.thread u :=
  thread_modifyThread m t _ u

/-- Closing the guards leaves the lock stacks alone. -/
lemma lockStack_unguard (u : ThreadId) : (m.unguard t).lockStack u = m.lockStack u := by
  unfold lockStack
  rw [thread_unguard]
  split <;> rfl

/-- Closing the guards leaves the lock records alone. -/
lemma lockRecords_unguard (u : ThreadId) :
    (m.unguard t).lockRecords u = m.lockRecords u := by
  unfold lockRecords
  rw [thread_unguard]
  split <;> rfl

/-- A change of the thread that has no part in guards may come before or after closing them. -/
lemma modifyThread_unguard {f : Thread → Thread}
    (apart : ∀ x, f { x with guards := 0 } = { f x with guards := 0 }) :
    (m.unguard t).modifyThread t f = (m.modifyThread t f).unguard t := by
  unfold unguard modifyThread Store.modify
  simp only [Store.get_set_self, Store.set_set, apart]

/-- The state may be set before or after closing the guards. -/
lemma setState_unguard (x : ThreadState) :
    (m.unguard t).setState t x = (m.setState t x).unguard t :=
  modifyThread_unguard m t fun _ => rfl

/-- The lock stack may be set before or after closing the guards. -/
lemma setLockStack_unguard (s : LockStack ObjectId) :
    (m.unguard t).setLockStack t s = (m.setLockStack t s).unguard t :=
  modifyThread_unguard m t fun _ => rfl

/-- The lock records may be set before or after closing the guards. -/
lemma setLockRecords_unguard (s : LockStack RecordId) :
    (m.unguard t).setLockRecords t s = (m.setLockRecords t s).unguard t :=
  modifyThread_unguard m t fun _ => rfl

/-- An object may be dropped before or after closing the guards. -/
lemma dropObject_unguard (o : ObjectId) :
    (m.unguard t).dropObject t o = (m.dropObject t o).unguard t := by
  unfold dropObject
  rw [lockStack_unguard, setLockStack_unguard]

end Machine

namespace Outcome

variable {α β : Type} {t : ThreadId}

/-- The outcome with all guards of a thread closed in the end. -/
def unguard (t : ThreadId) : Outcome α → Outcome α
  | ok a m => ok a (m.unguard t)
  | fault f m => fault f (m.unguard t)

/-- Guards may be closed in the middle of two operations or after them. -/
lemma unguard_bind {x : Outcome α} {f : α → Machine → Outcome β}
    (next : ∀ a m, f a (m.unguard t) = (f a m).unguard t) :
    (x.unguard t).bind f = (x.bind f).unguard t := by
  cases x with
  | ok a m => exact next a m
  | fault c m => rfl

/-- Guards may be closed before or after the answer is made. -/
lemma unguard_map (x : Outcome α) (f : α → β) : (x.unguard t).map f = (x.map f).unguard t := by
  cases x <;> rfl

/-- The outcome `x` of an operation, if it was not stopped for the guards of `t`, is the outcome `y`
of the operation without them. -/
def Spares (t : ThreadId) (x y : Outcome α) : Prop :=
  (∃ m, x = .fault .noSafepointRegion m) ∨ y = x.unguard t

/-- What is spared from the guards is spared from them together with what follows. -/
lemma Spares.bind {x y : Outcome α} {f : α → Machine → Outcome β} (h : x.Spares t y)
    (next : ∀ a m, (f a m).Spares t (f a (m.unguard t))) : (x.bind f).Spares t (y.bind f) := by
  rcases h with ⟨m, rfl⟩ | rfl
  · exact .inl ⟨m, rfl⟩
  · cases x with
    | ok a m => exact next a m
    | fault c m => exact .inr rfl

end Outcome

namespace Machine

variable (m : Machine) (t : ThreadId) (id : MonitorId)

/-- The one place where an operation looks at the guards. -/
lemma enterMonitor_spares : (m.enterMonitor t id).Spares t ((m.unguard t).enterMonitor t id) := by
  unfold enterMonitor
  rw [show (m.unguard t).monitor id = m.monitor id from rfl]
  cases enter : (m.monitor id).tryEnter t with
  | some x =>
    simp only [enter]
    exact .inr rfl
  | none =>
    simp only [enter]
    generalize hn : (m.setMonitor id (m.monitor id).contend).note _ = n
    have same : ((m.unguard t).setMonitor id (m.monitor id).contend).note
        (.blocks t (m.monitor id).object (m.monitor id).owner) = n.unguard t := by
      rw [← hn]
      rfl
    have thread : (n.unguard t).thread t = { n.thread t with guards := 0 } := by
      rw [thread_unguard, if_pos rfl]
    have closed : (n.unguard t).checkSafepoint t = .ok () (n.unguard t) := by
      unfold checkSafepoint
      rw [thread, if_pos rfl]
    rw [same, closed]
    rcases World.checkSafepoint_cases n t with ⟨-, eq⟩ | ⟨-, eq⟩
    · rw [eq]
      dsimp only [Outcome.bind]
      rw [thread]
      exact .inr (congrArg (Outcome.ok _)
        (setState_unguard (n.setMonitor id ((m.monitor id).contend.enqueue t)) t .blocked))
    · rw [eq]
      exact .inl ⟨n, rfl⟩

/-- Trying to enter a monitor does not look at the guards. -/
lemma tryEnterMonitor_unguard :
    (m.unguard t).tryEnterMonitor t id = (m.tryEnterMonitor t id).unguard t := by
  unfold tryEnterMonitor
  rw [show (m.unguard t).monitor id = m.monitor id from rfl]
  split <;> rfl

end Machine

namespace FastLocking

variable (m : Machine) (t : ThreadId) (o : ObjectId) (r : RecordId)

/-- The owner of a new monitor does not depend on the guards. -/
lemma ownerAs_unguard (k : Mark) : ownerAs (m.unguard t) t o k = ownerAs m t o k := by
  unfold ownerAs
  rw [Machine.lockStack_unguard]

/-- A fast lock becomes a monitor whatever the guards are. -/
lemma transfer_unguard (owner : Owner) :
    transfer (m.unguard t) t o owner = (transfer m t o owner).unguard t := by
  unfold transfer
  split
  · exact Machine.dropObject_unguard m t o
  · rfl

/-- An inline monitor is made whatever the guards are. -/
lemma inflateInline_unguard (cause : InflationCause) :
    inflateInline (m.unguard t) t o cause = (inflateInline m t o cause).unguard t := by
  unfold inflateInline
  simp only [show (m.unguard t).mark o = m.mark o from rfl, ownerAs_unguard]
  split
  next => rfl
  next =>
    generalize Monitor.mk _ _ _ _ _ _ _ _ = x
    exact congrArg (fun n : Machine => Outcome.ok m.monitors.size
      { n.note (.inflatedInline t o (ownerAs m t o (m.mark o)).1 cause) with
        inlineMonitors := m.monitors.size :: n.inlineMonitors })
      (transfer_unguard ((m.addMonitor x).2.setMark o (.monitor m.monitors.size)) t o _)

/-- A monitor in the table is found or made whatever the guards are. -/
lemma tableMonitor_unguard : tableMonitor (m.unguard t) o =
    ((tableMonitor m o).1, (tableMonitor m o).2.unguard t) := by
  unfold tableMonitor
  rw [show (m.unguard t).table = m.table from rfl]
  cases m.table.get? o <;> rfl

/-- An object gets its monitor in the table whatever the guards are. -/
lemma inflateIntoTable_unguard (cause : InflationCause) :
    inflateIntoTable (m.unguard t) t o cause = (inflateIntoTable m t o cause).unguard t := by
  unfold inflateIntoTable
  rw [tableMonitor_unguard]
  rcases tableMonitor m o with ⟨id, n⟩
  simp only [show (n.unguard t).mark o = n.mark o from rfl, ownerAs_unguard]
  split
  next => rfl
  next =>
    generalize Notice.inflatedIntoTable _ _ _ _ = notice
    split
    next =>
      exact congrArg (fun n' : Machine => Outcome.ok id (n'.note notice))
        (transfer_unguard ((n.setMonitor id ((n.monitor id).ownedBy _ _)).setMark o _) t o _)
    next =>
      exact congrArg (fun n' : Machine => Outcome.ok id (n'.note notice))
        (transfer_unguard (n.setMark o _) t o _)

/-- An inflation does not look at the guards. -/
lemma inflate_unguard (cause : InflationCause) :
    inflate (m.unguard t) t o cause = (inflate m t o cause).unguard t := by
  unfold inflate
  rw [show (m.unguard t).options = m.options from rfl]
  split
  · exact inflateIntoTable_unguard m t o cause
  · exact inflateInline_unguard m t o cause

/-- A claim does not look at the guards. -/
lemma claim_unguard (id : MonitorId) : claim (m.unguard t) t o id = (claim m t o id).unguard t := by
  unfold claim
  rw [Machine.lockStack_unguard, Machine.dropObject_unguard]
  dsimp only
  split
  next => rfl
  next =>
    unfold Machine.claimMonitor
    rw [show ((m.dropObject t o).unguard t).monitor id = (m.dropObject t o).monitor id from rfl]
    split <;> rfl

/-- Clearing a cache does not look at the guards. -/
lemma clearCache_unguard : clearCache (m.unguard t) r = (clearCache m r).unguard t := by
  unfold clearCache
  rw [show (m.unguard t).options = m.options from rfl]
  split <;> rfl

/-- Filling a cache does not look at the guards. -/
lemma fillCache_unguard (id : MonitorId) :
    fillCache (m.unguard t) r id = (fillCache m r id).unguard t := by
  unfold fillCache
  rw [show (m.unguard t).options = m.options from rfl]
  split <;> rfl

/-- Taking a fast lock does not look at the guards. -/
lemma lockFast_unguard : lockFast (m.unguard t) t o = (lockFast m t o).unguard t := by
  unfold lockFast
  rw [show (m.unguard t).mark o = m.mark o from rfl]
  generalize (m.mark o).mapWord .setFastLocked = k
  show ((m.setMark o k).unguard t).pushObject t o = _
  unfold Machine.pushObject
  rw [Machine.lockStack_unguard]
  split
  next => exact congrArg (Outcome.ok ()) (Machine.setLockStack_unguard ..)
  next => rfl

variable {m t o r}

/-- An enter through a monitor looks at the guards before it waits only. -/
lemma enterInflated_spares (cause : InflationCause) :
    (enterInflated m t o r cause).Spares t (enterInflated (m.unguard t) t o r cause) := by
  unfold enterInflated
  rw [inflate_unguard]
  refine Outcome.Spares.bind (.inr rfl) fun id n => ?_
  rw [show (n.unguard t).monitor id = n.monitor id from rfl, Machine.lockStack_unguard]
  refine Outcome.Spares.bind (.inr ?_) fun _ k => ?_
  · split
    · exact claim_unguard n t o id
    · rfl
  · rw [fillCache_unguard]
    exact Machine.enterMonitor_spares _ t id

/-- An enter looks at the guards before it waits only. -/
lemma enter_spares : (enter m t o r).Spares t (enter (m.unguard t) t o r) := by
  unfold enter
  rw [clearCache_unguard]
  generalize clearCache m r = n
  dsimp only
  rw [Machine.lockStack_unguard]
  split
  next s _ => exact .inr (congrArg (Outcome.ok _) (Machine.setLockStack_unguard n t s))
  next =>
    split
    next => exact enterInflated_spares _
    next =>
      rw [show (n.unguard t).options = n.options from rfl,
        show (n.unguard t).mark o = n.mark o from rfl]
      split
      next =>
        rw [lockFast_unguard]
        exact .inr (Outcome.unguard_map _ _)
      next => exact enterInflated_spares _

/-- A quick enter does not look at the guards. -/
lemma quickEnter_unguard : quickEnter (m.unguard t) t o r = (quickEnter m t o r).unguard t := by
  unfold quickEnter
  rw [clearCache_unguard]
  generalize clearCache m r = n
  dsimp only
  rw [Machine.lockStack_unguard]
  split
  next s _ => exact congrArg (Outcome.ok _) (Machine.setLockStack_unguard n t s)
  next =>
    rw [show (n.unguard t).mark o = n.mark o from rfl]
    split
    next =>
      split
      next => rfl
      next =>
        rw [lockFast_unguard]
        exact Outcome.unguard_map _ _
    next =>
      rw [show readMonitor? (n.unguard t) o (n.mark o) = readMonitor? n o (n.mark o) from rfl]
      split
      next id _ =>
        rw [Machine.tryEnterMonitor_unguard]
        refine Outcome.unguard_bind fun entered k => ?_
        cases entered with
        | true => exact congrArg (Outcome.ok _) (fillCache_unguard k t r id)
        | false => rfl
      next => rfl

end FastLocking

namespace StackLocking

variable {m : Machine} {t : ThreadId} {o : ObjectId} {r : RecordId}

/-- An inflation does not look at the guards. -/
lemma inflate_unguard (m : Machine) (t : ThreadId) (o : ObjectId) (cause : InflationCause) :
    inflate (m.unguard t) t o cause = (inflate m t o cause).unguard t := by
  unfold inflate
  rw [show (m.unguard t).mark o = m.mark o from rfl]
  split
  next => rfl
  next => rfl
  next => split <;> rfl

/-- Pushing a record does not look at the guards. -/
lemma pushRecord_unguard (m : Machine) (t : ThreadId) (r : RecordId) :
    (m.unguard t).pushRecord t r = (m.pushRecord t r).unguard t := by
  unfold Machine.pushRecord
  rw [Machine.lockRecords_unguard]
  split
  next => exact congrArg (Outcome.ok ()) (Machine.setLockRecords_unguard ..)
  next => rfl

/-- Trying to stack-lock an object does not look at the guards. -/
lemma tryStackLock_unguard :
    tryStackLock (m.unguard t) t o r = (tryStackLock m t o r).unguard t := by
  unfold tryStackLock
  rw [show (m.unguard t).mark o = m.mark o from rfl, Machine.lockRecords_unguard]
  split
  next w _ =>
    split
    next =>
      split
      next => rfl
      next =>
        dsimp only
        refine Eq.trans ?_ (Outcome.unguard_map _ _)
        rw [← pushRecord_unguard]
        rfl
    next => rfl
  next =>
    split
    next =>
      split
      next => rfl
      next =>
        refine Eq.trans ?_ (Outcome.unguard_map _ _)
        rw [← pushRecord_unguard]
        rfl
    next => rfl
  next => rfl

/-- An enter through a monitor looks at the guards before it waits only. -/
lemma enterInflated_spares (cause : InflationCause) :
    (enterInflated m t o r cause).Spares t (enterInflated (m.unguard t) t o r cause) := by
  unfold enterInflated
  rw [show (m.unguard t).modifyRecord r .throughMonitor =
    (m.modifyRecord r .throughMonitor).unguard t from rfl, inflate_unguard]
  exact Outcome.Spares.bind (.inr rfl) fun id n => Machine.enterMonitor_spares n t id

/-- An enter looks at the guards before it waits only. -/
lemma enter_spares : (enter m t o r).Spares t (enter (m.unguard t) t o r) := by
  unfold enter
  rw [show (m.unguard t).options = m.options from rfl]
  split
  next => exact enterInflated_spares _
  next =>
    rw [tryStackLock_unguard]
    refine Outcome.Spares.bind (.inr rfl) fun refusal n => ?_
    cases refusal with
    | none => exact .inr rfl
    | some cause => exact enterInflated_spares cause

/-- A quick enter does not look at the guards. -/
lemma quickEnter_unguard : quickEnter (m.unguard t) t o r = (quickEnter m t o r).unguard t := by
  unfold quickEnter
  rw [show (m.unguard t).mark o = m.mark o from rfl]
  split
  next id _ =>
    rw [Machine.tryEnterMonitor_unguard]
    refine Outcome.unguard_bind fun entered n => ?_
    cases entered <;> rfl
  next => rfl
  next => rfl

end StackLocking

namespace Locking

variable {m : Machine} {t : ThreadId} {o : ObjectId} {r : RecordId}

/-- An enter looks at the guards before it waits only, in every mode. -/
lemma enter_spares : (enter m t o r).Spares t (enter (m.unguard t) t o r) := by
  unfold enter
  rw [show (m.unguard t).options = m.options from rfl]
  split
  · exact FastLocking.enter_spares
  · exact StackLocking.enter_spares

/-- A quick enter does not look at the guards, in every mode. -/
lemma quickEnter_unguard : quickEnter (m.unguard t) t o r = (quickEnter m t o r).unguard t := by
  unfold quickEnter
  rw [show (m.unguard t).options = m.options from rfl]
  split
  · exact FastLocking.quickEnter_unguard
  · exact StackLocking.quickEnter_unguard

end Locking

/-- A quick enter with its bookkeeping does not look at the guards. -/
lemma Machine.quickEnter_unguard (m : Machine) (t : ThreadId) (o : Option ObjectId) (r : RecordId) :
    (m.unguard t).quickEnter t o r = (m.quickEnter t o r).unguard t := by
  have state : ((m.unguard t).thread t).state = (m.thread t).state := by
    rw [thread_unguard, if_pos rfl]
  unfold quickEnter
  rw [state]
  split
  next => rfl
  next =>
    split
    next => rfl
    next o =>
      rw [show (m.unguard t).object o = m.object o from rfl]
      split
      next => rfl
      next =>
        rw [Locking.quickEnter_unguard]
        refine Outcome.unguard_bind fun entered n => ?_
        cases entered with
        | true => exact congrArg (Outcome.ok _) (modifyThread_unguard n t fun _ => rfl)
        | false => rfl

end ObjectLocks
