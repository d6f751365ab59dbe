import ObjectLocks.Proofs.Monitor
import ObjectLocks.Proofs.View

/-!
# Effects of operations

Whatever a thread does with a lock, it changes the state of no thread and hands no monitor on, unless
it starts to wait or exits a monitor. That is said here for every change of a machine that the
locking algorithms make; it does not depend on how a lock is represented, and holds of monitors that
are used past the objects whose locks they are. Of the faults that an operation can end with, none
is one of a barrier.
-/

namespace ObjectLocks

namespace Monitor

/-- What an operation of thread `t` does to a monitor if it neither waits for it nor exits it. -/
structure Keeps (t : ThreadId) (x y : Monitor) : Prop where
  queued : y.queued = x.queued
  queue : y.queue = x.queue
  /-- Nobody acquires the monitor but of nobody, past an empty queue, or by a claim. -/
  owner : y.owner = x.owner ∨ (x.owner = .nobody ∧ x.queued = 0) ∨
    (x.owner = .anonymous ∧ y.owner = .thread t)
  idle : (x.owner = .nobody → x.recursions = 0) → y.owner = .nobody → y.recursions = 0

variable {t : ThreadId} {x y z : Monitor}

/-- Only an anonymous owner is replaced by a claim. -/
lemma claim?_eq_some {n : UInt64} (h : x.claim? t n = some y) :
    x.owner = .anonymous ∧ y = x.ownedBy (.thread t) n := by
  unfold claim? at h
  split at h
  next anonymous => exact ⟨anonymous, (Option.some.inj h).symm⟩
  next => cases h

namespace Keeps

/-- A monitor that does not change keeps its lock. -/
lemma refl (t : ThreadId) (x : Monitor) : x.Keeps t x := ⟨rfl, rfl, .inl rfl, id⟩

/-- One operation after another keeps the lock of a monitor if both do. -/
lemma trans (h : x.Keeps t y) (h' : y.Keeps t z) : x.Keeps t z := by
  refine ⟨h'.queued.trans h.queued, h'.queue.trans h.queue, ?_, fun idle => h'.idle (h.idle idle)⟩
  rcases h.owner with same | free | ⟨anonymous, claimed⟩
  · have owner := h'.owner
    rwa [same, h.queued] at owner
  · exact .inr (.inl free)
  · -- The owner is known by now, and stays.
    rcases h'.owner with same | ⟨free, -⟩ | ⟨unknown, -⟩
    · exact .inr (.inr ⟨anonymous, same.trans claimed⟩)
    · cases claimed.symm.trans free
    · cases claimed.symm.trans unknown

/-- Nobody loses the monitor. -/
lemma owned {u : ThreadId} (h : x.Keeps t y) (own : x.owner = .thread u) : y.owner = .thread u := by
  rcases h.owner with same | ⟨free, _⟩ | ⟨anonymous, _⟩
  · exact same.trans own
  · cases own.symm.trans free
  · cases own.symm.trans anonymous

/-- A change that has no part in the lock keeps it. -/
lemma of_sameLock (h : y.SameLock x) : x.Keeps t y :=
  ⟨h.queued, h.queue, .inl h.owner, fun idle free => h.recursions.trans (idle (h.owner ▸ free))⟩

/-- An enter without waiting keeps the queue and takes the monitor from nobody. -/
lemma of_tryEnter (h : x.tryEnter t = some y) : x.Keeps t y := by
  obtain ⟨own, rfl⟩ | ⟨free, none, rfl⟩ := tryEnter_eq_some h
  · exact ⟨rfl, rfl, .inl rfl, fun _ free => nomatch own.symm.trans free⟩
  · exact ⟨rfl, rfl, .inr (.inl ⟨free, none⟩), fun _ => nofun⟩

/-- A claim keeps the queue and takes the monitor from nobody known. -/
lemma of_claim {n : UInt64} (h : x.claim? t n = some y) : x.Keeps t y := by
  obtain ⟨anonymous, rfl⟩ := claim?_eq_some h
  exact ⟨rfl, rfl, .inr (.inr ⟨anonymous, rfl⟩), fun _ => nofun⟩

/-- A new monitor may have any owner. No thread waits for it. -/
lemma of_new (w : LockWord) {o : ObjectId} {owner : Owner} {n : UInt64}
    (idle : owner = .nobody → n = 0) :
    (default : Monitor).Keeps t { (Monitor.new o).ownedBy owner n with header := w } :=
  ⟨rfl, rfl, .inr (.inl ⟨rfl, rfl⟩), fun _ => idle⟩

/-- A new monitor may have any owner, and counts no further enters if it has none. -/
lemma of_ownedBy {o : ObjectId} {owner : Owner} {n : UInt64} (idle : owner = .nobody → n = 0) :
    (Monitor.new o).Keeps t ((Monitor.new o).ownedBy owner n) :=
  ⟨rfl, rfl, .inr (.inl ⟨rfl, rfl⟩), fun _ => idle⟩

end Keeps

end Monitor

/-- The header of an object as fast-locking leaves it: no address of a record, and with the monitor
bits if the object has an entry in the table. -/
structure Mark.Fits (entry : Option MonitorId) (k : Mark) : Prop where
  plain : ∀ r, k ≠ .record r
  shown : entry ≠ none → k.hasMonitor = true

/-- Fast-locking has left every header as it should. -/
def Machine.WellMarked (m : Machine) : Prop :=
  m.options.mode = .lightweight → ∀ o, (m.mark o).Fits (m.table.get? o)

namespace Machine

/-- What thread `t` does to a machine if it neither waits for a monitor nor exits one. -/
structure Alters (t : ThreadId) (m n : Machine) : Prop where
  options : n.options = m.options
  registry : n.registry = m.registry
  nextThread : n.nextThread = m.nextThread
  state : ∀ u, (n.thread u).state = (m.thread u).state
  guards : ∀ u, (n.thread u).guards = (m.thread u).guards
  monitor : ∀ id, (m.monitor id).Keeps t (n.monitor id)
  marked : m.WellMarked → n.WellMarked

namespace Alters

variable {t : ThreadId} {m n k : Machine}

/-- A machine that does not change is altered in no way. -/
lemma refl (t : ThreadId) (m : Machine) : m.Alters t m :=
  ⟨rfl, rfl, rfl, fun _ => rfl, fun _ => rfl, fun _ => .refl .., id⟩

/-- Two alterations are one. -/
lemma trans (h : m.Alters t n) (h' : n.Alters t k) : m.Alters t k :=
  ⟨h'.options.trans h.options, h'.registry.trans h.registry, h'.nextThread.trans h.nextThread,
    fun u => (h'.state u).trans (h.state u), fun u => (h'.guards u).trans (h.guards u),
    fun id => (h.monitor id).trans (h'.monitor id), fun marked => h'.marked (h.marked marked)⟩

end Alters

variable (m : Machine) (t : ThreadId) (o : ObjectId) (r : RecordId) (id : MonitorId)

/-- A change of a thread leaves all other threads alone. -/
lemma thread_modifyThread (f : Thread → Thread) (u : ThreadId) :
    (m.modifyThread t f).thread u = if u = t then f (m.thread u) else m.thread u := by
  simp only [thread, modifyThread, Store.modify, Store.get_set, Function.update_apply]
  split
  next eq => rw [eq]
  next => rfl

/-- A log line alters no state and no monitor. -/
lemma alters_note (n : Notice) : m.Alters t (m.note n) :=
  ⟨rfl, rfl, rfl, fun _ => rfl, fun _ => rfl, fun _ => .refl .., id⟩

/-- Listing the inline monitors alters no state and no monitor. -/
lemma alters_inlineMonitors (l : List MonitorId) : m.Alters t { m with inlineMonitors := l } :=
  ⟨rfl, rfl, rfl, fun _ => rfl, fun _ => rfl, fun _ => .refl .., id⟩

/-- A change of a thread that leaves its state and its guards alone is an alteration. -/
lemma alters_modifyThread {f : Thread → Thread} {u : ThreadId}
    (state : ∀ x, (f x).state = x.state) (guards : ∀ x, (f x).guards = x.guards) :
    m.Alters t (m.modifyThread u f) := by
  refine ⟨rfl, rfl, rfl, fun v => ?_, fun v => ?_, fun _ => .refl .., id⟩
  · rw [thread_modifyThread]
    split
    · exact state _
    · rfl
  · rw [thread_modifyThread]
    split
    · exact guards _
    · rfl

/-- A new lock stack alters no state and no monitor. -/
lemma alters_setLockStack (s : LockStack ObjectId) : m.Alters t (m.setLockStack t s) :=
  alters_modifyThread m t (fun _ => rfl) fun _ => rfl

/-- New lock records alter no state and no monitor. -/
lemma alters_setLockRecords (s : LockStack RecordId) : m.Alters t (m.setLockRecords t s) :=
  alters_modifyThread m t (fun _ => rfl) fun _ => rfl

/-- Dropping an object alters no state and no monitor. -/
lemma alters_dropObject : m.Alters t (m.dropObject t o) := alters_setLockStack m t _

/-- Dropping a record alters no state and no monitor. -/
lemma alters_dropRecord : m.Alters t (m.dropRecord t r) := alters_setLockRecords m t _

/-- One more lock held alters no state and no monitor. -/
lemma alters_gain : m.Alters t (m.modifyThread t .gain) :=
  alters_modifyThread m t (fun _ => rfl) fun _ => rfl

/-- One lock less held alters no state and no monitor. -/
lemma alters_lose : m.Alters t (m.modifyThread t .lose) :=
  alters_modifyThread m t (fun _ => rfl) fun _ => rfl

/-- A drawn hash alters no state and no monitor. -/
lemma alters_drawHash : m.Alters t (m.drawHash t).2 :=
  alters_modifyThread m t (fun _ => rfl) fun _ => rfl

/-- A change of a record alters no state and no monitor. -/
lemma alters_modifyRecord (f : LockRecord → LockRecord) : m.Alters t (m.modifyRecord r f) :=
  ⟨rfl, rfl, rfl, fun _ => rfl, fun _ => rfl, fun _ => .refl .., id⟩

/-- A new mark is an alteration if it fits the entry of the object in the table. -/
lemma alters_setMark {k : Mark} (fits : m.options.mode = .lightweight → k.Fits (m.table.get? o)) :
    m.Alters t (m.setMark o k) := by
  refine ⟨rfl, rfl, rfl, fun _ => rfl, fun _ => rfl, fun _ => .refl .., fun marked mode p => ?_⟩
  show ((m.setMark o k).mark p).Fits (m.table.get? p)
  rw [mark_setMark, Function.update_apply]
  split
  next eq => exact eq ▸ fits mode
  next => exact marked mode p

/-- Writing a monitor leaves all other monitors alone. -/
lemma monitor_setMonitor (x : Monitor) :
    (m.setMonitor id x).monitor = Function.update m.monitor id x := Store.get_set _ _ _

/-- A monitor may be altered as long as its lock is kept. -/
lemma alters_setMonitor {x : Monitor} (keeps : (m.monitor id).Keeps t x) :
    m.Alters t (m.setMonitor id x) := by
  refine ⟨rfl, rfl, rfl, fun _ => rfl, fun _ => rfl, fun i => ?_, fun all => all⟩
  rw [monitor_setMonitor, Function.update_apply]
  split
  next eq => rw [eq]; exact keeps
  next => exact .refl ..

/-- The monitor that a new one replaces was never used. -/
lemma alters_addMonitor {x : Monitor} (keeps : (default : Monitor).Keeps t x) :
    m.Alters t (m.addMonitor x).2 := by
  refine ⟨rfl, rfl, rfl, fun _ => rfl, fun _ => rfl, fun i => ?_, fun all => all⟩
  show (m.monitor i).Keeps t ((m.monitors.push x).get i)
  rw [Store.get_push, Function.update_apply]
  split
  next eq =>
    have unused : m.monitor i = default := eq ▸ Store.get_size m.monitors
    rw [unused]
    exact keeps
  next => exact .refl ..

/-- A hash that a monitor keeps has no part in its lock. -/
lemma alters_monitorHash : m.Alters t (m.monitorHash t id).2 := by
  unfold monitorHash
  dsimp only
  split
  next => exact .refl t m
  next =>
    refine (alters_drawHash m t).trans (alters_setMonitor _ t id ?_)
    exact .of_sameLock (Monitor.sameLock_header _ _)

/-- A change of an object that leaves its mark alone is an alteration. -/
lemma alters_modifyObject {f : Object → Object} (same : ∀ x, (f x).mark = x.mark) :
    m.Alters t (m.modifyObject o f) := by
  refine ⟨rfl, rfl, rfl, fun _ => rfl, fun _ => rfl, fun _ => .refl .., fun marked mode p => ?_⟩
  show ((m.heap.modify o f).get p).mark.Fits (m.table.get? p)
  rw [Store.modify, Store.get_set, Function.update_apply]
  split
  next eq => rw [same, ← eq]; exact marked mode p
  next => exact marked mode p

/-- A new object has the header that its number had before. -/
lemma alters_allocate (label : String) (c : Class) : m.Alters t (m.allocate label c) := by
  refine ⟨rfl, rfl, rfl, fun _ => rfl, fun _ => rfl, fun _ => .refl .., fun marked mode p => ?_⟩
  show ((m.heap.push (.new label c)).get p).mark.Fits (m.table.get? p)
  rw [Store.get_push, Function.update_apply]
  split
  next eq =>
    subst eq
    have unused : m.mark m.heap.size = .word .fresh := congrArg Object.mark (Store.get_size m.heap)
    have fits := marked mode m.heap.size
    rwa [unused] at fits
  next => exact marked mode p

end Machine

/-- A fault that a barrier raises when it is armed or disarmed for the second time. -/
def Fault.ofBarrier : Fault → Bool
  | barrierArmed | barrierNotArmed => true
  | _ => false

/-- Thread `t` exits a monitor, which it may have to claim first. -/
def Machine.Exits (t : ThreadId) (m n : Machine) : Prop :=
  ∃ k id y, m.Alters t k ∧
    (k.monitor id = m.monitor id ∨ ∃ c, (m.monitor id).claim? t c = some (k.monitor id)) ∧
    (k.monitor id).exit? t = some y ∧ n = k.setMonitor id y

namespace Outcome

variable {α β : Type} {t : ThreadId} {m n : Machine}

/-- An operation alters the machine and raises no fault of a barrier. -/
def Alters (t : ThreadId) (m : Machine) : Outcome α → Prop
  | ok _ n => m.Alters t n
  | fault f n => m.Alters t n ∧ f.ofBarrier = false

/-- An enter alters the machine. If it has to wait, the thread is not in a no-safepoint region, and
it ends up blocked in the queue of a monitor that it could not have. -/
def Enqueues (t : ThreadId) (m : Machine) : Outcome Entry → Prop
  | ok .entered n => m.Alters t n
  | ok (.queued id resume) n => ∃ k, m.Alters t k ∧ (k.thread t).guards = 0 ∧
      (k.thread t).state = resume ∧
      (k.monitor id).owner ≠ .thread t ∧
      ((k.monitor id).owner = .nobody → (k.monitor id).queued ≠ 0) ∧
      n = (k.setMonitor id ((k.monitor id).enqueue t)).setState t .blocked
  | fault f n => m.Alters t n ∧ f.ofBarrier = false

/-- An exit alters the machine or exits a monitor. -/
def Exits (t : ThreadId) (m : Machine) : Outcome Unit → Prop
  | ok _ n => m.Alters t n ∨ m.Exits t n
  | fault f n => m.Alters t n ∧ f.ofBarrier = false

/-- An alteration may come before an operation that alters the machine. -/
lemma Alters.after {x : Outcome α} (h : x.Alters t n) (first : m.Alters t n) : x.Alters t m := by
  cases x with
  | ok a k => exact first.trans h
  | fault f k => exact ⟨first.trans h.1, h.2⟩

/-- An operation alters the machine if its first part does and whatever follows does. -/
lemma Alters.bind {x : Outcome α} {f : α → Machine → Outcome β} (h : x.Alters t m)
    (next : ∀ a n, m.Alters t n → (f a n).Alters t n) : (x.bind f).Alters t m := by
  cases x with
  | ok a n => exact (next a n h).after h
  | fault c n => exact h

/-- What is answered makes no difference to the alteration. -/
lemma Alters.map {x : Outcome α} (h : x.Alters t m) (f : α → β) : (x.map f).Alters t m := by
  cases x <;> exact h

/-- An alteration may come before an enter. -/
lemma Enqueues.after {x : Outcome Entry} (h : x.Enqueues t n) (first : m.Alters t n) :
    x.Enqueues t m := by
  match x, h with
  | .ok .entered _, h => exact first.trans h
  | .ok (.queued _ _) _, ⟨k, alters, rest⟩ => exact ⟨k, first.trans alters, rest⟩
  | .fault _ _, h => exact ⟨first.trans h.1, h.2⟩

/-- An operation that alters the machine may come before an enter. -/
lemma Alters.enqueues {x : Outcome α} {f : α → Machine → Outcome Entry} (h : x.Alters t m)
    (next : ∀ a n, m.Alters t n → (f a n).Enqueues t n) : (x.bind f).Enqueues t m := by
  cases x with
  | ok a n => exact (next a n h).after h
  | fault c n => exact h

/-- An operation of the exit that changes at most the monitor that it claims. -/
lemma Exits.after {x : Outcome Unit} (h : x.Exits t n) (first : m.Alters t n)
    (same : n.monitor = m.monitor) : x.Exits t m := by
  cases x with
  | ok a k =>
    rcases h with alters | ⟨k, id, y, alters, owned, exits, rfl⟩
    · exact .inl (first.trans alters)
    · exact .inr ⟨k, id, y, first.trans alters, same ▸ owned, exits, rfl⟩
  | fault f k => exact ⟨first.trans h.1, h.2⟩

end Outcome

namespace Machine

variable (m : Machine) (t : ThreadId) (o : ObjectId) (id : MonitorId)

/-- Entering a monitor alters the machine or puts the thread into the queue. -/
lemma enterMonitor_enqueues : (m.enterMonitor t id).Enqueues t m := by
  unfold enterMonitor
  cases enter : (m.monitor id).tryEnter t with
  | some x =>
    simp only [enter]
    exact alters_setMonitor m t id (.of_tryEnter enter)
  | none =>
    simp only [enter]
    generalize hk : (m.setMonitor id (m.monitor id).contend).note _ = k
    have counted : m.Alters t k := by
      rw [← hk]
      refine (alters_setMonitor m t id ?_).trans (alters_note _ t _)
      exact .of_sameLock (Monitor.sameLock_contend _)
    have contended : k.monitor id = (m.monitor id).contend := by
      rw [← hk]
      show (m.setMonitor id _).monitor id = _
      rw [monitor_setMonitor, Function.update_self]
    unfold checkSafepoint
    split
    next unguarded =>
      obtain ⟨other, busy⟩ := Monitor.tryEnter_eq_none enter
      refine ⟨k, counted, unguarded, rfl, ?_, ?_, ?_⟩
      · rw [contended]
        exact other
      · rw [contended]
        exact busy
      · rw [contended]
    next => exact ⟨counted, rfl⟩

/-- Trying to enter a monitor alters the machine. -/
lemma tryEnterMonitor_alters : (m.tryEnterMonitor t id).Alters t m := by
  unfold tryEnterMonitor
  split
  next enter => exact alters_setMonitor m t id (.of_tryEnter enter)
  next => exact .refl t m

/-- Claiming a monitor alters the machine. -/
lemma claimMonitor_alters (n : UInt64) : (m.claimMonitor t id n).Alters t m := by
  unfold claimMonitor
  split
  next claim => exact alters_setMonitor m t id (.of_claim claim)
  next => exact ⟨.refl t m, rfl⟩

/-- Exiting a monitor that the thread owns exits it, and any other exit fails. -/
lemma exitMonitor_exits : (m.exitMonitor t id).Exits t m := by
  unfold exitMonitor
  split
  next y exits => exact .inr ⟨m, id, y, .refl t m, .inl rfl, exits, rfl⟩
  next => exact ⟨.refl t m, rfl⟩

/-- An illegal exit is only noted. -/
lemma illegalExit_exits : (m.illegalExit t o).Exits t m := ⟨alters_note m t _, rfl⟩

/-- A safepoint check alters nothing. -/
lemma checkSafepoint_alters : (m.checkSafepoint t).Alters t m := by
  unfold checkSafepoint
  split
  · exact .refl t m
  · exact ⟨.refl t m, rfl⟩

/-- Pushing an object alters the machine. -/
lemma pushObject_alters : (m.pushObject t o).Alters t m := by
  unfold pushObject
  split
  · exact alters_setLockStack m t _
  · exact ⟨.refl t m, rfl⟩

/-- Pushing a record alters the machine. -/
lemma pushRecord_alters (r : RecordId) : (m.pushRecord t r).Alters t m := by
  unfold pushRecord
  split
  · exact alters_setLockRecords m t _
  · exact ⟨.refl t m, rfl⟩

end Machine

end ObjectLocks
