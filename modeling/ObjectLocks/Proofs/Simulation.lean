import ObjectLocks.Proofs.FastLocking.Refinement
import ObjectLocks.Proofs.Runs
import ObjectLocks.Proofs.StackLocking.Refinement

/-!
# Simulation of the recursive locks

The locks of a system are those that its history leads to, as long as every enter has a record to
itself, every exit undoes an enter of its own thread, and threads detach when they hold nothing. The
relation below ties the view of a system to its history, in every mode. Each step keeps it.
-/

namespace ObjectLocks

/-- The locks and the pending enters that a view stands for in its mode. -/
structure LockView.Refines (v : LockView) (L : Locks) (p : Pending) : Prop where
  fast : v.mode = .lightweight → FastLocking.Refines v L p
  stack : v.mode ≠ .lightweight → StackLocking.Refines v L p

namespace LockView.Refines

variable {v w : LockView} {L : Locks} {p : Pending} {t : ThreadId} {op : Operation}
  {o : ObjectId} {id : MonitorId}

/-- The locks agree with the pending enters. -/
lemma balanced (h : v.Refines L p) (o : ObjectId) : Balanced p o (L o) := by
  by_cases mode : v.mode = .lightweight
  · exact (h.fast mode).balanced o
  · exact (h.stack mode).balanced o

/-- The waiting threads are those in the queue of the monitor. -/
lemma waiting (h : v.Refines L p) (o : ObjectId) :
    (L o).waiting = match v.form o with
      | .inflated id => (v.monitor id).queue
      | _ => [] := by
  by_cases mode : v.mode = .lightweight
  · exact ((h.fast mode).represents o).waiting
  · exact ((h.stack mode).represents o).waiting

/-- The owner of a monitor, if it is known, owns the object. -/
lemma owned (h : v.Refines L p) (ho : v.form o = .inflated id)
    (own : (v.monitor id).owner = .thread t) : ∃ d, L o = .owned t d (v.monitor id).queue := by
  by_cases mode : v.mode = .lightweight
  · exact ⟨_, ((h.fast mode).represents o).owned ho own⟩
  · obtain ⟨_, _, -, -, -, eq⟩ := ((h.stack mode).represents o).owned ho own
    exact ⟨_, eq⟩

/-- The owner of a monitor does not wait for it. -/
lemma awake (h : v.Refines L p) (ho : v.form o = .inflated id)
    (own : (v.monitor id).owner = .thread t) : t ∉ (L o).waiting := by
  obtain ⟨d, eq⟩ := h.owned ho own
  have bal := h.balanced o
  rw [eq] at bal ⊢
  exact bal.2.2.1

/-- The locks that a view stands for depend on the headers, the monitors, the entries and the
records that its mode uses. -/
lemma congr (h : v.Refines L p) (coherent : w.Coherent) (mode : w.mode = v.mode)
    (form : w.form = v.form) (monitor : w.monitor = v.monitor)
    (stack : v.mode = .lightweight → w.lockStack = v.lockStack)
    (records : v.mode ≠ .lightweight → w.lockRecords = v.lockRecords)
    (record : ∀ t x, x ∈ p t → w.record x.2 = v.record x.2) : w.Refines L p := by
  constructor <;> intro m
  · exact (h.fast (mode ▸ m)).congr (coherent.fast m) form monitor (stack (mode ▸ m))
  · exact (h.stack (mode ▸ m)).congr (coherent.stack m) form monitor (records (mode ▸ m)) record

section

variable (attached : t < v.nextThread) (awake : ∀ o, t ∉ (L o).waiting)
  (nested : v.mode = .lightweight → Nested (p t) op) (reverse : InReverse (p t) op)
  (new : Unused (fun r => r) p op)
include attached nested new

/-- An operation without an event is not seen by the callers of the locks. -/
lemma silent (h : v.Refines L p) (c : Steps (Locking.Change v.mode t op) v none w) :
    w.Refines L p := by
  unfold Locking.Change at c
  split at c
  next mode =>
    have keeps := c.keeps_silent (P := fun v => FastLocking.Refines v L p ∧ t < v.nextThread)
      ⟨h.fast mode, attached⟩ fun ⟨h, attached⟩ c =>
        ⟨h.silent c attached (nested mode), c.nextThread ▸ attached⟩
    exact ⟨fun _ => keeps.1, fun mode' => absurd keeps.1.coherent.mode mode'⟩
  next mode =>
    have keeps := c.keeps_silent (P := fun v => StackLocking.Refines v L p ∧ t < v.nextThread)
      ⟨h.stack mode, attached⟩ fun ⟨h, attached⟩ c =>
        ⟨h.silent c attached new, c.nextThread ▸ attached⟩
    exact ⟨fun mode' => absurd mode' keeps.1.coherent.mode, fun _ => keeps.1⟩

include awake reverse in
/-- The event of an operation is what the locks allow next. -/
lemma event {e : Event} (h : v.Refines L p)
    (c : Steps (Locking.Change v.mode t op) v (some e) w) (room : (e.pend p t).length ≤ 2 ^ 64) :
    ∃ L', e.apply L = some L' ∧ w.Refines L' (e.pend p) := by
  unfold Locking.Change at c
  split at c
  next mode =>
    obtain ⟨u, ⟨hu, attached⟩, c⟩ := c.before_event
      (P := fun v => FastLocking.Refines v L p ∧ t < v.nextThread)
      ⟨h.fast mode, attached⟩ fun ⟨h, attached⟩ c =>
        ⟨h.silent c attached (nested mode), c.nextThread ▸ attached⟩
    obtain ⟨L', applies, h'⟩ := hu.event c attached awake room (nested mode)
    exact ⟨L', applies, fun _ => h', fun mode' => absurd h'.coherent.mode mode'⟩
  next mode =>
    obtain ⟨u, ⟨hu, attached⟩, c⟩ := c.before_event
      (P := fun v => StackLocking.Refines v L p ∧ t < v.nextThread)
      ⟨h.stack mode, attached⟩ fun ⟨h, attached⟩ c =>
        ⟨h.silent c attached new, c.nextThread ▸ attached⟩
    obtain ⟨L', applies, h'⟩ := hu.event c attached awake room new reverse
    exact ⟨L', applies, fun mode' => absurd mode' h'.coherent.mode, fun _ => h'⟩

end

end LockView.Refines

section

variable {v w : LockView} {t : ThreadId} {op : Operation} {o : ObjectId} {id : MonitorId}

/-- No operation takes the monitor from an object. -/
lemma inflated_steps {e : Option Event} (h : v.Coherent) (attached : t < v.nextThread)
    (c : Steps (Locking.Change v.mode t op) v e w) (ho : v.form o = .inflated id) :
    w.form o = .inflated id := by
  unfold Locking.Change at c
  split at c
  next mode =>
    have keeps := c.keeps
      (P := fun u => FastLocking.Coherent u ∧ t < u.nextThread ∧ u.form o = .inflated id)
      ⟨h.fast mode, attached, ho⟩ fun ⟨h, attached, ho⟩ c =>
        ⟨c.coherent h attached, c.nextThread ▸ attached, c.inflated h ho⟩
    exact keeps.2.2
  next mode =>
    have keeps := c.keeps
      (P := fun u => StackLocking.Coherent u ∧ t < u.nextThread ∧ u.form o = .inflated id)
      ⟨h.stack mode, attached, ho⟩ fun ⟨h, attached, ho⟩ c =>
        ⟨c.coherent h attached, c.nextThread ▸ attached, c.inflated h ho⟩
    exact keeps.2.2

/-- The event of an operation is one of the operation. -/
lemma of_steps {mode : LockingMode} {e : Event}
    (c : Steps (Locking.Change mode t op) v (some e) w) : e.Of t op := by
  obtain ⟨u, -, c⟩ := c.before_event (P := fun _ => True) trivial fun _ _ => trivial
  unfold Locking.Change at c
  split at c
  · exact c.of
  · exact c.of

end

/-- The order in which the enters of a thread may be undone: which operations are in order, given
the pending enters. -/
abbrev ExitOrder := List (ObjectId × RecordId) → Operation → Prop

/-- An enter uses a record that exists. -/
def Operation.Existing (count : Nat) : Operation → Prop
  | enter _ r => r < count
  | exit _ _ | visit _ => True

/-- A careful use of the locks. Each enter uses a record that no pending enter uses, as told by the
addresses of the records; exits are in order; and a thread detaches when it holds nothing. -/
def Careful (address : RecordId → UInt64) (order : ExitOrder) (s : SystemView) (h : List Event) :
    Label → Prop
  | .lock _ t op _ =>
    op.Existing s.locks.recordCount ∧ Unused address (pending h) op ∧ order (pending h t) op
  | .detach _ t => pending h t = []
  | .other => True

instance (count : Nat) : DecidablePred (Operation.Existing count)
  | .enter _ _ => inferInstanceAs (Decidable (_ < _))
  | .exit _ _ | .visit _ => isTrue trivial

instance (address : RecordId → UInt64) (order : ExitOrder) [∀ l op, Decidable (order l op)]
    (s : SystemView) (h : List Event) : DecidablePred (Careful address order s h)
  | .lock _ _ _ _ => inferInstanceAs (Decidable (_ ∧ _ ∧ _))
  | .detach _ _ => inferInstanceAs (Decidable (_ = _))
  | .other => isTrue trivial

/-- Careful use of the locks of objects, and anything else that is no lock operation. -/
def careful (address : RecordId → UInt64) (order : ExitOrder) : Rule := fun s h x =>
  (∀ w a, x = .act w a → a.isDirect = false ∧ a.isRegion = false) ∧
    Careful address order s.view h (s.label x)

instance (address : RecordId → UInt64) (order : ExitOrder) [∀ l op, Decidable (order l op)]
    (s : World) (h : List Event) (x : Move) : Decidable (careful address order s h x) :=
  inferInstanceAs (Decidable (_ ∧ _))

namespace SystemView

/-- The history of a system leads to its locks. -/
structure Tracks (address : RecordId → UInt64) (s : SystemView) (h : List Event) (L : Locks) :
    Prop where
  sound : s.Sound
  replays : replay h = some L
  refines : s.locks.Refines L (pending h)
  distinct : Distinct address (pending h)
  /-- Who has entered something is attached. -/
  registered : ∀ t, pending h t ≠ [] → t ∈ s.locks.registry
  existing : ∀ t x, x ∈ pending h t → x.2 < s.locks.recordCount
  /-- The worker of a waiting thread waits. -/
  asleep : ∀ w t o, s.thread w = some t → t ∈ (L o).waiting →
    ∃ id, s.waitsFor w = some id ∧ s.locks.form o = .inflated id

namespace Tracks

variable {address : RecordId → UInt64} {order : ExitOrder} {s s' : SystemView} {h : List Event}
  {L : Locks} {l : Label} {w : WorkerId} {t : ThreadId}

/-- A thread whose worker does not wait is in no queue. -/
lemma awake (k : s.Tracks address h L) (ht : s.thread w = some t) (free : s.waitsFor w = none)
    (o : ObjectId) : t ∉ (L o).waiting := by
  intro waits
  obtain ⟨id, eq, -⟩ := k.asleep w t o ht waits
  cases free.symm.trans eq

/-- An operation leads to the locks that its event, if any, leads to. -/
lemma operation {op : Operation} {e : Option Event} {v : LockView}
    {waitsFor : WorkerId → Option MonitorId} (k : s.Tracks address h L) (ht : s.thread w = some t)
    (free : s.waitsFor w = none) (c : Steps (Locking.Change s.locks.mode t op) s.locks e v)
    (nested : s.locks.mode = .lightweight → Nested (pending h t) op)
    (reverse : InReverse (pending h t) op) (new : Unused address (pending h) op)
    (existing : op.Existing s.locks.recordCount)
    (others : ∀ w', w' ≠ w → waitsFor w' = s.waitsFor w')
    (waits : ∀ o r, e = some (.waits t o r) →
      ∃ id, waitsFor w = some id ∧ v.form o = .inflated id) :
    ∃ L', Tracks address { s with locks := v, waitsFor := waitsFor } (e.toList ++ h) L' := by
  have attached := k.sound.lt ht
  have sound := k.sound.lock ht c waitsFor
  obtain ⟨registry, -, -⟩ := registry_steps c
  obtain ⟨count, -⟩ := records_steps c
  have awake := k.awake ht free
  have new' := new.id
  -- The worker of a thread that has waited before still waits.
  have still {w' u o} (hu : s.thread w' = some u) (mem : u ∈ (L o).waiting) :
      ∃ id, waitsFor w' = some id ∧ v.form o = .inflated id := by
    obtain ⟨id, eq, ho⟩ := k.asleep w' u o hu mem
    have ne : w' ≠ w := by
      rintro rfl
      cases free.symm.trans eq
    exact ⟨id, (others w' ne).trans eq, inflated_steps k.sound.coherent attached c ho⟩
  cases e with
  | none =>
    exact ⟨L, sound, k.replays, k.refines.silent attached nested new' c, k.distinct,
      fun u pend => registry ▸ k.registered u pend,
      fun u x mem => Nat.lt_of_lt_of_le (k.existing u x mem) count,
      fun w' u o hu mem => still hu mem⟩
  | some e =>
    have of := of_steps c
    have distinct := k.distinct.pend of new
    obtain ⟨L', applies, refines⟩ :=
      k.refines.event attached awake nested reverse new' c (distinct.length_le t)
    refine ⟨L', sound, ?_, refines, distinct, fun u pend => ?_, fun u x mem => ?_,
      fun w' u o hu mem => ?_⟩
    · show (replay h).bind e.apply = _
      rw [k.replays]
      exact applies
    · show u ∈ v.registry
      rw [registry]
      by_cases eq : u = t
      · exact (k.sound.registered u).2 ⟨w, eq ▸ ht⟩
      · refine k.registered u ?_
        rwa [← of.pend_of_ne (p := pending h) eq]
    · refine Nat.lt_of_lt_of_le ?_ count
      rcases of.mem_pend mem with mem | rfl
      · exact k.existing u x mem
      · exact existing
    · rcases Event.waiting_apply applies mem with mem | ⟨r, rfl⟩
      · exact still hu mem
      · obtain rfl : u = t := by cases of; rfl
        obtain rfl := k.sound.unique w' w u hu ht
        exact waits o r rfl

/-- A worker may attach. -/
lemma attach (k : s.Tracks address h L) (free : s.thread w = none) :
    Tracks address { s with
      locks := s.locks.attach
      thread := Function.update s.thread w (some s.locks.nextThread) } h L := by
  have sound := k.sound.attach free
  -- Nothing was locked under the number of the new thread.
  have same {α : Type} {f : ThreadId → List α} (fresh : ∀ t, s.locks.nextThread ≤ t → f t = []) :
      Function.update f s.locks.nextThread [] = f := by
    rw [← fresh s.locks.nextThread (Nat.le_refl _), Function.update_eq_self]
  have new : s.locks.nextThread ∉ s.locks.registry := fun mem =>
    Nat.lt_irrefl _ (k.sound.attached _ mem)
  refine ⟨sound, k.replays, k.refines.congr sound.coherent rfl rfl rfl (fun mode => ?_)
    (fun mode => ?_) fun _ _ _ => rfl, k.distinct,
    fun u pend => List.mem_append_left _ (k.registered u pend), k.existing, fun w' u o hu mem => ?_⟩
  · exact same (k.sound.coherent.fast mode).fresh
  · exact same (k.sound.coherent.stack mode).fresh
  · simp only [Function.update_apply] at hu
    split at hu
    next =>
      obtain rfl := Option.some.inj hu
      exact absurd (k.registered _ ((k.refines.balanced o).pending mem)) new
    next => exact k.asleep w' u o hu mem

/-- A worker may detach once its thread has no pending enter. -/
lemma detach (k : s.Tracks address h L) (ht : s.thread w = some t) (nothing : pending h t = []) :
    Tracks address { s with
      locks := { s.locks with registry := World.unregister s.locks.registry t }
      thread := Function.update s.thread w none } (.detached t :: h) L := by
  have sound := k.sound.detach ht
  refine ⟨sound, ?_, k.refines.congr sound.coherent rfl rfl rfl (fun _ => rfl) (fun _ => rfl)
    fun _ _ _ => rfl, k.distinct, fun u pend => ?_, k.existing, fun w' u o hu mem => ?_⟩
  · show (replay h).bind _ = _
    rw [k.replays]
    rfl
  · have ne : u ≠ t := fun eq => pend (eq ▸ nothing)
    rw [(unregister_perm s.locks.registry t).mem_iff, k.sound.nodup.mem_erase_iff]
    exact ⟨ne, k.registered u pend⟩
  · simp only [Function.update_apply] at hu
    split at hu
    next => cases hu
    next => exact k.asleep w' u o hu mem

/-- A new record changes no lock. -/
lemma newRecord (k : s.Tracks address h L) (w : WorkerId) :
    Tracks address { s with
      locks := s.locks.setRecord s.locks.recordCount (.fresh w) } h L := by
  have sound : Sound { s with locks := s.locks.setRecord s.locks.recordCount (.fresh w) } :=
    Step.newRecord.sound k.sound
  refine ⟨sound, k.replays, k.refines.congr sound.coherent rfl rfl rfl (fun _ => rfl) (fun _ => rfl)
    fun u x mem => Function.update_of_ne (Nat.ne_of_lt (k.existing u x mem)) .., k.distinct,
    k.registered, fun u x mem => ?_, k.asleep⟩
  exact Nat.lt_of_lt_of_le (k.existing u x mem) (Nat.le_max_left ..)

/-- A worker that has been handed the monitor may go on. -/
lemma resume {id : MonitorId} (k : s.Tracks address h L) (ht : s.thread w = some t)
    (waits : s.waitsFor w = some id) (own : (s.locks.monitor id).owner = .thread t) :
    Tracks address { s with waitsFor := Function.update s.waitsFor w none } h L := by
  refine ⟨(Step.resume ht waits own).sound k.sound, k.replays, k.refines, k.distinct, k.registered,
    k.existing, fun w' u o hu mem => ?_⟩
  obtain ⟨id', eq, ho⟩ := k.asleep w' u o hu mem
  -- The thread of the worker owns the monitor by now.
  have ne : w' ≠ w := by
    rintro rfl
    obtain rfl := Option.some.inj (waits.symm.trans eq)
    obtain rfl := Option.some.inj (ht.symm.trans hu)
    exact k.refines.awake ho own mem
  exact ⟨id', (Function.update_of_ne ne ..).trans eq, ho⟩

/-- A thread number may be left out. -/
lemma skip (k : s.Tracks address h L) :
    Tracks address { s with
      locks := { s.locks with nextThread := s.locks.nextThread + 1 } } h L := by
  have sound := Step.skip.sound k.sound
  exact ⟨sound, k.replays, k.refines.congr sound.coherent rfl rfl rfl (fun _ => rfl) (fun _ => rfl)
    fun _ _ _ => rfl, k.distinct, k.registered, k.existing, k.asleep⟩

/-- Every careful step leads to the locks that its event, if any, leads to. -/
lemma step (k : s.Tracks address h L) (c : Step s l s') (careful : Careful address order s h l)
    (nested : s.locks.mode = .lightweight → ∀ l op, order l op → Nested l op)
    (reverse : ∀ l op, order l op → InReverse l op) :
    ∃ L', s'.Tracks address (l.event?.toList ++ h) L' := by
  cases c with
  | idle => exact ⟨L, k⟩
  | @lock w t op e v ht free c calm =>
    obtain ⟨existing, new, ordered⟩ := careful
    exact k.operation ht free c (fun mode => nested mode _ _ ordered) (reverse _ _ ordered) new
      existing (fun _ _ => rfl) fun o r eq => absurd eq (calm o r)
  | @wait w t o r v id ht free c ho =>
    obtain ⟨existing, new, ordered⟩ := careful
    refine k.operation ht free c (fun mode => nested mode _ _ ordered) (reverse _ _ ordered) new
      existing (fun w' ne => Function.update_of_ne ne ..) fun o' r' eq => ?_
    cases eq
    exact ⟨id, Function.update_self .., ho⟩
  | resume ht waits own => exact ⟨L, k.resume ht waits own⟩
  | attach free => exact ⟨L, k.attach free⟩
  | skip => exact ⟨L, k.skip⟩
  | detach ht _ => exact ⟨L, k.detach ht careful⟩
  | newRecord => exact ⟨L, k.newRecord _⟩

end Tracks

end SystemView

end ObjectLocks
