import ObjectLocks.Proofs.MutualExclusion
import ObjectLocks.Proofs.Simulation

/-!
# Refinement of the recursive lock

Used with care, the lock of every object is a recursive lock with a queue, whatever the mode. The
history of a run is a sequence of enters, waits and exits that the recursive locks allow, and at any
time the system answers who owns an object, and lets threads wait, as they do.
-/

namespace ObjectLocks

/-- What callers see of the locks. -/
structure World.Shows (s : World) (L : Locks) (p : Pending) : Prop where
  owner : ∀ o, s.machine.lockOwner? o = (L o).owner?
  holds : ∀ t ∈ s.machine.registry, ∀ o,
    s.machine.holdsLock t o = true ↔ (L o).owner? = some t
  /-- The owner has entered as often as the lock says, and has yet to exit as often. -/
  depth : ∀ o t d q, L o = .owned t d q → 0 < d ∧ (recordsOf (p t) o).length = d
  /-- A thread with a pending enter owns the object or waits for it. -/
  pending : ∀ t o, recordsOf (p t) o ≠ [] → (L o).owner? = some t ∨ t ∈ (L o).waiting
  /-- Threads wait in the queue of the monitor of the object, in the order in which they came. -/
  queue : ∀ o id, s.machine.form o = .inflated id → (s.machine.monitor id).queue = (L o).waiting
  /-- Without a monitor no thread waits. -/
  light : ∀ o, (∀ id, s.machine.form o ≠ .inflated id) → (L o).waiting = []
  /-- A waiting thread does nothing else. -/
  blocked : ∀ w t o, (s.worker w).thread = some t → t ∈ (L o).waiting →
    ∃ id resume goal, (s.worker w).wait = some (.monitor id resume goal) ∧
      s.machine.form o = .inflated id

section

variable {m : Machine} {L : Locks} {p : Pending} {t : ThreadId} {o : ObjectId} {x : RecursiveLock}

/-- The thread that holds a fast-locked object owns it. -/
lemma FastLocking.Represents.holds_iff (h : FastLocking.Coherent m.view)
    (rep : FastLocking.Represents m.view o x) :
    FastLocking.Holds m.view t o ↔ x.owner? = some t := by
  have placed := h.placed o
  unfold FastLocking.Holds
  cases hf : m.view.form o with
  | unlocked =>
    rw [rep.unlocked hf]
    exact ⟨False.elim, nofun⟩
  | fast =>
    obtain ⟨u, mem, rfl⟩ := rep.fast hf
    show _ ↔ some u = some t
    rw [Option.some.injEq]
    exact ⟨fun mem' => (placed.fast hf).unique mem mem', fun eq => eq ▸ mem⟩
  | inflated id =>
    dsimp only
    cases own : (m.view.monitor id).owner with
    | nobody =>
      rw [(rep.free hf own).2]
      exact ⟨nofun, nofun⟩
    | anonymous =>
      obtain ⟨u, mem, rfl⟩ := rep.anonymous hf own
      simp only [RecursiveLock.owner?, Option.some.injEq]
      refine ⟨fun held => ?_, fun eq => .inr ⟨trivial, eq ▸ mem⟩⟩
      rcases held with eq | ⟨-, mem'⟩
      · cases eq
      · exact (placed.anonymous hf own).unique mem mem'
    | thread u =>
      rw [rep.owned hf own]
      simp [RecursiveLock.owner?]
  | stacked _ | invalid => simp only [FastLocking.Represents, hf] at rep

/-- Nobody is told to own an unlocked object with fast-locking. -/
lemma FastLocking.lockOwner?_unlocked (h : FastLocking.Coherent m.view)
    (rep : FastLocking.Represents m.view o .unlocked) : FastLocking.lockOwner? m o = none := by
  unfold FastLocking.lockOwner?
  cases hf : m.view.form o with
  | unlocked =>
    rw [if_neg (FastLocking.not_isFastLocked h (by rw [hf]; simp)),
      FastLocking.readMonitor?_eq_none h (by rw [hf]; simp)]
    rfl
  | fast =>
    obtain ⟨u, -, eq⟩ := rep.fast hf
    cases eq
  | inflated id =>
    rw [if_neg (FastLocking.not_isFastLocked h (by rw [hf]; simp)),
      (FastLocking.readMonitor?_iff h id).2 hf]
    cases own : (m.view.monitor id).owner with
    | nobody =>
      have own' : (m.monitor id).owner = .nobody := own
      simp [Monitor.hasAnonymousOwner, own', Owner.thread?]
    | anonymous =>
      obtain ⟨u, -, eq⟩ := rep.anonymous hf own
      cases eq
    | thread u => cases rep.owned hf own
  | stacked _ | invalid => simp only [FastLocking.Represents, hf] at rep

/-- A stack-locked object is held by the thread that has the record in its header, and by no
other. -/
lemma StackLocking.Refines.holds_iff (h : StackLocking.Refines m.view L p) :
    StackLocking.holdsLock m t o = true ↔ (L o).owner? = some t := by
  have rep := h.represents o
  unfold StackLocking.holdsLock
  split
  next b hk =>
    obtain ⟨u, again, records, -, own, bits, eq⟩ :=
      rep.stacked (StackLocking.form_record h.coherent hk)
    have mem : (o, b) ∈ p u := mem_recordsOf.1 (by simp [records])
    have used : (m.view.record b).displaced ≠ .unused := fun unused => by
      rw [unused, StackLocking.unused_bits] at bits
      cases bits
    rw [LockStack.contains_iff, eq]
    show b ∈ m.view.lockRecords t ↔ some u = some t
    rw [h.registered, Option.some.injEq]
    exact ⟨fun ⟨⟨q, mem'⟩, _⟩ => (h.distinct.inj u t _ _ mem mem' rfl).1,
      fun eq => ⟨⟨o, eq ▸ mem⟩, used⟩⟩
  next id hk =>
    have ho := StackLocking.form_monitor h.coherent hk
    unfold Monitor.isOwner
    cases own : (m.view.monitor id).owner with
    | nobody =>
      have own' : (m.monitor id).owner = .nobody := own
      rw [(rep.free ho own).2.2, own']
      exact ⟨nofun, nofun⟩
    | anonymous => exact absurd own (rep.known ho)
    | thread u =>
      have own' : (m.monitor id).owner = .thread u := own
      obtain ⟨_, _, -, -, -, eq⟩ := rep.owned ho own
      rw [eq, own']
      simp [RecursiveLock.owner?]
  next w hk =>
    rw [rep.unlocked (StackLocking.form_word h.coherent hk).2]
    exact ⟨nofun, nofun⟩

/-- Nobody is told to own an unlocked object with stack-locking. -/
lemma StackLocking.Refines.lockOwner?_unlocked (h : StackLocking.Refines m.view L p)
    (free : L o = .unlocked) : StackLocking.lockOwner? m o = none := by
  have rep := h.represents o
  rw [free] at rep
  unfold StackLocking.lockOwner?
  split
  next b hk =>
    obtain ⟨u, again, -, -, -, -, eq⟩ := rep.stacked (StackLocking.form_record h.coherent hk)
    cases eq
  next id hk =>
    have ho := StackLocking.form_monitor h.coherent hk
    cases own : (m.view.monitor id).owner with
    | nobody => exact congrArg Owner.thread? own
    | anonymous => exact absurd own (rep.known ho)
    | thread u =>
      obtain ⟨_, _, -, -, -, eq⟩ := rep.owned ho own
      cases eq
  next => rfl

/-- The thread that owns an object holds it. -/
lemma LockView.Refines.holds_iff (h : m.view.Refines L p) :
    m.holdsLock t o = true ↔ (L o).owner? = some t := by
  unfold Machine.holdsLock
  split
  next mode =>
    have h := h.fast mode
    rw [FastLocking.holdsLock_iff h.coherent]
    exact (h.represents o).holds_iff h.coherent
  next mode => exact (h.stack mode).holds_iff

/-- Everyone is told the owner, if the owner is attached. -/
lemma LockView.Refines.lockOwner? (h : m.view.Refines L p)
    (attached : ∀ t, p t ≠ [] → t ∈ m.registry) : m.lockOwner? o = (L o).owner? := by
  have bal := h.balanced o
  cases eq : L o with
  | unlocked =>
    unfold Machine.lockOwner?
    split
    next mode =>
      have h := h.fast mode
      exact FastLocking.lockOwner?_unlocked h.coherent (eq ▸ h.represents o)
    next mode => exact (h.stack mode).lockOwner?_unlocked eq
  | owned t d q =>
    rw [eq] at bal
    obtain ⟨pos, depth, -⟩ := bal
    have pend : p t ≠ [] := fun none => by
      rw [none] at depth
      exact absurd depth (Nat.ne_of_lt pos)
    have held : m.holdsLock t o = true := h.holds_iff.2 (by rw [eq]; rfl)
    unfold Machine.holdsLock at held
    unfold Machine.lockOwner?
    split at held
    next mode =>
      have h := h.fast mode
      rw [if_pos mode]
      rw [FastLocking.holdsLock_iff h.coherent] at held
      exact (FastLocking.lockOwner?_iff h.coherent (attached t pend)).2 held
    next mode =>
      have h := h.stack mode
      rw [if_neg mode]
      refine (StackLocking.lockOwner?_iff (fun a _ b _ r ha hb => ?_) (attached t pend)).2 held
      obtain ⟨⟨_, pa⟩, -⟩ := (h.registered a r).1 ha
      obtain ⟨⟨_, pb⟩, -⟩ := (h.registered b r).1 hb
      exact (h.distinct.inj a b _ _ pa pb rfl).1

/-- The locks that the history of a system leads to are what callers see. -/
lemma SystemView.Tracks.shows {address : RecordId → UInt64} {s : World} {h : List Event}
    (k : s.view.Tracks address h L) : s.Shows L (pending h) := by
  refine ⟨fun o => k.refines.lockOwner? k.registered, fun t _ o => k.refines.holds_iff,
    fun o t d q eq => ?_, fun t o pend => ?_, fun o id ho => ?_, fun o plain => ?_,
    fun w t o ht waits => ?_⟩
  · have bal := k.refines.balanced o
    rw [eq] at bal
    exact ⟨bal.1, bal.2.1⟩
  · by_cases waits : t ∈ (L o).waiting
    · exact .inr waits
    · obtain ⟨r, mem⟩ := List.exists_mem_of_ne_nil _ pend
      obtain ⟨d, q, eq⟩ := (k.refines.balanced o).owner mem waits
      exact .inl (by rw [eq]; rfl)
  · rw [k.refines.waiting o, show s.view.locks.form o = _ from ho]
    rfl
  · rw [k.refines.waiting o]
    split
    next id ho => exact absurd ho (plain id)
    next => rfl
  · obtain ⟨id, eq, ho⟩ := k.asleep w t o ht waits
    obtain ⟨wait, hw, hid⟩ := Option.bind_eq_some_iff.1 eq
    cases wait with
    | monitor id' resume goal =>
      cases hid
      exact ⟨id, resume, goal, hw, ho⟩
    | barrier _ _ | turn _ | others => cases hid

end

namespace Run

variable {address : RecordId → UInt64} {order : ExitOrder} {options : Options} {s : World}
  {h : List Event}

/-- A new system has unlocked objects only. -/
lemma tracks_new (options : Options) :
    (World.new options).view.Tracks address [] fun _ => .unlocked := by
  have sound := World.sound_new options
  have form := World.form_new options
  refine ⟨sound, rfl, ⟨fun mode => ?_, fun mode => ?_⟩, ⟨fun _ => List.nodup_nil, nofun⟩,
    fun _ pend => absurd rfl pend, nofun, nofun⟩
  · exact ⟨sound.coherent.fast mode, fun o => FastLocking.represents_unlocked (form o),
      fun o t => rfl, fun t => rfl⟩
  · refine ⟨sound.coherent.stack mode, fun o => StackLocking.represents_unlocked (form o),
      fun o t => rfl, ⟨fun _ => List.nodup_nil, nofun⟩, fun t r => ?_, fun t => List.nodup_nil⟩
    exact ⟨nofun, fun ⟨⟨o, mem⟩, _⟩ => nomatch mem⟩

/-- Every careful run leads to the locks that its history leads to. -/
lemma tracks (run : Run (careful address order) options s h)
    (nested : options.mode = .lightweight → ∀ l op, order l op → Nested l op)
    (reverse : ∀ l op, order l op → InReverse l op) :
    s.view.locks.mode = options.mode ∧ ∃ L, s.view.Tracks address h L := by
  induction run with
  | new => exact ⟨rfl, _, tracks_new options⟩
  | @move s h x _ allowed ih =>
    obtain ⟨mode, L, k⟩ := ih
    obtain ⟨plain, careful⟩ := allowed
    have step := World.move_step k.sound plain
    exact ⟨step.mode.trans mode, k.step step careful (fun m => nested (mode ▸ m)) reverse⟩

/-- A run whose exits undo the innermost enters of their threads is a run of recursive locks. -/
theorem refinement (run : Run (careful address Nested) options s h) :
    ∃ L, replay h = some L ∧ s.Shows L (pending h) := by
  obtain ⟨-, L, k⟩ := run.tracks (fun _ _ _ => id) fun _ _ => Nested.inReverse
  exact ⟨L, k.replays, k.shows⟩

/-- A thread enters an object twice, another one waits for it, and is handed it in the end. -/
def handedOver : World × List Event :=
  (World.new (.ofMode .lightweight)).follow []
    [.addWorker, .addWorker, .act 0 .attach, .act 1 .attach, .addRecord 0, .addRecord 0,
      .addRecord 1, .act 0 (.allocate "shared" ⟨"Counter", 1, false⟩), .act 0 (.enter 0 0 false),
      .act 0 (.enter 0 1 false), .act 1 (.enter 0 2 false), .act 0 (.exit 0 1 false),
      .act 0 (.exit 0 0 false)]

/-- The history is one of recursive locks, which tell who holds the object in the end. -/
theorem refinement_handedOver :
    ∃ L, replay handedOver.2 = some L ∧ handedOver.1.Shows L (pending handedOver.2) :=
  @refinement .ofNat _ _ _ (.follow .new _ (by decide +kernel))

end Run

end ObjectLocks
