import ObjectLocks.Proofs.Runs

/-!
# Mutual exclusion

Two views of who holds an object are kept by the locking algorithms: a thread finds out whether it
holds the object itself, and anyone can ask for the thread that does. However the locks are used,
as long as no thread uses a record of another worker, the two agree, and at most one attached thread
holds the object.
-/

namespace ObjectLocks

/-- Every use of the locks of objects with records of one's own: exits need not be balanced. -/
def ownRecords : Rule := fun s _ x => ∀ w a, x = .act w a →
  a.isDirect = false ∧ ∀ o r, a.operation? = some (.enter o r) →
    r < s.machine.records.size ∧ (s.machine.record r).worker = w

instance (s : World) (h : List Event) (x : Move) : Decidable (ownRecords s h x) :=
  inferInstanceAs (Decidable (∀ w a, x = .act w a → _ ∧ _))

/-- Searching for the only element of a kind. -/
lemma find?_unique {α : Type} {l : List α} {p : α → Bool} {a : α}
    (unique : ∀ a ∈ l, ∀ b ∈ l, p a = true → p b = true → a = b) (mem : a ∈ l) :
    l.find? p = some a ↔ p a = true := by
  constructor
  · exact List.find?_some
  · intro ha
    cases found : l.find? p with
    | none => exact absurd ha (List.find?_eq_none.1 found a mem)
    | some b =>
      rw [unique b (List.mem_of_find?_eq_some found) a mem (List.find?_some found) ha]

namespace FastLocking

/-- A thread holds an object by its lock stack or as the owner of the object's monitor. -/
def Holds (v : LockView) (t : ThreadId) (o : ObjectId) : Prop :=
  match v.form o with
  | .fast => o ∈ v.lockStack t
  | .inflated id => (v.monitor id).owner = .thread t ∨
      (v.monitor id).owner = .anonymous ∧ o ∈ v.lockStack t
  | .unlocked | .stacked _ | .invalid => False

variable {m : Machine} {t : ThreadId} {o : ObjectId}

/-- An object whose form is not that of a fast lock does not look fast-locked. -/
lemma not_isFastLocked (h : Coherent m.view) (ne : m.view.form o ≠ .fast) :
    ¬(m.mark o).isFastLocked = true :=
  fun locked => ne ((isFastLocked_iff h).1 locked)

/-- An object whose form is not that of a monitor leads to none. -/
lemma readMonitor?_eq_none (h : Coherent m.view) (free : ∀ id, m.view.form o ≠ .inflated id) :
    readMonitor? m o (m.mark o) = none := by
  rw [Option.eq_none_iff_forall_ne_some]
  exact fun id read => free id ((readMonitor?_iff h id).1 read)

/-- A thread finds that it holds an object if it does. -/
lemma holdsLock_iff (h : Coherent m.view) : holdsLock m t o = true ↔ Holds m.view t o := by
  have contains := LockStack.contains_iff (m.lockStack t) o
  unfold holdsLock Holds
  cases hf : m.view.form o with
  | fast =>
    rw [if_pos ((isFastLocked_iff h).2 hf)]
    exact contains
  | inflated id =>
    rw [if_neg (not_isFastLocked h (by rw [hf]; simp)), (readMonitor?_iff h id).2 hf]
    simp only [Bool.or_eq_true, Bool.and_eq_true, contains, Monitor.isOwner,
      Monitor.hasAnonymousOwner, beq_iff_eq]
    exact Iff.rfl
  | unlocked | stacked _ | invalid =>
    rw [if_neg (not_isFastLocked h (by rw [hf]; simp)), readMonitor?_eq_none h (by rw [hf]; simp)]
    simp

/-- The thread that anyone is told is the attached one that holds the object. -/
lemma lockOwner?_iff (h : Coherent m.view) (attached : t ∈ m.registry) :
    lockOwner? m o = some t ↔ Holds m.view t o := by
  have locker (one : OnOneStack m.view o) : m.fastLocker? o = some t ↔ o ∈ m.view.lockStack t := by
    unfold Machine.fastLocker?
    rw [find?_unique _ attached]
    · exact LockStack.contains_iff _ _
    · intro a _ b _ ha hb
      exact one.unique ((LockStack.contains_iff _ _).1 ha) ((LockStack.contains_iff _ _).1 hb)
  have placed := h.placed o
  unfold lockOwner? Holds
  cases hf : m.view.form o with
  | fast =>
    rw [if_pos ((isFastLocked_iff h).2 hf)]
    exact locker (placed.fast hf)
  | inflated id =>
    rw [if_neg (not_isFastLocked h (by rw [hf]; simp)), (readMonitor?_iff h id).2 hf]
    dsimp only [Option.bind]
    show _ ↔ (m.monitor id).owner = _ ∨ (m.monitor id).owner = _ ∧ _
    cases own : (m.monitor id).owner with
    | anonymous =>
      have claimable : (m.monitor id).hasAnonymousOwner = true := beq_iff_eq.2 own
      rw [if_pos claimable, locker (placed.anonymous hf own)]
      simp
    | nobody | thread _ =>
      rw [if_neg (by simp [Monitor.hasAnonymousOwner, own])]
      simp [Owner.thread?]
  | unlocked | stacked _ | invalid =>
    rw [if_neg (not_isFastLocked h (by rw [hf]; simp)), readMonitor?_eq_none h (by rw [hf]; simp)]
    simp

end FastLocking

namespace StackLocking

variable {m : Machine} {t : ThreadId} {o : ObjectId}

/-- No record is among the lock records of two attached threads. -/
def Disjoint (v : LockView) : Prop :=
  ∀ t ∈ v.registry, ∀ u ∈ v.registry, ∀ r, r ∈ v.lockRecords t → r ∈ v.lockRecords u → t = u

/-- The thread that anyone is told is the attached one that finds that it holds the object. -/
lemma lockOwner?_iff (h : Disjoint m.view) (attached : t ∈ m.registry) :
    lockOwner? m o = some t ↔ holdsLock m t o = true := by
  unfold lockOwner? holdsLock
  split
  next b hk =>
    refine find?_unique (fun a ha b' hb ca cb => ?_) attached
    exact h a ha b' hb b ((LockStack.contains_iff _ _).1 ca) ((LockStack.contains_iff _ _).1 cb)
  next id hk =>
    unfold Monitor.isOwner
    cases own : (m.monitor id).owner <;> simp [Owner.thread?]
  next => exact ⟨nofun, nofun⟩

end StackLocking

namespace SystemView

variable {s s' : SystemView} {l : Label} {t : ThreadId}

/-- A thread has only stack-locked with records of its worker. -/
def OwnsRecords (s : SystemView) : Prop :=
  ∀ w t, s.thread w = some t → ∀ r ∈ s.locks.lockRecords t,
    r < s.locks.recordCount ∧ (s.locks.record r).worker = w

/-- An operation only adds the record that it enters with. -/
lemma lockRecords_steps {v v' : LockView} {mode : LockingMode} {op : Operation} {e : Option Event}
    (c : Steps (Locking.Change mode t op) v e v') {u : ThreadId} {r : RecordId}
    (mem : r ∈ v'.lockRecords u) :
    r ∈ v.lockRecords u ∨ u = t ∧ ∃ o, op = .enter o r := by
  refine c.keeps (P := fun w => r ∈ w.lockRecords u → r ∈ v.lockRecords u ∨
    u = t ∧ ∃ o, op = .enter o r) .inl (fun {w _ w'} ih c mem => ?_) mem
  unfold Locking.Change at c
  split at c
  · refine ih ?_
    have same : w'.lockRecords = w.lockRecords := by cases c <;> rfl
    rwa [same] at mem
  · obtain ⟨l, eq, new⟩ := c.lockRecords
    rw [eq, Function.update_apply] at mem
    split at mem
    next hu =>
      rcases new r mem with old | ⟨-, o, enter⟩
      · exact ih (hu ▸ old)
      · exact .inr ⟨hu, o, enter⟩
    next => exact ih mem

/-- An operation with a record of one's own keeps the records of workers apart. -/
lemma OwnsRecords.lock (h : s.OwnsRecords) (sound : s.Sound) {w : WorkerId} {op : Operation}
    {e : Option Event} {v : LockView} (own : World.OwnRecord s (.lock w t op e))
    (ht : s.thread w = some t) (c : Steps (Locking.Change s.locks.mode t op) s.locks e v)
    (waitsFor : WorkerId → Option MonitorId) :
    OwnsRecords { s with locks := v, waitsFor := waitsFor } := by
  obtain ⟨count, worker⟩ := records_steps c
  intro w' u hu r mem
  show r < v.recordCount ∧ (v.record r).worker = w'
  rw [worker]
  rcases lockRecords_steps c mem with old | ⟨rfl, o, rfl⟩
  · obtain ⟨lt, eq⟩ := h w' u hu r old
    exact ⟨Nat.lt_of_lt_of_le lt count, eq⟩
  · obtain ⟨lt, eq⟩ := own
    exact ⟨Nat.lt_of_lt_of_le lt count, eq.trans (sound.unique w w' u ht hu)⟩

/-- Every step keeps the records of workers apart. -/
lemma OwnsRecords.step (h : s.OwnsRecords) (sound : s.Sound) (own : World.OwnRecord s l)
    (c : Step s l s') : s'.OwnsRecords := by
  cases c with
  | idle | resume _ _ _ | skip => exact h
  | lock ht _ c _ => exact h.lock sound own ht c _
  | wait ht _ c _ => exact h.lock sound own ht c _
  | @attach w free =>
    intro w' u hu r mem
    simp only [LockView.attach_lockRecords, Function.update_apply] at mem hu
    split at mem
    next => cases mem
    next old =>
      split at hu
      next => exact absurd (Option.some.inj hu).symm old
      next => exact h w' u hu r mem
  | @detach w t ht _ =>
    intro w' u hu r mem
    simp only [Function.update_apply] at hu
    split at hu
    next => cases hu
    next => exact h w' u hu r mem
  | @newRecord w =>
    intro w' u hu r mem
    obtain ⟨lt, eq⟩ := h w' u hu r mem
    refine ⟨Nat.lt_of_lt_of_le lt (Nat.le_max_left ..), ?_⟩
    simp only [LockView.setRecord_record, Function.update_of_ne (Nat.ne_of_lt lt)]
    exact eq

/-- Threads of different workers have no lock record in common. -/
lemma OwnsRecords.disjoint (h : s.OwnsRecords) (sound : s.Sound) :
    StackLocking.Disjoint s.locks := by
  intro t ht u hu r mt mu
  obtain ⟨w, hw⟩ := (sound.registered t).1 ht
  obtain ⟨w', hw'⟩ := (sound.registered u).1 hu
  obtain rfl : w = w' := (h w t hw r mt).2.symm.trans (h w' u hw' r mu).2
  exact Option.some.inj (hw.symm.trans hw')

end SystemView

namespace Run

variable {options : Options} {s : World} {h : List Event}

/-- The records of workers are kept apart in every run. -/
lemma ownsRecords (run : Run ownRecords options s h) :
    s.view.Sound ∧ s.view.OwnsRecords := by
  induction run with
  | new => exact ⟨World.sound_new options, fun _ _ hw => nomatch hw⟩
  | @move s h x _ allowed ih =>
    obtain ⟨sound, owns⟩ := ih
    have own : World.OwnRecord s.view (s.label x) :=
      World.ownRecord_label fun w a eq => (allowed w a eq).2
    have path := World.move_path sound (fun w a eq => (allowed w a eq).1) own fun _ _ => And.left
    exact ⟨path.sound sound, path.keeps sound owns fun sound owns own c => owns.step sound own c⟩

/-- At most one attached thread holds an object, and it is the one that anyone is told. -/
theorem mutual_exclusion (run : Run ownRecords options s h) (o : ObjectId) :
    (∀ t ∈ s.machine.registry, ∀ u ∈ s.machine.registry,
      s.machine.holdsLock t o = true → s.machine.holdsLock u o = true → t = u) ∧
    (∀ t ∈ s.machine.registry,
      s.machine.lockOwner? o = some t ↔ s.machine.holdsLock t o = true) ∧
    ((∀ t ∈ s.machine.registry, s.machine.lockOwner? o ≠ some t) →
      ∀ t ∈ s.machine.registry, s.machine.holdsLock t o = false) := by
  obtain ⟨sound, owns⟩ := run.ownsRecords
  have agree : ∀ t ∈ s.machine.registry,
      s.machine.lockOwner? o = some t ↔ s.machine.holdsLock t o = true := by
    intro t attached
    unfold Machine.lockOwner? Machine.holdsLock
    split
    next mode =>
      have h := sound.coherent.fast mode
      rw [FastLocking.holdsLock_iff h]
      exact FastLocking.lockOwner?_iff h attached
    next => exact StackLocking.lockOwner?_iff (owns.disjoint sound) attached
  refine ⟨fun t ht u hu holds holds' => ?_, agree, fun none t ht => ?_⟩
  · have eq := ((agree t ht).2 holds).symm.trans ((agree u hu).2 holds')
    exact Option.some.inj eq
  · rw [Bool.eq_false_iff]
    exact fun holds => none t ht ((agree t ht).2 holds)

/-- A thread stack-locks an object, another one tries to exit it, gives it a monitor and waits. -/
def intruded : World × List Event :=
  (World.new (.ofMode .legacy)).follow []
    [.addWorker, .addWorker, .act 0 .attach, .act 1 .attach, .addRecord 0, .addRecord 1,
      .act 0 (.allocate "shared" ⟨"Counter", 1, false⟩), .act 0 (.quickEnter (some 0) 0 false),
      .act 1 (.exit 0 1 false), .act 1 (.enter 0 1 false)]

/-- At most one of the two threads holds the object, and it is the one that anyone is told. -/
theorem mutual_exclusion_intruded :
    (∀ t ∈ intruded.1.machine.registry, ∀ u ∈ intruded.1.machine.registry,
      intruded.1.machine.holdsLock t 0 = true → intruded.1.machine.holdsLock u 0 = true → t = u) ∧
    (∀ t ∈ intruded.1.machine.registry, intruded.1.machine.lockOwner? 0 = some t ↔
      intruded.1.machine.holdsLock t 0 = true) ∧
    ((∀ t ∈ intruded.1.machine.registry, intruded.1.machine.lockOwner? 0 ≠ some t) →
      ∀ t ∈ intruded.1.machine.registry, intruded.1.machine.holdsLock t 0 = false) :=
  mutual_exclusion (.follow .new _ (by decide +kernel)) 0

end Run

end ObjectLocks
