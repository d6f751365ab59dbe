import ObjectLocks.Proofs.Refinement

/-!
# The lifetime of lock records

With stack-locking, headers and threads refer to lock records, which are gone once their enters are
undone. Any thread may give a stack-locked object a monitor in between, so the record of an exit may
be the one in the header, a recursive one, or one that a monitor stands for by now. Used with care,
whatever refers to a record refers to one whose enter is pending.
-/

namespace ObjectLocks

/-- An enter completed without waiting, and was not undone since. -/
def Completed (h : List Event) (t : ThreadId) (o : ObjectId) (r : RecordId) : Prop :=
  ∃ later before, h = later ++ .entered t o r :: before ∧ .exited t o r ∉ later

/-- What a header is. -/
inductive Heading where
  | unlocked
  | record
  | monitor
deriving DecidableEq, Repr

/-- A mark is a header of one kind. -/
def Mark.Is : Mark → Heading → Prop
  | .word w, .unlocked => w.bits = .unlocked
  | .record _, .record | .monitor _, .monitor => True
  | _, _ => False

namespace Machine

/-- The thread owns the monitor in the header of the object. -/
def OwnsMonitor (m : Machine) (t : ThreadId) (o : ObjectId) : Prop :=
  ∃ id, m.mark o = .monitor id ∧ (m.monitor id).owner = .thread t

/-- What holds of a machine that stack-locks. -/
structure StackLocked (m : Machine) (h : List Event) : Prop where
  header : ∀ o, ∃! k, (m.mark o).Is k
  unmarked : ∀ o, (m.mark o).bits ≠ .marked ∧ m.mark o ≠ .word .inflating
  recorded : ∀ o r, m.mark o = .record r → r < m.records.size
  linked : ∀ o id, m.mark o = .monitor id → id < m.monitors.size ∧ (m.monitor id).object = o
  /-- The record in a header is registered once, by the thread that has it pending, and it is in no
  other header. -/
  locker : ∀ o r, m.mark o = .record r → ∃ t ∈ m.registry,
    (m.lockRecords t).count r = 1 ∧ (∀ u, (m.lockRecords u).contains r = true → u = t) ∧
    (m.record r).owner = some t ∧ (m.record r).displaced.bits = .unlocked ∧
    (o, r) ∈ pending h t ∧ ∀ p, m.mark p = .record r → p = o
  /-- A registered record is that of a complete enter that is still to be undone. Its thread holds
  the object through an older record or a monitor if the record is recursive, and else through
  itself or a monitor. -/
  registered : ∀ t r, (m.lockRecords t).contains r = true → ∃ o,
    (o, r) ∈ pending h t ∧ Completed h t o r ∧
    (m.OwnsMonitor t o ∨
      if (m.record r).isRecursive then
        ∃ b, [r, b].Sublist (recordsOf (pending h t) o) ∧ m.mark o = .record b
      else m.mark o = .record r)

end Machine

section

variable {h past : List Event} {t u : ThreadId} {o : ObjectId} {r : RecordId} {e : Event}

/-- An enter stays complete until it is undone. -/
lemma Completed.cons (c : Completed h t o r) (ne : e ≠ .exited t o r) :
    Completed (e :: h) t o r := by
  obtain ⟨later, before, rfl, out⟩ := c
  refine ⟨e :: later, before, rfl, fun mem => ?_⟩
  rcases List.mem_cons.1 mem with eq | mem
  · exact ne eq.symm
  · exact out mem

/-- An enter that has just been completed is complete. -/
lemma completed_entered : Completed (.entered t o r :: h) t o r := ⟨[], h, rfl, nofun⟩

/-- Every registered record is that of a complete enter. -/
def Complete (v : LockView) (h : List Event) : Prop :=
  ∀ t o r, r ∈ v.lockRecords t → (o, r) ∈ pending h t → Completed h t o r

namespace SystemView.Tracks

variable {address : RecordId → UInt64} {order : ExitOrder} {s s' : SystemView} {L L' : Locks}
  {l : Label}

/-- An operation without an event registers no record. -/
lemma complete_silent {op : Operation} {v : LockView} (complete : Complete s.locks h)
    (new : Unused address (pending h) op)
    (c : Steps (Locking.Change s.locks.mode t op) s.locks none v) : Complete v h := by
  intro u o r mem pend
  rcases lockRecords_steps c mem with old | ⟨-, q, rfl⟩
  · exact complete u o r old pend
  · exact absurd rfl (new u _ pend)

/-- The record of an enter is registered when the enter completes without waiting, and no more when
it is undone. -/
lemma complete_event {op : Operation} {v : LockView} (complete : Complete s.locks h)
    (distinct : Distinct address (pending h)) (applies : e.apply L = some L')
    (refines : StackLocking.Refines v L' (pending (e :: h))) (new : Unused address (pending h) op)
    (c : Steps (Locking.Change s.locks.mode t op) s.locks (some e) v) : Complete v (e :: h) := by
  have of := of_steps c
  intro u o r mem pend
  rcases of.mem_pend (p := pending h) pend with old | rfl
  · refine Completed.cons ?_ ?_
    · rcases lockRecords_steps c mem with mem | ⟨-, q, rfl⟩
      · exact complete u o r mem old
      · exact absurd rfl (new u _ old)
    · rintro rfl
      change (o, r) ∈ Function.update (pending h) u ((pending h u).erase (o, r)) u at pend
      rw [Function.update_self, (distinct.nodup u).mem_erase_iff] at pend
      exact pend.1 rfl
  · have same : u = t := by
      by_contra ne
      change (o, r) ∈ e.pend (pending h) u at pend
      rw [of.pend_of_ne ne] at pend
      exact new u _ pend rfl
    subst same
    cases of with
    | entered => exact completed_entered
    | waits =>
      -- The enter has begun to wait, so its record went through a monitor.
      obtain ⟨y, waits, rfl⟩ := Option.map_eq_some_iff.1 applies
      refine absurd ?_ (refines.registered_owner mem pend).1
      rw [Function.update_self, RecursiveLock.waiting_wait waits]
      exact List.mem_append_right _ List.mem_cons_self

/-- Every step keeps registered records to complete enters. -/
lemma complete_step (k : s.Tracks address h L) (k' : s'.Tracks address (l.event?.toList ++ h) L')
    (mode : s.locks.mode ≠ .lightweight) (c : Step s l s') (careful : Careful address order s h l)
    (complete : Complete s.locks h) : Complete s'.locks (l.event?.toList ++ h) := by
  have operation {u op e} {v : LockView} {waitsFor : WorkerId → Option MonitorId}
      (c : Steps (Locking.Change s.locks.mode u op) s.locks e v)
      (new : Unused address (pending h) op)
      (k' : Tracks address { s with locks := v, waitsFor := waitsFor } (e.toList ++ h) L') :
      Complete v (e.toList ++ h) := by
    cases e with
    | none => exact complete_silent complete new c
    | some e =>
      have applies : e.apply L = some L' := by
        have replays : (replay h).bind e.apply = some L' := k'.replays
        rwa [k.replays] at replays
      have mode' : v.mode ≠ .lightweight := (registry_steps c).2.2 ▸ mode
      exact complete_event complete k.distinct applies (k'.refines.stack mode') new c
  cases c with
  | idle | resume _ _ _ | skip | newRecord => exact complete
  | lock _ _ c _ => exact operation c careful.2.1 k'
  | wait _ _ c _ => exact operation c careful.2.1 k'
  | attach _ =>
    intro t o r mem pend
    simp only [LockView.attach_lockRecords, Function.update_apply] at mem
    split at mem
    next => cases mem
    next => exact complete t o r mem pend
  | detach _ _ => exact fun t o r mem pend => (complete t o r mem pend).cons nofun

end SystemView.Tracks

namespace StackLocking

variable {m : Machine} {L : Locks}

/-- Every header is of exactly one kind. -/
lemma header_unique (h : Coherent m.view) (o : ObjectId) : ∃! k, (m.mark o).Is k := by
  cases hk : m.mark o with
  | word w =>
    refine ⟨.unlocked, (form_word h hk).1, fun k is => ?_⟩
    cases k with
    | unlocked => rfl
    | record | monitor => exact is.elim
  | record r =>
    refine ⟨.record, trivial, fun k is => ?_⟩
    cases k with
    | record => rfl
    | unlocked | monitor => exact is.elim
  | monitor id =>
    refine ⟨.monitor, trivial, fun k is => ?_⟩
    cases k with
    | monitor => rfl
    | unlocked | record => exact is.elim

/-- No header has the marked bits or is the inflating word. -/
lemma unmarked (h : Coherent m.view) (o : ObjectId) :
    (m.mark o).bits ≠ .marked ∧ m.mark o ≠ .word .inflating := by
  cases hk : m.mark o with
  | word w =>
    have bits := (form_word h hk).1
    refine ⟨fun marked => ?_, fun eq => ?_⟩
    · cases bits.symm.trans marked
    · cases eq
      exact absurd bits (by decide)
  | record r => exact ⟨nofun, nofun⟩
  | monitor id => exact ⟨nofun, nofun⟩

/-- The record in a header is registered with one attached thread, whose enter with it is pending.
-/
lemma locker (h : Refines m.view L (pending past))
    (attached : ∀ t, pending past t ≠ [] → t ∈ m.registry) (hk : m.mark o = .record r) :
    ∃ t ∈ m.registry,
      (m.lockRecords t).count r = 1 ∧ (∀ u, (m.lockRecords u).contains r = true → u = t) ∧
      (m.record r).owner = some t ∧ (m.record r).displaced.bits = .unlocked ∧
      (o, r) ∈ pending past t ∧ ∀ p, m.mark p = .record r → p = o := by
  obtain ⟨t, again, records, -, own, bits, -⟩ :=
    (h.represents o).stacked (form_record h.coherent hk)
  have pend : (o, r) ∈ pending past t := mem_recordsOf.1 (by simp [records])
  have used : (m.view.record r).displaced ≠ .unused := fun unused => by
    rw [unused, unused_bits] at bits
    cases bits
  have mem : r ∈ m.view.lockRecords t := (h.registered t r).2 ⟨⟨o, pend⟩, used⟩
  refine ⟨t, attached t (List.ne_nil_of_mem pend), ?_, fun u hu => ?_, own, bits, pend,
    fun p hp => ?_⟩
  · rw [LockStack.count_eq]
    exact List.count_eq_one_of_mem (h.nodup t) mem
  · obtain ⟨⟨q, pend'⟩, -⟩ := (h.registered u r).1 ((LockStack.contains_iff _ _).1 hu)
    exact (h.distinct.inj u t _ _ pend' pend rfl).1
  · obtain ⟨u, again', records', -⟩ := (h.represents p).stacked (form_record h.coherent hp)
    have pend' : (p, r) ∈ pending past u := mem_recordsOf.1 (by simp [records'])
    exact congrArg Prod.fst (h.distinct.inj u t _ _ pend' pend rfl).2

/-- A registered record is that of a complete enter of an object that its thread has stack-locked or
owns the monitor of. -/
lemma registered (h : Refines m.view L (pending past)) (complete : Complete m.view past)
    (mem : r ∈ m.view.lockRecords t) : ∃ o, (o, r) ∈ pending past t ∧ Completed past t o r ∧
      (m.OwnsMonitor t o ∨
        if (m.record r).isRecursive then
          ∃ b, [r, b].Sublist (recordsOf (pending past t) o) ∧ m.mark o = .record b
        else m.mark o = .record r) := by
  obtain ⟨⟨o, pend⟩, -⟩ := (h.registered t r).1 mem
  obtain ⟨-, d, q, own⟩ := h.registered_owner mem pend
  refine ⟨o, pend, complete t o r mem pend, ?_⟩
  have rep := h.represents o
  rw [own] at rep
  cases hk : m.mark o with
  | word w => cases rep.unlocked (form_word h.coherent hk).2
  | record b =>
    obtain ⟨u, again, records, recursive, -, bits, eq⟩ :=
      rep.stacked (form_record h.coherent hk)
    obtain ⟨rfl, -, -⟩ := RecursiveLock.owned.inj eq
    have among := mem_recordsOf.2 pend
    rw [records, List.mem_append, List.mem_singleton] at among
    refine .inr ?_
    rcases among with newer | rfl
    · have mark : (m.record r).isRecursive = true := beq_iff_eq.2 (recursive r newer)
      rw [if_pos mark]
      refine ⟨b, ?_, rfl⟩
      rw [records]
      exact (List.singleton_sublist.2 newer).append (.refl [b])
    · have first : ¬(m.record r).isRecursive = true :=
        fun mark => not_again bits (beq_iff_eq.1 mark)
      rw [if_neg first]
  | monitor id =>
    -- The thread owns the object, so the monitor names it.
    have ho := form_monitor h.coherent hk
    refine .inl ⟨id, hk, ?_⟩
    cases owner : (m.view.monitor id).owner with
    | nobody => cases (rep.free ho owner).2.2
    | anonymous => exact absurd owner (rep.known ho)
    | thread u =>
      obtain ⟨_, _, -, -, -, eq⟩ := rep.owned ho owner
      exact owner.trans (by rw [(RecursiveLock.owned.inj eq).1])

end StackLocking

end

namespace Run

variable {address : RecordId → UInt64} {options : Options} {s : World} {h : List Event}

/-- Every registered record is that of a complete enter at any time of a careful run. -/
lemma complete (run : Run (careful address InReverse) options s h)
    (mode : options.mode ≠ .lightweight) :
    s.view.locks.mode ≠ .lightweight ∧ Complete s.view.locks h ∧
      ∃ L, s.view.Tracks address h L := by
  have reverse : ∀ l op, InReverse l op → InReverse l op := fun _ _ => id
  induction run with
  | new => exact ⟨mode, fun t o r mem => (nomatch mem), _, tracks_new options⟩
  | @move s h x _ allowed ih =>
    obtain ⟨mode', complete, L, k⟩ := ih
    obtain ⟨plain, careful⟩ := allowed
    have step := World.move_step k.sound plain
    obtain ⟨L', k'⟩ := k.step step careful (fun m => absurd m mode') reverse
    exact ⟨step.mode.symm ▸ mode', k.complete_step k' mode' step careful complete, L', k'⟩

/-- Where locks are not fast locks, whatever refers to a record refers to one whose enter is
pending. -/
theorem record_lifetime (run : Run (careful address InReverse) options s h)
    (mode : options.mode ≠ .lightweight) : s.machine.StackLocked h := by
  obtain ⟨mode', complete, L, k⟩ := run.complete mode
  have refines := k.refines.stack mode'
  have coherent := refines.coherent
  exact ⟨StackLocking.header_unique coherent, StackLocking.unmarked coherent,
    fun o r hk => coherent.recorded o r (StackLocking.form_record coherent hk),
    fun o id hk => coherent.linked o id (StackLocking.form_monitor coherent hk),
    fun o r => StackLocking.locker refines k.registered,
    fun t r mem => StackLocking.registered refines complete ((LockStack.contains_iff _ _).1 mem)⟩

/-- A thread stack-locks an object twice, another one waits for its monitor, and the first thread
undoes its second enter. -/
def overtaken : World × List Event :=
  (World.new (.ofMode .legacy)).follow []
    [.addWorker, .addWorker, .act 0 .attach, .act 1 .attach, .addRecord 0, .addRecord 0,
      .addRecord 1, .act 0 (.allocate "shared" ⟨"Counter", 1, false⟩), .act 0 (.enter 0 0 false),
      .act 0 (.enter 0 1 false), .act 1 (.enter 0 2 false), .act 0 (.exit 0 1 false)]

/-- The second record is gone, and the monitor stands for the first one. -/
theorem record_lifetime_overtaken : overtaken.1.machine.StackLocked overtaken.2 :=
  @record_lifetime .ofNat _ _ _ (.follow .new _ (by decide +kernel)) (by decide)

end Run

end ObjectLocks
