import ObjectLocks.Proofs.StackLocking.Coherence

/-!
# The operations of stack-locking

Every operation of stack-locking is described by the changes that it makes. The operations are
unfolded here and nowhere else.
-/

namespace ObjectLocks.StackLocking

variable {m : Machine} {t : ThreadId} {o : ObjectId} {r : RecordId} {op : Operation}

/-- How a header gives an object its form. -/
inductive Header (m : Machine) (o : ObjectId) : Form → Prop where
  | unlocked {w} : m.mark o = .word w → w.bits = .unlocked → Header m o .unlocked
  | stacked {b} : m.mark o = .record b → Header m o (.stacked b)
  | inflated {id} : m.mark o = .monitor id → Header m o (.inflated id)

/-- Without fast-locking the form of a header depends on its mark only. -/
lemma ofMark_eq (mode : m.options.mode ≠ .lightweight) (entry : Option MonitorId) (k : Mark) :
    Form.ofMark m.options entry k = match k with
      | .word w => if w.bits = .unlocked then .unlocked else .invalid
      | .record r => .stacked r
      | .monitor id => .inflated id := by
  unfold Form.ofMark
  cases k <;> exact if_neg mode

/-- Every object has the form that its header gives it. -/
lemma header (h : Coherent m.view) (o : ObjectId) : Header m o (m.form o) := by
  have valid : m.form o ≠ .invalid := h.valid o
  unfold Machine.form at valid ⊢
  rw [ofMark_eq h.mode] at valid ⊢
  cases hk : m.mark o with
  | word w =>
    rw [hk] at valid
    by_cases bits : w.bits = .unlocked
    · simp only [bits, if_true]
      exact .unlocked hk bits
    · simp only [bits, if_false] at valid
      exact absurd rfl valid
  | record r => exact .stacked hk
  | monitor id => exact .inflated hk

/-- An object whose header is the address of a record is stack-locked. -/
lemma form_record (h : Coherent m.view) (hk : m.mark o = .record r) : m.form o = .stacked r := by
  rw [Machine.form, ofMark_eq h.mode, hk]

/-- An object whose header is the address of a monitor has that monitor. -/
lemma form_monitor (h : Coherent m.view) {id : MonitorId} (hk : m.mark o = .monitor id) :
    m.form o = .inflated id := by
  rw [Machine.form, ofMark_eq h.mode, hk]

/-- An object whose header is a word is unlocked. -/
lemma form_word (h : Coherent m.view) {w : LockWord} (hk : m.mark o = .word w) :
    w.bits = .unlocked ∧ m.form o = .unlocked := by
  have hd := header h o
  cases hf : m.form o <;> rw [hf] at hd <;> cases hd <;> simp_all

/-- A monitor that is put into a header is the new monitor of the object. -/
lemma view_install (mode : m.options.mode ≠ .lightweight) (x : Monitor) :
    (install m x).2.view = m.view.inflate x.object x := by
  show ((m.addMonitor x).2.setMark x.object (.monitor m.monitors.size)).view = _
  have e : Form.ofMark (m.addMonitor x).2.options ((m.addMonitor x).2.table.get? x.object)
      (.monitor m.monitors.size) = .inflated m.monitors.size := ofMark_eq mode _ _
  rw [Machine.view_setMark, Machine.view_addMonitor, e]
  rfl

/-- An inflation makes silent changes, and then the object has the monitor that it answers. Records
stay as they are. -/
lemma inflate_steps (op : Operation) (h : Coherent m.view) (cause : InflationCause) :
    ∃ id m', inflate m t op.object cause = .ok id m' ∧ Steps (Change t op) m.view none m'.view ∧
      m'.view.form op.object = .inflated id ∧ m'.view.record = m.view.record := by
  have made (x : Monitor) (own : x.object = op.object) :
      (install m x).2.view.form op.object = .inflated (install m x).1 := by
    rw [view_install h.mode, own]
    exact Function.update_self ..
  unfold inflate
  split
  next id hk => exact ⟨id, m, rfl, .refl, form_monitor h hk, rfl⟩
  next b hk =>
    refine ⟨_, _, rfl, ?_, made _ rfl, ?_⟩
    · show Steps _ _ _ (install m _).2.view
      rw [view_install h.mode]
      exact .single (.inflateStacked (form_record h hk))
    · show (install m _).2.view.record = _
      rw [view_install h.mode]
      rfl
  next w hk =>
    obtain ⟨bits, hf⟩ := form_word h hk
    rw [if_pos (by simpa [LockWord.isUnlocked] using bits)]
    refine ⟨_, _, rfl, ?_, made _ rfl, ?_⟩
    · show Steps _ _ _ (install m _).2.view
      rw [view_install h.mode]
      exact .single (.inflateFree hf)
    · show (install m _).2.view.record = _
      rw [view_install h.mode]
      rfl

/-- A thread enters the monitor of the object with an unused record. -/
lemma enterMonitor_enters {id : MonitorId} (ho : m.form o = .inflated id)
    (unused : (m.record r).displaced = .unused) :
    (m.enterMonitor t id).Enters (Change t (.enter o r)) m.view t o r :=
  Machine.enterMonitor_enters ho (fun _ enter => .enterMonitor ho unused enter)
    (fun enter => .wait ho unused enter) fun _ same => .annotate ho same

/-- Marking a record as one through a monitor is a silent change. -/
lemma throughMonitor_steps :
    Steps (Change t (.enter o r)) m.view none (m.modifyRecord r .throughMonitor).view := by
  rw [Machine.view_modifyRecord]
  exact .single .unused

/-- An enter through a monitor enters the object or waits for it. -/
lemma enterInflated_enters (h : Coherent m.view) (attached : t < m.nextThread)
    (cause : InflationCause) :
    (enterInflated m t o r cause).Enters (Change t (.enter o r)) m.view t o r := by
  have first := throughMonitor_steps (m := m) (t := t) (o := o) (r := r)
  have h := h.steps first attached
  obtain ⟨id, n, eq, steps, ho, records⟩ :=
    inflate_steps (t := t) (.enter o r) h cause
  replace eq : inflate (m.modifyRecord r .throughMonitor) t o cause = .ok id n := eq
  -- The record is marked before the inflation, which leaves all records alone.
  have unused : (n.view.record r).displaced = .unused := by
    rw [records, Machine.view_modifyRecord, LockView.setRecord_record, Function.update_self]
    rfl
  unfold enterInflated
  simp only [eq, Outcome.bind]
  exact (first.trans steps).enters (enterMonitor_enters ho unused)

/-- How stack-locking an object ends: it is locked, or nothing has changed. -/
lemma tryStackLock_steps (h : Coherent m.view) (mode : m.options.mode = .legacy) :
    (∃ m', tryStackLock m t o r = .ok none m' ∧
        Steps (Change t (.enter o r)) m.view (some (.entered t o r)) m'.view) ∨
      ∃ cause, tryStackLock m t o r = .ok (some cause) m := by
  -- Both ways to lock push the record last, after they have looked for room.
  have pushed (n : Machine) (room : (n.lockRecords t).isFull = false) :
      ∃ s, (n.pushRecord t r).map (fun _ => (none : Option InflationCause)) =
          .ok none (n.setLockRecords t s) ∧ s.toList = n.view.lockRecords t ++ [r] := by
    unfold Machine.pushRecord
    cases push : (n.lockRecords t).push? r with
    | some s => exact ⟨s, rfl, (LockStack.push?_eq_some push).2⟩
    | none =>
      have full := LockStack.isFull_iff.2 (LockStack.push?_eq_none push)
      cases room.symm.trans full
  unfold tryStackLock
  split
  next w hk =>
    obtain ⟨bits, hf⟩ := form_word h hk
    rw [if_pos (by simpa [LockWord.isUnlocked] using bits)]
    split
    next => exact .inr ⟨_, rfl⟩
    next room =>
      left
      obtain ⟨s, eq, top⟩ := pushed ((m.modifyRecord r fun x => x.lockedOver w t).setMark o
        (.record r)) (Bool.eq_false_iff.2 room)
      refine ⟨_, eq, ?_⟩
      have e : Form.ofMark m.options (m.table.get? o) (.record r) = .stacked r :=
        ofMark_eq h.mode _ _
      rw [Machine.view_setLockRecords, Machine.view_setMark, Machine.view_modifyRecord, top]
      show Steps _ _ _ (LockView.setLockRecords (LockView.setForm _ o
        (Form.ofMark m.options (m.table.get? o) (.record r))) t _)
      rw [e]
      exact .single (.lock mode hf bits)
  next b hk =>
    split
    next mem =>
      split
      next => exact .inr ⟨_, rfl⟩
      next room =>
        left
        obtain ⟨s, eq, top⟩ := pushed (m.modifyRecord r fun x => x.lockedAgain t)
          (Bool.eq_false_iff.2 room)
        refine ⟨_, eq, ?_⟩
        rw [Machine.view_setLockRecords, Machine.view_modifyRecord, top]
        exact .single (.again mode (form_record h hk) ((LockStack.contains_iff _ _).1 mem))
    next => exact .inr ⟨_, rfl⟩
  next => exact .inr ⟨_, rfl⟩

/-- An enter enters the object or waits for it. -/
lemma enter_enters (h : Coherent m.view) (attached : t < m.nextThread) :
    (enter m t o r).Enters (Change t (.enter o r)) m.view t o r := by
  unfold enter
  split
  next => exact enterInflated_enters h attached _
  next mode =>
    have legacy : m.options.mode = .legacy := by
      have : m.options.mode ≠ .lightweight := h.mode
      cases hm : m.options.mode <;> simp_all
    rcases tryStackLock_steps h legacy (t := t) (o := o) (r := r) with ⟨n, eq, steps⟩ | ⟨cause, eq⟩
    · simp only [eq, Outcome.bind]
      exact steps
    · simp only [eq, Outcome.bind]
      exact enterInflated_enters h attached cause

/-- A quick enter enters the object if it answers so, and otherwise makes silent changes. -/
lemma quickEnter_follows (h : Coherent m.view) :
    (quickEnter m t o r).Follows (Change t (.enter o r)) m.view (quickEvent t o r) none := by
  unfold quickEnter
  split
  next id hk =>
    have ho := form_monitor h hk
    unfold Machine.tryEnterMonitor
    cases enter : (m.monitor id).tryEnter t with
    | none => exact .refl
    | some x =>
      -- The record is marked after the enter, which comes to the same as marking it before.
      show Steps _ _ _ ((m.setMonitor id x).modifyRecord r .throughMonitor).view
      have e : ((m.setMonitor id x).modifyRecord r .throughMonitor).view =
          (m.view.setRecord r (m.view.record r).throughMonitor).setMonitor id x := by
        rw [Machine.view_modifyRecord, Machine.view_setMonitor]
        rfl
      rw [e]
      refine .tail (.single .unused) (.enterMonitor ho ?_ enter)
      rw [LockView.setRecord_record, Function.update_self]
      rfl
  next => exact .refl
  next => exact .refl

/-- An exit through the monitor, by a record that is not recursive and that the header does not
point to. -/
lemma exitInflated_follows (h : Coherent m.view)
    (plain : (m.record r).displaced ≠ LockRecord.recursiveMark)
    (elsewhere : (m.record r).displaced ≠ .unused → m.form o ≠ .stacked r) :
    (exitInflated m t o r).Follows (Change t (.exit o r)) m.view
      (fun _ => some (.exited t o r)) (some (.rejected t o r)) := by
  -- Also an exit that is refused takes the record from the thread.
  have rejected (own : ∀ id, m.form o = .inflated id → (m.monitor id).owner ≠ .thread t) :
      ((m.dropRecord t r).illegalExit t o).Follows (Change t (.exit o r)) m.view
        (fun _ => some (.exited t o r)) (some (.rejected t o r)) := by
    show Steps _ _ _ (m.dropRecord t r).view
    rw [Machine.view_dropRecord]
    exact .single (.reject plain elsewhere own)
  unfold exitInflated
  dsimp only
  split
  next id hk =>
    have ho : m.form o = .inflated id := form_monitor h hk
    split
    next own =>
      replace own : (m.monitor id).owner = .thread t := beq_iff_eq.1 own
      unfold Machine.exitMonitor
      cases exit : ((m.dropRecord t r).monitor id).exit? t with
      | none => exact absurd own (Monitor.exit?_eq_none exit)
      | some x =>
        show Steps _ _ _ ((m.dropRecord t r).setMonitor id x).view
        rw [Machine.view_setMonitor, Machine.view_dropRecord]
        exact .single (.exitMonitor ho plain exit)
    next own =>
      refine rejected fun id' hf => ?_
      obtain rfl := Form.inflated.inj (hf.symm.trans ho)
      exact fun eq => own (beq_iff_eq.2 eq)
  next w hk =>
    refine rejected fun id hf => ?_
    have hk : m.mark o = .word w := hk
    cases hf.symm.trans (form_word h hk).2
  next b hk =>
    refine rejected fun id hf => ?_
    have hk : m.mark o = .record b := hk
    cases hf.symm.trans (form_record h hk)

/-- An exit exits the object, or is rejected. -/
lemma exit_follows (h : Coherent m.view) :
    (exit m t o r).Follows (Change t (.exit o r)) m.view
      (fun _ => some (.exited t o r)) (some (.rejected t o r)) := by
  unfold exit
  dsimp only
  split
  next mode =>
    -- Where every lock is a monitor no record is recursive and no header points to one.
    exact exitInflated_follows h (h.unused mode r) fun _ => h.heavy mode o r
  next =>
    split
    next again =>
      replace again : (m.record r).displaced = LockRecord.recursiveMark := beq_iff_eq.1 again
      split
      next mem =>
        show Steps _ _ _ (m.dropRecord t r).view
        rw [Machine.view_dropRecord]
        exact .single (.exitAgain again ((LockStack.contains_iff _ _).1 mem))
      next out =>
        refine .single (.rejectAgain again fun mem => out ?_)
        exact (LockStack.contains_iff _ _).2 mem
    next plain =>
      replace plain : (m.record r).displaced ≠ LockRecord.recursiveMark := fun eq =>
        plain (beq_iff_eq.2 eq)
      split
      next locked =>
        obtain ⟨used, hk⟩ := locked
        have bits := (h.displaced r).unlocked plain used
        have e : Form.ofMark m.options (m.table.get? o) (.word (m.record r).displaced) =
            .unlocked := by
          rw [ofMark_eq h.mode]
          simp only [show (m.record r).displaced.bits = _ from bits, if_true]
        show Steps _ _ _ ((m.setMark o (.word (m.record r).displaced)).dropRecord t r).view
        rw [Machine.view_dropRecord, Machine.view_setMark, e]
        exact .single (.restore (form_record h hk) bits)
      next unlocked =>
        refine exitInflated_follows h plain fun used hf => unlocked ⟨used, ?_⟩
        have hd := header h o
        rw [hf] at hd
        cases hd
        assumption

/-- An inflation makes silent changes. -/
lemma inflate_follows (h : Coherent m.view) (cause : InflationCause) :
    (inflate m t o cause).Follows (Change t (.visit o)) m.view (fun _ => none) none := by
  obtain ⟨id, n, eq, steps, -⟩ := inflate_steps (t := t) (.visit o) h cause
  replace eq : inflate m t o cause = .ok id n := eq
  rw [eq]
  exact steps

/-- Asking for the identity hash makes silent changes. -/
lemma identityHash_follows (h : Coherent m.view) :
    (identityHash m t o).Follows (Change t (.visit o)) m.view (fun _ => none) none := by
  have throughMonitor : ((inflate m t o .hashCode).bind fun id n =>
      .ok (n.monitorHash t id).1 (n.monitorHash t id).2).Follows (Change t (.visit o)) m.view
        (fun _ => none) none := by
    obtain ⟨id, n, eq, steps, ho, -⟩ := inflate_steps (t := t) (.visit o) h .hashCode
    replace eq : inflate m t o .hashCode = .ok id n := eq
    rw [eq]
    exact steps.trans (Machine.monitorHash_steps fun _ same => .annotate ho same)
  unfold identityHash
  dsimp only
  split
  next w hk =>
    have bits := (form_word h hk).1
    rw [if_pos (by simpa [LockWord.isUnlocked] using bits)]
    split
    next => exact .refl
    next =>
      show Steps _ _ _ ((m.drawHash t).2.setMark o (.word (w.withHash (m.drawHash t).1))).view
      have hk' : (m.drawHash t).2.mark o = .word w := hk
      rw [Machine.view_setMark_word _ _ hk' (LockWord.bits_withHash ..), Machine.view_drawHash]
      exact .refl
  next id hk =>
    have ho : m.form (Operation.visit o).object = .inflated id := form_monitor h hk
    exact Machine.monitorHash_steps fun _ same => .annotate ho same
  next b hk =>
    split
    next => exact .refl
    next => exact throughMonitor

end ObjectLocks.StackLocking
