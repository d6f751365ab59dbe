import ObjectLocks.Proofs.StackLocking.Changes

/-!
# The invariant of stack-locking

What stays true however the lock is used: a header is an unlocked word, the address of a record or
the address of a monitor, and what a record displaced is an unlocked word unless it marks the record
as recursive or unused.
-/

namespace ObjectLocks.StackLocking

/-- What a record may have displaced. -/
def Displaced (w : LockWord) : Prop :=
  w = LockRecord.recursiveMark ∨ w = .unused ∨ w.bits = .unlocked

/-- The invariant. -/
structure Coherent (v : LockView) : Prop where
  mode : v.mode ≠ .lightweight
  plain : ∀ o, v.form o ≠ .fast
  valid : ∀ o, v.form o ≠ .invalid
  linked : v.Linked
  displaced : ∀ r, Displaced (v.record r).displaced
  /-- A record that a header or a thread refers to exists. -/
  recorded : ∀ o r, v.form o = .stacked r → r < v.recordCount
  registered : ∀ t r, r ∈ v.lockRecords t → r < v.recordCount
  /-- Where every lock is a monitor, nothing is stack-locked. -/
  heavy : v.mode = .monitor → ∀ o r, v.form o ≠ .stacked r
  unused : v.mode = .monitor → ∀ r, (v.record r).displaced ≠ LockRecord.recursiveMark
  /-- A thread that has not attached yet has locked nothing. -/
  fresh : ∀ t, v.nextThread ≤ t → v.lockRecords t = []

variable {t : ThreadId} {op : Operation} {v w : LockView} {e : Option Event} {o p : ObjectId}
  {r : RecordId} {id : MonitorId}

/-- The mark of a recursive record has the lock bits of a lock. -/
lemma recursiveMark_bits : LockRecord.recursiveMark.bits = .locked := by decide

/-- The mark of an unused record has lock bits that no header has. -/
lemma unused_bits : LockWord.unused.bits = .marked := by decide

/-- A record is not both unused and recursive. -/
lemma unused_ne : LockWord.unused ≠ LockRecord.recursiveMark := by decide

/-- A record that is neither recursive nor unused has displaced an unlocked word. -/
lemma Displaced.unlocked {w : LockWord} (h : Displaced w) (rec : w ≠ LockRecord.recursiveMark)
    (used : w ≠ .unused) : w.bits = .unlocked := by
  rcases h with h | h | h
  · exact absurd h rec
  · exact absurd h used
  · exact h

/-- A change leaves the mode alone. -/
lemma Change.mode (c : Change t op v e w) : w.mode = v.mode := by
  cases c <;> rfl

/-- A change attaches no thread. -/
lemma Change.nextThread (c : Change t op v e w) : w.nextThread = v.nextThread := by
  cases c <;> rfl

/-- A change leaves the attached threads alone. -/
lemma Change.registry (c : Change t op v e w) : w.registry = v.registry := by
  cases c <;> rfl

/-- A change leaves the headers and monitors of all objects but that of its operation alone. -/
lemma Change.elsewhere (c : Change t op v e w) (h : Coherent v) : v.Elsewhere op.object w := by
  cases c with
  | lock _ _ _ | restore _ _ => exact (LockView.elsewhere_setForm v _ _).congr rfl rfl
  | enterMonitor ho _ _ | wait ho _ _ | exitMonitor ho _ _ | annotate ho _ =>
    exact (LockView.elsewhere_setMonitor h.linked ho _).congr rfl rfl
  | inflateFree _ | inflateStacked _ => exact LockView.elsewhere_inflate h.linked _ _
  | _ => exact (LockView.Elsewhere.refl _ v).congr rfl rfl

/-- A record keeps its worker, and only the record of an enter changes at all. -/
lemma Change.record (c : Change t op v e w) (r : RecordId) :
    (w.record r).worker = (v.record r).worker ∧
      ((∀ o, op ≠ .enter o r) → w.record r = v.record r) := by
  have update {o' r'} {x : LockRecord} (eq : op = .enter o' r')
      (same : x.worker = (v.record r').worker) :
      ((v.setRecord r' x).record r).worker = (v.record r).worker ∧
        ((∀ o, op ≠ .enter o r) → (v.setRecord r' x).record r = v.record r) := by
    rw [LockView.setRecord_record, Function.update_apply]
    split
    next e => exact ⟨e ▸ same, fun other => absurd (e ▸ eq) (other o')⟩
    next => exact ⟨rfl, fun _ => rfl⟩
  cases c with
  | lock _ _ _ | again _ _ _ | unused => exact update rfl rfl
  | _ => exact ⟨rfl, fun _ => rfl⟩

/-- A change makes records and takes none away. -/
lemma Change.recordCount (c : Change t op v e w) : v.recordCount ≤ w.recordCount := by
  cases c with
  | lock _ _ _ | again _ _ _ | unused => exact Nat.le_max_left ..
  | _ => exact Nat.le_refl _

/-- How a change affects the records of threads: some of the thread's go, or the record of an enter
comes on top. -/
lemma Change.lockRecords (c : Change t op v e w) :
    ∃ l, w.lockRecords = Function.update v.lockRecords t l ∧
      ∀ r ∈ l, r ∈ v.lockRecords t ∨ r < w.recordCount ∧ ∃ o, op = .enter o r := by
  have same : v.lockRecords = Function.update v.lockRecords t (v.lockRecords t) :=
    (Function.update_eq_self ..).symm
  -- Writing the record of the enter makes it exist, if it did not.
  have pushed (r' : RecordId) {n} : ∀ r ∈ v.lockRecords t ++ [r'], r ∈ v.lockRecords t ∨
      r < max n (r' + 1) ∧ r = r' := by
    intro r hr
    rcases List.mem_append.1 hr with hr | hr
    · exact .inl hr
    · obtain rfl := List.mem_singleton.1 hr
      exact .inr ⟨Nat.lt_of_lt_of_le (Nat.lt_succ_self _) (Nat.le_max_right ..), rfl⟩
  cases c with
  | @lock _ o r' _ _ _ _ | @again _ o r' _ _ _ _ =>
    refine ⟨_, rfl, fun r hr => (pushed r' r hr).imp_right fun ⟨lt, eq⟩ => ⟨lt, o, eq ▸ rfl⟩⟩
  | exitAgain _ _ | restore _ _ | exitMonitor _ _ _ | reject _ _ _ =>
    exact ⟨_, rfl, fun r hr => .inl (List.mem_of_mem_filter hr)⟩
  | _ => exact ⟨_, same, fun _ => .inl⟩

/-- After a change no header is fast-locked or invalid, and a record gets into one only in the mode
that stack-locks. -/
lemma Change.form (c : Change t op v e w) (h : Coherent v) (o : ObjectId) :
    w.form o ≠ .fast ∧ w.form o ≠ .invalid ∧
      ∀ r, w.form o = .stacked r →
        v.mode = .legacy ∧ r < w.recordCount ∨ v.form o = .stacked r := by
  have update {p} {f : Form} (fast : f ≠ .fast) (valid : f ≠ .invalid)
      (stacked : ∀ r, f = .stacked r → v.mode = .legacy ∧ r < w.recordCount) :
      (v.setForm p f).form o ≠ .fast ∧ (v.setForm p f).form o ≠ .invalid ∧
        ∀ r, (v.setForm p f).form o = .stacked r →
          v.mode = .legacy ∧ r < w.recordCount ∨ v.form o = .stacked r := by
    rw [LockView.setForm_form, Function.update_apply]
    split
    · exact ⟨fast, valid, fun r eq => .inl (stacked r eq)⟩
    · exact ⟨h.plain o, h.valid o, fun _ => .inr⟩
  cases c with
  | lock legacy _ _ =>
    refine update nofun nofun fun r eq => ⟨legacy, ?_⟩
    obtain rfl := Form.stacked.inj eq
    exact Nat.lt_of_lt_of_le (Nat.lt_succ_self _) (Nat.le_max_right ..)
  | restore _ _ | inflateFree _ | inflateStacked _ => exact update nofun nofun nofun
  | _ => exact ⟨h.plain o, h.valid o, fun _ => .inr⟩

/-- An object that has a monitor keeps it. -/
lemma Change.inflated (c : Change t op v e w) (h : Coherent v) (hp : v.form p = .inflated id) :
    w.form p = .inflated id := by
  by_cases eq : p = op.object
  · subst eq
    cases c with
    | lock _ ho _ | restore ho _ | inflateFree ho | inflateStacked ho => cases ho.symm.trans hp
    | _ => exact hp
  · rw [(c.elsewhere h).form p eq, hp]

/-- After a change every monitor that an object leads to is its own. -/
lemma Change.linked (c : Change t op v e w) (h : Coherent v) : w.Linked := by
  cases c with
  | lock _ _ _ | restore _ _ => exact h.linked.setForm nofun
  | enterMonitor _ _ enter => exact h.linked.setMonitor (Monitor.tryEnter_object enter)
  | exitMonitor _ _ exit => exact h.linked.setMonitor (Monitor.exit?_object exit)
  | wait _ _ _ => exact h.linked.setMonitor rfl
  | annotate _ same => exact h.linked.setMonitor same.object
  | inflateFree _ | inflateStacked _ => exact h.linked.inflate rfl
  | _ => exact h.linked

/-- After a change every record has displaced what it may, and is recursive only in the mode that
stack-locks. -/
lemma Change.displaced (c : Change t op v e w) (h : Coherent v) (r : RecordId) :
    Displaced (w.record r).displaced ∧
      (v.mode = .monitor → (w.record r).displaced ≠ LockRecord.recursiveMark) := by
  have update {r'} {x : LockRecord} (good : Displaced x.displaced)
      (unused : v.mode = .monitor → x.displaced ≠ LockRecord.recursiveMark) :
      Displaced ((v.setRecord r' x).record r).displaced ∧
        (v.mode = .monitor →
          ((v.setRecord r' x).record r).displaced ≠ LockRecord.recursiveMark) := by
    rw [LockView.setRecord_record, Function.update_apply]
    split
    · exact ⟨good, unused⟩
    · exact ⟨h.displaced r, fun mode => h.unused mode r⟩
  cases c with
  | lock legacy _ bits => exact update (.inr (.inr bits)) fun mode => nomatch legacy.symm.trans mode
  | again legacy _ _ => exact update (.inl rfl) fun mode => nomatch legacy.symm.trans mode
  | unused => exact update (.inr (.inl rfl)) fun _ => unused_ne
  | _ => exact ⟨h.displaced r, fun mode => h.unused mode r⟩

/-- Every change keeps the invariant. -/
lemma Change.coherent (c : Change t op v e w) (h : Coherent v) (attached : t < v.nextThread) :
    Coherent w := by
  obtain ⟨l, hl, mem⟩ := c.lockRecords
  have entries := update_cases hl
  refine ⟨c.mode ▸ h.mode, fun o => (c.form h o).1, fun o => (c.form h o).2.1, c.linked h,
    fun r => (c.displaced h r).1, fun o r ho => ?_, fun u r hr => ?_, fun mode o r ho => ?_,
    fun mode r => (c.displaced h r).2 (c.mode ▸ mode), fun u le => ?_⟩
  · rcases (c.form h o).2.2 r ho with ⟨-, lt⟩ | ho
    · exact lt
    · exact Nat.lt_of_lt_of_le (h.recorded o r ho) c.recordCount
  · rcases entries u with ⟨eq, -⟩ | ⟨eq, -⟩ <;> rw [eq] at hr
    · rcases mem r hr with hr | ⟨lt, -⟩
      · exact Nat.lt_of_lt_of_le (h.registered t r hr) c.recordCount
      · exact lt
    · exact Nat.lt_of_lt_of_le (h.registered u r hr) c.recordCount
  · rw [c.mode] at mode
    rcases (c.form h o).2.2 r ho with ⟨legacy, -⟩ | ho
    · cases legacy.symm.trans mode
    · exact h.heavy mode o r ho
  · rw [c.nextThread] at le
    rcases entries u with ⟨-, rfl⟩ | ⟨eq, -⟩
    · exact absurd attached (Nat.not_lt.2 le)
    · rw [eq, h.fresh u le]

/-- Every operation of an attached thread keeps the invariant. -/
lemma Coherent.steps (h : Coherent v) (s : Steps (Change t op) v e w)
    (attached : t < v.nextThread) : Coherent w := by
  have keeps := s.keeps (P := fun v => Coherent v ∧ t < v.nextThread) ⟨h, attached⟩
    fun ⟨h, attached⟩ c => ⟨c.coherent h attached, c.nextThread ▸ attached⟩
  exact keeps.1

end ObjectLocks.StackLocking
