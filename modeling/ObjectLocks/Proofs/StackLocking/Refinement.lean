import ObjectLocks.Proofs.RecursiveLock
import ObjectLocks.Proofs.StackLocking.Coherence

/-!
# Stack-locking refines the recursive lock

The first enter of a stack-locked object has the record that the header names, and every later one a
recursive record. Once the object has a monitor, whoever gave it one, recursive records stay what
they are, and the monitor counts the other ones. If every exit undoes the latest enter of its object,
the record of the first enter is the last one to go, and the kind of each record tells how its exit
is done. A thread keeps the records that it has stack-locked with for as long as they are pending.
-/

namespace ObjectLocks.StackLocking

/-- The record stands for a recursive enter of a stack-locked object. -/
def Again (v : LockView) (r : RecordId) : Prop := (v.record r).displaced = LockRecord.recursiveMark

instance (v : LockView) : DecidablePred (Again v) :=
  fun _ => inferInstanceAs (Decidable (_ = _))

/-- How many of the records are not recursive. -/
def firstCount (v : LockView) (l : List RecordId) : Nat := l.countP fun r => ¬Again v r

/-- An object is locked as `x`. -/
def Represents (v : LockView) (p : Pending) (o : ObjectId) (x : RecursiveLock) : Prop :=
  match v.form o with
  | .unlocked => x = .unlocked
  | .stacked b =>
    ∃ t again, recordsOf (p t) o = again ++ [b] ∧ (∀ r ∈ again, Again v r) ∧
      (v.record b).owner = some t ∧ (v.record b).displaced.bits = .unlocked ∧
      x = .owned t (again.length + 1) []
  | .inflated id =>
    (v.monitor id).queued = (v.monitor id).queue.length ∧
    (∀ u ∈ (v.monitor id).queue, ∀ r ∈ recordsOf (p u) o, (v.record r).displaced = .unused) ∧
    match (v.monitor id).owner with
    | .nobody =>
      (v.monitor id).queue = [] ∧ (v.monitor id).recursions = 0 ∧ x = .unlocked
    | .thread t =>
      ∃ newer b, recordsOf (p t) o = newer ++ [b] ∧ ¬Again v b ∧
        firstCount v (recordsOf (p t) o) = (v.monitor id).recursions.toNat + 1 ∧
        x = .owned t (recordsOf (p t) o).length (v.monitor id).queue
    | .anonymous => False
  | .fast | .invalid => False

/-- The locks and the pending enters that a view stands for. -/
structure Refines (v : LockView) (L : Locks) (p : Pending) : Prop where
  coherent : Coherent v
  represents : ∀ o, Represents v p o (L o)
  balanced : ∀ o, Balanced p o (L o)
  distinct : Distinct (fun r => r) p
  /-- The records of a thread are those of its pending enters that did not go through a monitor. -/
  registered : ∀ t r, r ∈ v.lockRecords t ↔
    (∃ o, (o, r) ∈ p t) ∧ (v.record r).displaced ≠ .unused
  nodup : ∀ t, (v.lockRecords t).Nodup

section

variable {v w : LockView} {p p' : Pending} {o q : ObjectId} {x : RecursiveLock} {t u : ThreadId}
  {r b : RecordId} {id : MonitorId}

/-- A recursive record on top counts for nothing. -/
lemma firstCount_cons_again {l : List RecordId} (mark : Again v r) :
    firstCount v (r :: l) = firstCount v l :=
  List.countP_cons_of_neg (by simpa using mark)

/-- A record on top that is not recursive counts for one. -/
lemma firstCount_cons {l : List RecordId} (first : ¬Again v r) :
    firstCount v (r :: l) = firstCount v l + 1 :=
  List.countP_cons_of_pos (decide_eq_true first)

/-- A record that is not recursive is counted. -/
lemma firstCount_pos {l : List RecordId} (first : ¬Again v r) (mem : r ∈ l) :
    0 < firstCount v l :=
  List.countP_pos_iff.2 ⟨r, mem, decide_eq_true first⟩

/-- On top of the first record there are only recursive ones. -/
lemma firstCount_again {l : List RecordId} (recursive : ∀ r ∈ l, Again v r)
    (first : ¬Again v b) : firstCount v (l ++ [b]) = 1 := by
  rw [firstCount, List.countP_append,
    List.countP_eq_zero.2 fun r hr => by simpa using recursive r hr, List.countP_singleton,
    if_pos (decide_eq_true first)]

/-- The count depends on the records only. -/
lemma firstCount_congr {l : List RecordId} (same : ∀ r ∈ l, w.record r = v.record r) :
    firstCount w l = firstCount v l :=
  List.countP_congr fun r hr => by
    rw [decide_eq_true_iff, decide_eq_true_iff, Again, Again, same r hr]

/-- No more records are counted than there are. -/
lemma firstCount_le {l : List RecordId} : firstCount v l ≤ l.length := List.countP_le_length

/-- A record that has displaced an unlocked word is not recursive. -/
lemma not_again (bits : (v.record b).displaced.bits = .unlocked) : ¬Again v b := by
  intro mark
  rw [mark, recursiveMark_bits] at bits
  cases bits

/-- A recursive record is never the first one. -/
lemma first_of_again {newer rest : List RecordId} (first : ¬Again v b) (mark : Again v r)
    (eq : newer ++ [b] = r :: rest) : ∃ newer', newer = r :: newer' ∧ rest = newer' ++ [b] := by
  cases newer with
  | nil =>
    obtain ⟨rfl, -⟩ := List.cons.inj eq
    exact absurd mark first
  | cons a newer' =>
    obtain ⟨rfl, rfl⟩ := List.cons.inj eq
    exact ⟨newer', rfl, rfl⟩

/-- An object with an unlocked header is unlocked. -/
lemma Represents.unlocked (h : Represents v p o x) (ho : v.form o = .unlocked) :
    x = .unlocked := by
  simpa only [Represents, ho] using h

/-- A stack-locked object is owned by the thread of its record, once and by every recursive record
on top of that one, and nobody waits. -/
lemma Represents.stacked (h : Represents v p o x) (ho : v.form o = .stacked b) :
    ∃ t again, recordsOf (p t) o = again ++ [b] ∧ (∀ r ∈ again, Again v r) ∧
      (v.record b).owner = some t ∧ (v.record b).displaced.bits = .unlocked ∧
      x = .owned t (again.length + 1) [] := by
  simpa only [Represents, ho] using h

/-- A monitor counts the threads in its queue. -/
lemma Represents.queued (h : Represents v p o x) (ho : v.form o = .inflated id) :
    (v.monitor id).queued = (v.monitor id).queue.length := by
  simp only [Represents, ho] at h
  exact h.1

/-- A thread that waits does so with unused records. -/
lemma Represents.unused (h : Represents v p o x) (ho : v.form o = .inflated id)
    (hu : u ∈ (v.monitor id).queue) (hr : r ∈ recordsOf (p u) o) :
    (v.record r).displaced = .unused := by
  simp only [Represents, ho] at h
  exact h.2.1 u hu r hr

/-- An object whose monitor nobody owns is unlocked, and nobody waits. -/
lemma Represents.free (h : Represents v p o x) (ho : v.form o = .inflated id)
    (own : (v.monitor id).owner = .nobody) :
    (v.monitor id).queue = [] ∧ (v.monitor id).recursions = 0 ∧ x = .unlocked := by
  simp only [Represents, ho, own] at h
  exact h.2.2

/-- An object whose monitor names its owner is owned by that thread, once for each of its records.
The monitor counts those that are not recursive. -/
lemma Represents.owned (h : Represents v p o x) (ho : v.form o = .inflated id)
    (own : (v.monitor id).owner = .thread t) :
    ∃ newer b, recordsOf (p t) o = newer ++ [b] ∧ ¬Again v b ∧
      firstCount v (recordsOf (p t) o) = (v.monitor id).recursions.toNat + 1 ∧
      x = .owned t (recordsOf (p t) o).length (v.monitor id).queue := by
  simp only [Represents, ho, own] at h
  exact h.2.2

/-- No monitor is owned anonymously. -/
lemma Represents.known (h : Represents v p o x) (ho : v.form o = .inflated id) :
    (v.monitor id).owner ≠ .anonymous := by
  intro own
  simp only [Represents, ho, own] at h
  exact h.2.2

/-- An unlocked header represents an unlocked lock. -/
lemma represents_unlocked (ho : v.form o = .unlocked) : Represents v p o .unlocked := by
  simp only [Represents, ho]

/-- A stack-locked header represents the lock of the thread of its record. -/
lemma represents_stacked {l : List RecordId} {d : Nat} (ho : v.form o = .stacked b)
    (records : recordsOf (p t) o = l ++ [b]) (recursive : ∀ r ∈ l, Again v r)
    (own : (v.record b).owner = some t) (bits : (v.record b).displaced.bits = .unlocked)
    (depth : d = l.length + 1) : Represents v p o (.owned t d []) := by
  simp only [Represents, ho]
  exact ⟨t, l, records, recursive, own, bits, by rw [depth]⟩

section

variable {m : Monitor} (ho : v.form o = .inflated id) (hm : v.monitor id = m)
include ho hm

/-- A monitor without an owner and without a queue represents an unlocked lock. -/
lemma represents_free (own : m.owner = .nobody) (queued : m.queued = 0) (queue : m.queue = [])
    (idle : m.recursions = 0) : Represents v p o .unlocked := by
  simp [Represents, ho, hm, own, queue, queued, idle]

/-- A monitor that names its owner represents the lock of that thread. -/
lemma represents_owned {l : List RecordId} {d : Nat} (own : m.owner = .thread t)
    (queued : m.queued = m.queue.length)
    (unused : ∀ u ∈ m.queue, ∀ r ∈ recordsOf (p u) o, (v.record r).displaced = .unused)
    (records : recordsOf (p t) o = l ++ [b]) (first : ¬Again v b)
    (counted : firstCount v (recordsOf (p t) o) = m.recursions.toNat + 1)
    (depth : d = (recordsOf (p t) o).length) :
    Represents v p o (.owned t d m.queue) := by
  simp only [Represents, ho, hm, own]
  exact ⟨queued, unused, l, b, records, first, counted, by rw [depth]⟩

end

/-- The waiting threads are those in the queue of the monitor. -/
lemma Represents.waiting (h : Represents v p o x) :
    x.waiting = match v.form o with
      | .inflated id => (v.monitor id).queue
      | _ => [] := by
  cases hf : v.form o with
  | unlocked =>
    rw [h.unlocked hf]
    rfl
  | stacked b =>
    obtain ⟨t, again, -, -, -, -, rfl⟩ := h.stacked hf
    rfl
  | inflated id =>
    cases own : (v.monitor id).owner with
    | nobody =>
      obtain ⟨queue, -, rfl⟩ := h.free hf own
      exact queue.symm
    | anonymous => exact absurd own (h.known hf)
    | thread t =>
      obtain ⟨newer, b, -, -, -, rfl⟩ := h.owned hf own
      rfl
  | fast | invalid => simp only [Represents, hf] at h

/-- The lock of an object depends on its header, its monitor and the records of its pending enters
only. -/
lemma Represents.congr (h : Represents v p o x) (form : w.form o = v.form o)
    (monitor : ∀ id, v.form o = .inflated id → w.monitor id = v.monitor id)
    (pending : ∀ u, recordsOf (p' u) o = recordsOf (p u) o)
    (record : ∀ u, ∀ r ∈ recordsOf (p u) o, w.record r = v.record r) :
    Represents w p' o x := by
  -- Whether a record of a pending enter is recursive is told by the record alone.
  have again {u r} (hr : r ∈ recordsOf (p u) o) : Again w r ↔ Again v r := by
    rw [Again, Again, record u r hr]
  cases hf : v.form o with
  | unlocked =>
    rw [h.unlocked hf]
    exact represents_unlocked (form.trans hf)
  | stacked b =>
    obtain ⟨t, l, records, recursive, own, bits, rfl⟩ := h.stacked hf
    have mem : b ∈ recordsOf (p t) o := by simp [records]
    refine represents_stacked (form.trans hf) ((pending t).trans records) (fun r hr => ?_) ?_ ?_ rfl
    · exact (again (u := t) (by simp [records, hr])).2 (recursive r hr)
    · rw [record t b mem, own]
    · rw [record t b mem, bits]
  | inflated id =>
    have form := form.trans hf
    have hm := monitor id hf
    cases own : (v.monitor id).owner with
    | nobody =>
      obtain ⟨queue, idle, rfl⟩ := h.free hf own
      exact represents_free form hm own (by rw [h.queued hf, queue]; rfl) queue idle
    | anonymous => exact absurd own (h.known hf)
    | thread t =>
      obtain ⟨newer, b, records, first, counted, rfl⟩ := h.owned hf own
      have mem : b ∈ recordsOf (p t) o := by simp [records]
      refine represents_owned form hm own (h.queued hf) (fun u hu r hr => ?_)
        ((pending t).trans records) (fun hb => first ((again mem).1 hb)) ?_ (by rw [pending t])
      · rw [pending u] at hr
        rw [record u r hr, h.unused hf hu hr]
      · rw [pending t, ← counted]
        exact firstCount_congr (record t)
  | fast | invalid => simp only [Represents, hf] at h

variable {L : Locks} {op : Operation} {e : Option Event}

/-- A change touches no record of a pending enter but the one that it exits. -/
lemma Change.record_pending (c : Change t op v e w) (new : Unused (fun r => r) p op)
    (hr : r ∈ recordsOf (p u) o) : w.record r = v.record r := by
  refine (c.record r).2 fun q eq => ?_
  subst eq
  exact new u _ (mem_recordsOf.1 hr) rfl

/-- A silent change only changes how the lock is represented. -/
lemma Change.represents (c : Change t op v none w) (h : Refines v L p)
    (new : Unused (fun r => r) p op) : Represents w p op.object (L op.object) := by
  have rep := h.represents op.object
  -- The record of an enter is new, so the records of the pending enters stay as they are.
  have records {u r} (hr : r ∈ recordsOf (p u) op.object) : w.record r = v.record r :=
    c.record_pending new hr
  cases c with
  | unused => exact rep.congr rfl (fun _ _ => rfl) (fun _ => rfl) fun _ _ => records
  | inflateFree ho =>
    rw [rep.unlocked ho]
    exact represents_free (Function.update_self ..) (Function.update_self ..) rfl rfl rfl rfl
  | @inflateStacked _ _ b w ho =>
    -- No enter has gone through the monitor yet, so the first record is the only one counted.
    obtain ⟨u, again, eq, recursive, own, bits, depth⟩ := rep.stacked ho
    rw [depth]
    refine represents_owned (v := v.inflate _ _) (Function.update_self ..)
      (Function.update_self ..) (by rw [own]; rfl) rfl nofun eq (not_again bits) ?_ (by simp [eq])
    rw [eq]
    exact firstCount_again (v := v) recursive (not_again bits)
  | @annotate _ _ id y ho same =>
    have hm : (v.setMonitor id y).monitor id = y := Function.update_self ..
    have queued : y.queued = y.queue.length := by rw [same.queued, same.queue, rep.queued ho]
    cases own : (v.monitor id).owner with
    | nobody =>
      obtain ⟨queue, idle, eq⟩ := rep.free ho own
      rw [eq]
      refine represents_free ho hm (same.owner.trans own) ?_ (same.queue.trans queue)
        (same.recursions.trans idle)
      rw [queued, same.queue, queue]
      rfl
    | anonymous => exact absurd own (rep.known ho)
    | thread u =>
      obtain ⟨newer, b, eq, first, counted, depth⟩ := rep.owned ho own
      rw [depth, ← same.queue]
      refine represents_owned (v := v.setMonitor id y) ho hm (same.owner.trans own) queued
        (fun u hu r hr => ?_) eq first ?_ rfl
      · rw [same.queue] at hu
        exact rep.unused ho hu hr
      · rw [same.recursions]
        exact counted

/-- The thread that makes an event which is no rejection owns the object, or comes to. -/
lemma Refines.owner (h : Refines v L p) (awake : ∀ o, t ∉ (L o).waiting)
    (mem : (o, r) ∈ p t) : ∃ d q, L o = .owned t d q :=
  (h.balanced o).owner (mem_recordsOf.2 mem) (awake o)

/-- An enter is the latest one of its object. -/
lemma recordsOf_entered :
    recordsOf (Event.pend p (.entered t o r) t) o = r :: recordsOf (p t) o := by
  rw [Event.pend, Function.update_self, recordsOf_cons_self]

/-- An exit of the latest enter of an object leaves the earlier ones. -/
lemma recordsOf_exited {rest : List RecordId} (newest : recordsOf (p t) o = r :: rest) :
    recordsOf (Event.pend p (.exited t o r) t) o = rest := by
  rw [Event.pend, Function.update_self, recordsOf_erase newest]

section

variable {w : LockWord} (h : Refines v L p) (awake : ∀ o, t ∉ (L o).waiting)

include h in
/-- Stack-locking is the first enter of an unlocked object. -/
lemma Refines.lock (ho : v.form o = .unlocked) (bits : w.bits = .unlocked) (l : List RecordId) :
    (L o).enter t = some (.owned t 1 []) ∧
      Represents (((v.setRecord r ((v.record r).lockedOver w t)).setForm o
        (.stacked r)).setLockRecords t l) (Event.pend p (.entered t o r)) o (.owned t 1 []) := by
  have eq := (h.represents o).unlocked ho
  have none := h.balanced o
  rw [eq] at none
  refine ⟨by rw [eq]; rfl, represents_stacked (Function.update_self ..) (l := []) ?_ nofun
    ?_ ?_ rfl⟩
  · rw [recordsOf_entered, none t]
    rfl
  · simp [LockRecord.lockedOver]
  · simpa [LockRecord.lockedOver] using bits

include h in
/-- A recursive enter of a stack-locked object. -/
lemma Refines.again (new : Unused (fun r => r) p (.enter o r)) (ho : v.form o = .stacked b)
    (mem : b ∈ v.lockRecords t) (l : List RecordId) :
    ∃ y, (L o).enter t = some y ∧
      Represents ((v.setRecord r ((v.record r).lockedAgain t)).setLockRecords t l)
        (Event.pend p (.entered t o r)) o y := by
  obtain ⟨u, again, records, recursive, own, bits, eq⟩ := (h.represents o).stacked ho
  -- Only the thread of the first enter has its record.
  obtain ⟨q, pend⟩ := ((h.registered t b).1 mem).1
  have mem' : (o, b) ∈ p u := mem_recordsOf.1 (by simp [records])
  obtain rfl := (h.distinct.inj t u _ _ pend mem' rfl).1
  have same {r'} (hr : r' ∈ recordsOf (p t) o) :
      (v.setRecord r ((v.record r).lockedAgain t)).record r' = v.record r' :=
    Function.update_of_ne (new t _ (mem_recordsOf.1 hr)) _ _
  have mem_b := mem_recordsOf.2 mem'
  refine ⟨.owned t (again.length + 2) [], by rw [eq, RecursiveLock.enter_owned],
    represents_stacked (v := LockView.setLockRecords _ t l) (l := r :: again) ho ?_
      (fun r' hr => ?_) ?_ ?_ rfl⟩
  · rw [recordsOf_entered, records]
    rfl
  · rcases List.mem_cons.1 hr with rfl | hr
    · simp [Again, LockRecord.lockedAgain, LockRecord.lockedOver]
    · show ((v.setRecord r _).record r').displaced = _
      rw [same (by simp [records, hr])]
      exact recursive r' hr
  · show ((v.setRecord r _).record b).owner = _
    rw [same mem_b, own]
  · show ((v.setRecord r _).record b).displaced.bits = _
    rw [same mem_b, bits]

include h in
/-- An enter of the monitor is one of the lock. -/
lemma Refines.enterMonitor {y : Monitor} (room : (p t).length + 1 ≤ 2 ^ 64)
    (ho : v.form o = .inflated id) (unused : (v.record r).displaced = .unused)
    (enter : (v.monitor id).tryEnter t = some y) :
    ∃ z, (L o).enter t = some z ∧
      Represents (v.setMonitor id y) (Event.pend p (.entered t o r)) o z := by
  have rep := h.represents o
  have hm : (v.setMonitor id y).monitor id = y := Function.update_self ..
  -- The monitor counts the enter, since its record is not recursive.
  have first : ¬Again v r := by
    rw [Again, unused]
    exact unused_ne
  obtain ⟨own, rfl⟩ | ⟨own, none, rfl⟩ := Monitor.tryEnter_eq_some enter
  · obtain ⟨newer, b, records, first', counted, eq⟩ := rep.owned ho own
    have bal := h.balanced o
    rw [eq] at bal
    obtain ⟨-, -, out, -⟩ := bal
    refine ⟨.owned t ((recordsOf (p t) o).length + 1) _, by rw [eq, RecursiveLock.enter_owned],
      represents_owned (v := v.setMonitor id _) (l := r :: newer) ho hm own (rep.queued ho)
        (fun u hu r' hr => ?_) ?_ first' ?_ ?_⟩
    · rw [Event.pend, Function.update_of_ne (ne_of_mem_of_not_mem hu out)] at hr
      exact rep.unused ho hu hr
    · rw [recordsOf_entered, records]
      rfl
    · have le := Nat.le_trans (firstCount_le (v := v)) (length_recordsOf_le (l := p t) (o := o))
      rw [recordsOf_entered, Monitor.toNat_recursions_add_one (by omega), ← counted]
      exact firstCount_cons (v := v) first
    · rw [recordsOf_entered]
      rfl
  · obtain ⟨queue, idle, eq⟩ := rep.free ho own
    have free := h.balanced o
    rw [eq] at free
    refine ⟨.owned t 1 [], by rw [eq]; rfl, ?_⟩
    rw [← queue]
    refine represents_owned (v := v.setMonitor id _) (l := []) ho hm rfl (rep.queued ho)
      (fun u hu => ?_) ?_ first ?_ ?_
    · simp [queue] at hu
    · rw [recordsOf_entered, free t]
      rfl
    · rw [recordsOf_entered, free t, idle]
      exact firstCount_again (v := v) (l := []) (by simp) first
    · rw [recordsOf_entered, free t]
      rfl

include h awake in
/-- A wait for the monitor is one for the lock. -/
lemma Refines.wait (ho : v.form o = .inflated id) (unused : (v.record r).displaced = .unused)
    (enter : (v.monitor id).tryEnter t = none) :
    ∃ z, (L o).wait t = some z ∧
      Represents (v.setMonitor id ((v.monitor id).contend.enqueue t))
        (Event.pend p (.waits t o r)) o z := by
  have rep := h.represents o
  obtain ⟨other, free⟩ := Monitor.tryEnter_eq_none enter
  have out := awake o
  rw [rep.waiting, ho] at out
  cases own : (v.monitor id).owner with
  | nobody =>
    have none : (v.monitor id).queued = 0 := by rw [rep.queued ho, (rep.free ho own).1]; rfl
    exact absurd none (free own)
  | anonymous => exact absurd own (rep.known ho)
  | thread u =>
    obtain ⟨newer, b, records, first, counted, eq⟩ := rep.owned ho own
    have ne : u ≠ t := fun eq => other (eq ▸ own)
    have bal := h.balanced o
    rw [eq] at bal
    obtain ⟨-, -, -, -, -, none⟩ := bal
    have pend {u'} (ne : u' ≠ t) :
        recordsOf (Event.pend p (.waits t o r) u') o = recordsOf (p u') o := by
      rw [Event.pend, Function.update_of_ne ne]
    refine ⟨.owned u (recordsOf (p u) o).length _,
      (congrArg (RecursiveLock.wait t) eq).trans (RecursiveLock.wait_owned ne out),
      represents_owned (v := v.setMonitor id _) ho (Function.update_self ..) own ?_
        (fun u' hu r' hr => ?_) ((pend ne).trans records) first ?_ (by rw [pend ne])⟩
    · simp [Monitor.enqueue, Monitor.contend, rep.queued ho]
    · -- The thread has no other enter of the object, so it waits with an unused record.
      by_cases eq' : u' = t
      · subst eq'
        rw [Event.pend, Function.update_self, recordsOf_cons_self, none u' ne.symm out,
          List.mem_singleton] at hr
        rw [hr]
        exact unused
      · rw [pend eq'] at hr
        exact rep.unused ho (by simpa [Monitor.enqueue, Monitor.contend, eq'] using hu) hr
    · rw [pend ne]
      exact counted

variable {rest : List RecordId} (newest : recordsOf (p t) o = r :: rest)

include h awake newest in
/-- An exit with a recursive record takes back one enter. -/
lemma Refines.exitAgain (mark : Again v r) :
    ∃ y, (L o).exit t = some y ∧
      Represents (v.dropRecord t r) (Event.pend p (.exited t o r)) o y := by
  obtain ⟨d, q, own⟩ := h.owner awake (mem_recordsOf.1 (newest ▸ List.mem_cons_self))
  have rep := h.represents o
  rw [own] at rep
  have pend {u} (ne : u ≠ t) :
      recordsOf (Event.pend p (.exited t o r) u) o = recordsOf (p u) o := by
    rw [Event.pend, Function.update_of_ne ne]
  cases ho : v.form o with
  | unlocked => cases rep.unlocked ho
  | stacked b =>
    obtain ⟨u, again, records, recursive, owner, bits, eq⟩ := rep.stacked ho
    obtain ⟨rfl, rfl, rfl⟩ := RecursiveLock.owned.inj eq
    -- The first record is not recursive, so the latest one is a further enter.
    obtain ⟨again', rfl, rfl⟩ :=
      first_of_again (not_again bits) mark (records.symm.trans newest)
    exact ⟨.owned t (again'.length + 1) [], by rw [own]; exact RecursiveLock.exit_again,
      represents_stacked ho (recordsOf_exited newest)
        (fun r' hr => recursive r' (List.mem_cons_of_mem _ hr)) owner bits rfl⟩
  | inflated id =>
    cases owner : (v.monitor id).owner with
    | nobody => cases (rep.free ho owner).2.2
    | anonymous => exact absurd owner (rep.known ho)
    | thread u =>
      obtain ⟨newer, b, records, first, counted, eq⟩ := rep.owned ho owner
      obtain ⟨rfl, rfl, rfl⟩ := RecursiveLock.owned.inj eq
      obtain ⟨newer', rfl, rfl⟩ := first_of_again first mark (records.symm.trans newest)
      have out := (h.balanced o)
      rw [own] at out
      refine ⟨.owned t (newer'.length + 1) _, ?_,
        represents_owned (v := v.dropRecord t r) ho rfl owner (rep.queued ho)
          (fun u hu r' hr => ?_) (recordsOf_exited newest) first ?_ ?_⟩
      · rw [own, newest, List.length_cons, List.length_append]
        exact RecursiveLock.exit_again
      · rw [pend (ne_of_mem_of_not_mem hu out.2.2.1)] at hr
        exact rep.unused ho hu hr
      · rw [recordsOf_exited newest]
        refine Eq.trans ?_ counted
        rw [newest]
        exact (firstCount_cons_again mark).symm
      · rw [recordsOf_exited newest, List.length_append]
        rfl
  | fast | invalid => simp only [Represents, ho] at rep

include h newest in
/-- An exit with the record that the header names. -/
lemma Refines.restore (ho : v.form o = .stacked r) :
    (L o).exit t = some .unlocked ∧
      Represents ((v.setForm o .unlocked).dropRecord t r) (Event.pend p (.exited t o r)) o
        .unlocked := by
  obtain ⟨u, again, records, recursive, owner, bits, eq⟩ := (h.represents o).stacked ho
  have mem : (o, r) ∈ p t := mem_recordsOf.1 (newest ▸ List.mem_cons_self)
  have mem' : (o, r) ∈ p u := mem_recordsOf.1 (by simp [records])
  obtain rfl := (h.distinct.inj t u _ _ mem mem' rfl).1
  -- Recursive records would be newer than the one in the header.
  have only : again = [] := by
    cases again with
    | nil => rfl
    | cons a again =>
      obtain ⟨rfl, -⟩ := List.cons.inj (records.symm.trans newest)
      exact absurd (recursive a List.mem_cons_self) (not_again bits)
  subst only
  exact ⟨by rw [eq]; exact RecursiveLock.exit_unlocks,
    represents_unlocked (Function.update_self ..)⟩

include h newest in
/-- An exit of the monitor is one of the lock. -/
lemma Refines.exitMonitor {y : Monitor} (ho : v.form o = .inflated id) (first : ¬Again v r)
    (exit : (v.monitor id).exit? t = some y) :
    ∃ z, (L o).exit t = some z ∧
      Represents ((v.dropRecord t r).setMonitor id y) (Event.pend p (.exited t o r)) o z := by
  have rep := h.represents o
  have own := (Monitor.exit?_eq_some exit).1
  obtain ⟨newer, b, records, first', counted, eq⟩ := rep.owned ho own
  have bal := h.balanced o
  rw [eq] at bal
  obtain ⟨-, -, out, nodup, single, -⟩ := bal
  have hm : ((v.dropRecord t r).setMonitor id y).monitor id = y := Function.update_self ..
  have pend {u} (ne : u ≠ t) :
      recordsOf (Event.pend p (.exited t o r) u) o = recordsOf (p u) o := by
    rw [Event.pend, Function.update_of_ne ne]
  have unused {u r'} (hu : u ∈ (v.monitor id).queue)
      (hr : r' ∈ recordsOf (Event.pend p (.exited t o r) u) o) :
      (v.record r').displaced = .unused := by
    rw [pend (ne_of_mem_of_not_mem hu out)] at hr
    exact rep.unused ho hu hr
  rw [newest, firstCount_cons first] at counted
  have counted := Nat.succ.inj counted
  -- Without further enters the record is the first one.
  have only (last : (v.monitor id).recursions = 0) : rest = [] := by
    cases newer with
    | nil => exact (List.cons.inj (records.symm.trans newest)).2.symm
    | cons a newer' =>
      obtain ⟨rfl, rfl⟩ := List.cons.inj (records.symm.trans newest)
      rw [last] at counted
      have pos := firstCount_pos (l := newer' ++ [b]) first' (by simp)
      exact absurd counted (Nat.ne_of_gt pos)
  cases Monitor.exit?_exits exit (rep.queued ho) with
  | @again n more own' depth queued' queue' =>
    -- The first record is below the one that goes.
    obtain ⟨newer', rfl, rfl⟩ : ∃ newer', newer = r :: newer' ∧ rest = newer' ++ [b] := by
      cases newer with
      | nil =>
        obtain ⟨-, rfl⟩ := List.cons.inj (records.symm.trans newest)
        cases counted.trans more
      | cons a newer' =>
        obtain ⟨rfl, rfl⟩ := List.cons.inj (records.symm.trans newest)
        exact ⟨newer', rfl, rfl⟩
    refine ⟨.owned t (newer'.length + 1) _, ?_,
      represents_owned (v := (v.dropRecord t r).setMonitor id y) ho hm own' ?_ ?_
        (recordsOf_exited newest) first' ?_ ?_⟩
    · rw [eq, newest, ← queue', List.length_cons, List.length_append]
      exact RecursiveLock.exit_again
    · rw [queued', queue', rep.queued ho]
    · exact fun u hu r' hr => unused (queue' ▸ hu) hr
    · rw [recordsOf_exited newest, depth]
      exact counted.trans more
    · rw [recordsOf_exited newest, List.length_append]
      rfl
  | @handsOff u q last queue own' zero queued' queue' =>
    have waits : u ∈ (v.monitor id).queue := queue ▸ List.mem_cons_self
    have ne := ne_of_mem_of_not_mem waits out
    obtain ⟨b', alone⟩ := List.length_eq_one_iff.1 (single u waits)
    have first'' : ¬Again v b' := by
      rw [Again, rep.unused ho waits (by simp [alone])]
      exact unused_ne
    rw [newest, only last, queue] at eq
    subst queue'
    refine ⟨.owned u 1 _, by rw [eq]; exact RecursiveLock.exit_hands_off,
      represents_owned (v := (v.dropRecord t r).setMonitor id y) (l := []) ho hm own' queued'
        (fun u' hu r' hr => unused (queue ▸ List.mem_cons_of_mem u hu) hr) ?_ first'' ?_ ?_⟩
    · rw [pend ne, alone]
      rfl
    · rw [pend ne, alone, zero]
      exact firstCount_again (v := v) (l := []) (by simp) first''
    · rw [pend ne, alone]
      rfl
  | frees last queue own' idle queued' queue' =>
    rw [newest, only last, queue] at eq
    exact ⟨.unlocked, by rw [eq]; exact RecursiveLock.exit_unlocks,
      represents_free ho hm own' queued' queue' idle⟩

include h awake newest in
/-- An exit of the latest enter is never rejected. -/
lemma Refines.not_rejected :
    (Again v r → r ∈ v.lockRecords t) ∧
      (¬Again v r → ((v.record r).displaced ≠ .unused → v.form o ≠ .stacked r) →
        ∃ id, v.form o = .inflated id ∧ (v.monitor id).owner = .thread t) := by
  have mem : (o, r) ∈ p t := mem_recordsOf.1 (newest ▸ List.mem_cons_self)
  refine ⟨fun mark => (h.registered t r).2 ⟨⟨o, mem⟩, ?_⟩, fun first other => ?_⟩
  · rw [mark]
    exact unused_ne.symm
  · obtain ⟨d, q, own⟩ := h.owner awake mem
    have rep := h.represents o
    rw [own] at rep
    cases ho : v.form o with
    | unlocked => cases rep.unlocked ho
    | stacked b =>
      obtain ⟨u, again, records, recursive, owner, bits, eq⟩ := rep.stacked ho
      obtain ⟨rfl, rfl, rfl⟩ := RecursiveLock.owned.inj eq
      cases again with
      | nil =>
        obtain ⟨rfl, -⟩ := List.cons.inj (records.symm.trans newest)
        refine absurd ho (other fun unused => ?_)
        rw [unused, unused_bits] at bits
        cases bits
      | cons a again =>
        obtain ⟨rfl, -⟩ := List.cons.inj (records.symm.trans newest)
        exact absurd (recursive a List.mem_cons_self) first
    | inflated id =>
      refine ⟨id, rfl, ?_⟩
      cases owner : (v.monitor id).owner with
      | nobody => cases (rep.free ho owner).2.2
      | anonymous => exact absurd owner (rep.known ho)
      | thread u =>
        obtain ⟨_, _, -, -, -, eq⟩ := rep.owned ho owner
        rw [(RecursiveLock.owned.inj eq).1]
    | fast | invalid => simp only [Represents, ho] at rep

end

/-- What an event does to the lock of its object. -/
lemma Change.apply {e : Event} (c : Change t op v (some e) w) (h : Refines v L p)
    (awake : ∀ o, t ∉ (L o).waiting) (room : (e.pend p t).length ≤ 2 ^ 64)
    (new : Unused (fun r => r) p op) (reverse : InReverse (p t) op) :
    ∃ y, e.apply L = some (Function.update L op.object y) ∧
      Represents w (e.pend p) op.object y := by
  cases c with
  | lock _ ho bits =>
    obtain ⟨enters, rep⟩ := h.lock ho bits _
    exact ⟨_, by simp [Event.apply, enters, Operation.object], rep⟩
  | again _ ho mem =>
    obtain ⟨y, enters, rep⟩ := h.again new ho mem _
    exact ⟨y, by simp [Event.apply, enters, Operation.object], rep⟩
  | enterMonitor ho unused enter =>
    simp only [Event.pend, Function.update_self, List.length_cons] at room
    obtain ⟨y, enters, rep⟩ := h.enterMonitor room ho unused enter
    exact ⟨y, by simp [Event.apply, enters, Operation.object], rep⟩
  | wait ho unused enter =>
    obtain ⟨y, waits, rep⟩ := h.wait awake ho unused enter
    exact ⟨y, by simp [Event.apply, waits, Operation.object], rep⟩
  | exitAgain mark _ =>
    obtain ⟨rest, newest⟩ := reverse
    obtain ⟨y, exits, rep⟩ := h.exitAgain awake newest mark
    exact ⟨y, by simp [Event.apply, exits, Operation.object], rep⟩
  | restore ho _ =>
    obtain ⟨rest, newest⟩ := reverse
    obtain ⟨exits, rep⟩ := h.restore newest ho
    exact ⟨_, by simp [Event.apply, exits, Operation.object], rep⟩
  | exitMonitor ho first exit =>
    obtain ⟨rest, newest⟩ := reverse
    obtain ⟨y, exits, rep⟩ := h.exitMonitor newest ho first exit
    exact ⟨y, by simp [Event.apply, exits, Operation.object], rep⟩
  | rejectAgain mark out =>
    obtain ⟨rest, newest⟩ := reverse
    exact absurd ((h.not_rejected awake newest).1 mark) out
  | reject first other none =>
    obtain ⟨rest, newest⟩ := reverse
    obtain ⟨id, ho, own⟩ := (h.not_rejected awake newest).2 first other
    exact absurd own (none id ho)

section

variable {e : Event}

/-- A record that stack-locks is added with its enter. -/
lemma Refines.registered_push (h : Refines v L p) (new : Unused (fun r => r) p (.enter o r))
    {x : LockRecord} (used : x.displaced ≠ .unused) (u : ThreadId) (s : RecordId) :
    s ∈ Function.update v.lockRecords t (v.lockRecords t ++ [r]) u ↔
      (∃ o', (o', s) ∈ Event.pend p (.entered t o r) u) ∧
        (Function.update v.record r x s).displaced ≠ .unused := by
  rw [Event.pend, Function.update_apply, Function.update_apply, Function.update_apply]
  by_cases eq : s = r
  · subst eq
    rw [if_pos rfl]
    by_cases same : u = t
    · simp [same, used]
    · have out (q : ObjectId) : (q, s) ∉ p u := fun mem => new u _ mem rfl
      simp [same, h.registered, out]
  · rw [if_neg eq]
    by_cases same : u = t <;> simp [same, h.registered, eq]

/-- The record of an enter through a monitor is not. -/
lemma Refines.registered_unused (h : Refines v L p) (new : Unused (fun r => r) p (.enter o r))
    (unused : (v.record r).displaced = .unused) (u : ThreadId) (s : RecordId) :
    s ∈ v.lockRecords u ↔
      (∃ o', (o', s) ∈ Event.pend p (.entered t o r) u) ∧ (v.record s).displaced ≠ .unused := by
  rw [Event.pend, Function.update_apply, h.registered]
  by_cases eq : s = r
  · subst eq
    simp [unused]
  · by_cases same : u = t <;> simp [same, eq]

/-- A record goes with its exit. -/
lemma Refines.registered_drop (h : Refines v L p) (mem : (o, r) ∈ p t) (u : ThreadId)
    (s : RecordId) :
    s ∈ (v.dropRecord t r).lockRecords u ↔
      (∃ o', (o', s) ∈ Event.pend p (.exited t o r) u) ∧ (v.record s).displaced ≠ .unused := by
  simp only [Event.pend, LockView.dropRecord, LockView.setLockRecords_lockRecords,
    Function.update_apply]
  by_cases same : u = t
  · subst same
    simp only [if_true, List.mem_filter, (h.distinct.nodup u).mem_erase_iff, decide_eq_true_iff,
      h.registered]
    constructor
    · rintro ⟨⟨⟨o', pend⟩, used⟩, ne⟩
      exact ⟨⟨o', fun eq => ne (congrArg Prod.snd eq), pend⟩, used⟩
    · rintro ⟨⟨o', other, pend⟩, used⟩
      refine ⟨⟨⟨o', pend⟩, used⟩, fun eq => other ?_⟩
      exact (h.distinct.inj u u _ _ pend mem eq).2
  · simp only [if_neg same, h.registered]

/-- The records of every thread after an event that the locks allow. -/
lemma Change.registered {e : Event} (c : Change t op v (some e) w) (h : Refines v L p)
    (allowed : e.apply L ≠ none) (new : Unused (fun r => r) p op) (reverse : InReverse (p t) op)
    (u : ThreadId) (s : RecordId) :
    s ∈ w.lockRecords u ↔ (∃ o', (o', s) ∈ e.pend p u) ∧ (w.record s).displaced ≠ .unused := by
  cases c with
  | lock _ _ bits =>
    refine h.registered_push new (fun unused => ?_) u s
    obtain rfl : _ = LockWord.unused := unused
    cases unused_bits.symm.trans bits
  | again _ _ _ => exact h.registered_push new unused_ne.symm u s
  | enterMonitor _ unused _ | wait _ unused _ => exact h.registered_unused new unused u s
  | exitAgain _ _ | restore _ _ | exitMonitor _ _ _ =>
    obtain ⟨rest, newest⟩ := reverse
    exact h.registered_drop (mem_recordsOf.1 (newest ▸ List.mem_cons_self)) u s
  | rejectAgain _ _ | reject _ _ _ => exact absurd rfl allowed

/-- No thread has a record twice among its lock records. -/
lemma Change.nodup {e : Option Event} (c : Change t op v e w) (h : Refines v L p)
    (new : Unused (fun r => r) p op) (u : ThreadId) : (w.lockRecords u).Nodup := by
  have update {l : List RecordId} (nodup : l.Nodup) :
      (Function.update v.lockRecords t l u).Nodup := by
    rw [Function.update_apply]
    split
    · exact nodup
    · exact h.nodup u
  cases c with
  | @lock _ o r _ _ _ _ | @again _ o r _ _ _ _ =>
    refine update (List.nodup_append.2 ⟨h.nodup t, List.nodup_singleton r, fun s hs s' hs' eq => ?_⟩)
    obtain rfl := List.mem_singleton.1 hs'
    obtain ⟨⟨q, pend⟩, -⟩ := (h.registered t s).1 hs
    exact new t _ pend eq
  | exitAgain _ _ | restore _ _ | exitMonitor _ _ _ | reject _ _ _ =>
    exact update ((h.nodup t).filter _)
  | _ => exact h.nodup u

/-- A silent change is not seen by the callers of the locks. -/
lemma Refines.silent (h : Refines v L p) (c : Change t op v none w) (attached : t < v.nextThread)
    (new : Unused (fun r => r) p op) : Refines w L p := by
  refine ⟨c.coherent h.coherent attached, fun o => ?_, h.balanced, h.distinct, fun u s => ?_,
    c.nodup h new⟩
  · by_cases eq : o = op.object
    · exact eq ▸ c.represents h new
    · exact (h.represents o).congr ((c.elsewhere h.coherent).form o eq)
        ((c.elsewhere h.coherent).monitor o eq) (fun _ => rfl) fun _ _ => c.record_pending new
  · have same : w.lockRecords = v.lockRecords := by cases c <;> rfl
    rw [same, h.registered]
    refine and_congr_right fun ⟨q, pend⟩ => ?_
    rw [c.record_pending new (mem_recordsOf.2 pend)]

/-- Every event is what the locks allow next. -/
lemma Refines.event {e : Event} (h : Refines v L p) (c : Change t op v (some e) w)
    (attached : t < v.nextThread) (awake : ∀ o, t ∉ (L o).waiting)
    (room : (e.pend p t).length ≤ 2 ^ 64) (new : Unused (fun r => r) p op)
    (reverse : InReverse (p t) op) : ∃ L', e.apply L = some L' ∧ Refines w L' (e.pend p) := by
  obtain ⟨y, applies, rep⟩ := c.apply h awake room new reverse
  refine ⟨_, applies, c.coherent h.coherent attached, fun o => ?_, ?_, ?_, ?_, c.nodup h new⟩
  · by_cases eq : o = op.object
    · subst eq
      rwa [Function.update_self]
    · rw [Function.update_of_ne eq]
      refine (h.represents o).congr ((c.elsewhere h.coherent).form o eq)
        ((c.elsewhere h.coherent).monitor o eq) (fun u => e.recordsOf_pend ?_)
        fun _ _ => c.record_pending new
      rw [c.of.object?]
      exact fun eq' => eq (Option.some.inj eq').symm
  · refine Balanced.apply h.balanced applies fun u o r eq => ?_
    subst eq
    cases c with
    | exitAgain _ _ | restore _ _ | exitMonitor _ _ _ => exact reverse
  · exact h.distinct.pend c.of new
  · exact c.registered h (by rw [applies]; exact nofun) new reverse

/-- The thread of a registered record owns the object, it does not wait for it. -/
lemma Refines.registered_owner (h : Refines v L p) (mem : r ∈ v.lockRecords t)
    (pend : (o, r) ∈ p t) : t ∉ (L o).waiting ∧ ∃ d q, L o = .owned t d q := by
  have awake : t ∉ (L o).waiting := by
    intro waits
    rw [(h.represents o).waiting] at waits
    split at waits
    next id ho =>
      have unused := (h.represents o).unused ho waits (mem_recordsOf.2 pend)
      exact ((h.registered t r).1 mem).2 unused
    next => cases waits
  exact ⟨awake, (h.balanced o).owner (mem_recordsOf.2 pend) awake⟩

/-- The locks that a view stands for depend on its headers, its monitors, the lock records of
threads and the records of pending enters only. -/
lemma Refines.congr (h : Refines v L p) (coherent : Coherent w) (form : w.form = v.form)
    (monitor : w.monitor = v.monitor) (records : w.lockRecords = v.lockRecords)
    (record : ∀ t x, x ∈ p t → w.record x.2 = v.record x.2) : Refines w L p := by
  refine ⟨coherent, fun o => ?_, h.balanced, h.distinct, fun t r => ?_, records ▸ h.nodup⟩
  · exact (h.represents o).congr (congrFun form o) (fun id _ => congrFun monitor id) (fun _ => rfl)
      fun u r hr => record u _ (mem_recordsOf.1 hr)
  · rw [records, h.registered]
    exact and_congr_right fun ⟨o, pend⟩ => by rw [record t _ pend]

end

end

end ObjectLocks.StackLocking
