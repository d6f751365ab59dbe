import ObjectLocks.Proofs.Effects
import ObjectLocks.Proofs.HashSequence

/-!
# Headers and hashes

The header of an object moves: from the object into a lock record, from there or from the object into
a monitor, and back from a record. Its identity hash moves with it. The header of an object is looked
up here wherever it is, and every change of a machine that a lock operation makes carries all hashes
along.
-/

namespace ObjectLocks

namespace Machine

/-- The header that a mark leads to. -/
def headerOf (m : Machine) : Mark → LockWord
  | .word w => w
  | .record r => (m.record r).displaced
  | .monitor id => (m.monitor id).header

/-- The identity hash of an object, zero if there is none yet. -/
def hashOf (m : Machine) (o : ObjectId) : UInt32 := (m.headerOf (m.mark o)).hash

/-- The invariant of headers: a displaced header is where the mark leads, and of one object only. -/
structure WellHeaded (m : Machine) : Prop where
  plain : m.options.mode ≠ .lightweight → ∀ o w, m.mark o = .word w → w.bits = .unlocked
  stacked : ∀ o r, m.mark o = .record r → m.options.mode = .legacy ∧ r < m.records.size ∧
    (m.record r).displaced.bits = .unlocked
  linked : ∀ o id, m.mark o = .monitor id → id < m.monitors.size ∧ (m.monitor id).object = o

/-- Headers are found where they were if the marks and what they lead to stay the same. -/
lemma WellHeaded.of_marks {m n : Machine} (h : m.WellHeaded) (options : n.options = m.options)
    (mark : n.mark = m.mark) (records : m.records.size ≤ n.records.size)
    (monitors : m.monitors.size ≤ n.monitors.size)
    (displaced : ∀ o r, m.mark o = .record r → r < m.records.size →
      (n.record r).displaced = (m.record r).displaced)
    (object : ∀ o id, m.mark o = .monitor id → id < m.monitors.size →
      (n.monitor id).object = (m.monitor id).object) : n.WellHeaded := by
  refine ⟨fun mode => ?_, fun o r hk => ?_, fun o id hk => ?_⟩
  · rw [mark]
    exact h.plain (options ▸ mode)
  · rw [mark] at hk
    obtain ⟨mode, lt, bits⟩ := h.stacked o r hk
    exact ⟨options ▸ mode, Nat.lt_of_lt_of_le lt records, by rw [displaced o r hk lt, bits]⟩
  · rw [mark] at hk
    obtain ⟨lt, own⟩ := h.linked o id hk
    exact ⟨Nat.lt_of_lt_of_le lt monitors, (object o id hk lt).trans own⟩

/-- What an operation does to headers that neither hashes an object nor forgets a hash. At most one
mark becomes the address of a record. -/
structure Carries (locked : Option (ObjectId × RecordId)) (m n : Machine) : Prop where
  options : n.options = m.options
  headed : m.WellHeaded → n.WellHeaded
  hash : m.WellHeaded → ∀ o, n.hashOf o = m.hashOf o
  stacked : ∀ o r, n.mark o = .record r → m.mark o = .record r ∨ locked = some (o, r)
  hashes : ∀ u, (n.thread u).hashes = (m.thread u).hashes

namespace Carries

variable {l : Option (ObjectId × RecordId)} {m n k : Machine}

/-- A machine that does not change carries all hashes along. -/
lemma refl (m : Machine) : Carries none m m :=
  ⟨rfl, id, fun _ _ => rfl, fun _ _ => .inl, fun _ => rfl⟩

/-- A change that puts no record into a header puts at most one there. -/
lemma weaken (h : Carries none m n) : Carries l m n :=
  ⟨h.options, h.headed, h.hash, fun o r hk => (h.stacked o r hk).imp_right nofun, h.hashes⟩

/-- A change that puts no record into a header may come first. -/
lemma trans (h : Carries none m n) (h' : Carries l n k) : Carries l m k where
  options := h'.options.trans h.options
  headed headed := h'.headed (h.headed headed)
  hash headed o := (h'.hash (h.headed headed) o).trans (h.hash headed o)
  stacked o r hk := (h'.stacked o r hk).imp_left fun hk => (h.stacked o r hk).resolve_right nofun
  hashes u := (h'.hashes u).trans (h.hashes u)

/-- A change that puts no record into a header may come last. -/
lemma andThen (h : Carries l m n) (h' : Carries none n k) : Carries l m k where
  options := h'.options.trans h.options
  headed headed := h'.headed (h.headed headed)
  hash headed o := (h'.hash (h.headed headed) o).trans (h.hash headed o)
  stacked o r hk := h.stacked o r ((h'.stacked o r hk).resolve_right nofun)
  hashes u := (h'.hashes u).trans (h.hashes u)

/-- What leaves all marks alone, and whatever they lead to. -/
lemma of_marks (options : n.options = m.options) (mark : n.mark = m.mark)
    (hashes : ∀ u, (n.thread u).hashes = (m.thread u).hashes)
    (records : m.records.size ≤ n.records.size) (monitors : m.monitors.size ≤ n.monitors.size)
    (displaced : ∀ o r, m.mark o = .record r → r < m.records.size →
      (n.record r).displaced = (m.record r).displaced)
    (monitor : ∀ o id, m.mark o = .monitor id → id < m.monitors.size →
      (n.monitor id).object = (m.monitor id).object ∧
        (n.monitor id).header = (m.monitor id).header) : Carries none m n := by
  refine ⟨options, fun headed => headed.of_marks options mark records monitors displaced
    fun o id hk lt => (monitor o id hk lt).1, fun headed o => ?_, fun o r hk => .inl (mark ▸ hk),
    hashes⟩
  unfold hashOf
  rw [mark]
  cases hk : m.mark o with
  | word w => rfl
  | record r => exact congrArg LockWord.hash (displaced o r hk (headed.stacked o r hk).2.1)
  | monitor id => exact congrArg LockWord.hash (monitor o id hk (headed.linked o id hk).1).2

/-- What touches neither objects nor lock records nor monitors. -/
lemma of_locks (options : n.options = m.options) (heap : n.mark = m.mark)
    (records : n.records = m.records) (monitors : n.monitors = m.monitors)
    (hashes : ∀ u, (n.thread u).hashes = (m.thread u).hashes) : Carries none m n :=
  of_marks options heap hashes (Nat.le_of_eq (congrArg Store.size records.symm))
    (Nat.le_of_eq (congrArg Store.size monitors.symm))
    (fun _ _ _ _ => by unfold record; rw [records])
    fun _ _ _ _ => by unfold monitor; rw [monitors]; exact ⟨rfl, rfl⟩

end Carries

variable (m : Machine) (t : ThreadId) (o : ObjectId) (r : RecordId) (id : MonitorId)

/-- A log line carries all hashes along. -/
lemma carries_note (n : Notice) : Carries none m (m.note n) :=
  .of_locks rfl rfl rfl rfl fun _ => rfl

/-- Listing the inline monitors carries all hashes along. -/
lemma carries_inlineMonitors (l : List MonitorId) :
    Carries none m { m with inlineMonitors := l } := .of_locks rfl rfl rfl rfl fun _ => rfl

/-- A change of a thread that leaves its sequence alone carries all hashes along. -/
lemma carries_modifyThread {f : Thread → Thread} (same : ∀ x, (f x).hashes = x.hashes) :
    Carries none m (m.modifyThread t f) := by
  refine .of_locks rfl rfl rfl rfl fun u => ?_
  rw [thread_modifyThread]
  split
  · exact same _
  · rfl

/-- A new lock stack carries all hashes along. -/
lemma carries_setLockStack (s : LockStack ObjectId) : Carries none m (m.setLockStack t s) :=
  carries_modifyThread m t fun _ => rfl

/-- New lock records carry all hashes along. -/
lemma carries_setLockRecords (s : LockStack RecordId) : Carries none m (m.setLockRecords t s) :=
  carries_modifyThread m t fun _ => rfl

/-- A new state of a thread carries all hashes along. -/
lemma carries_setState (x : ThreadState) : Carries none m (m.setState t x) :=
  carries_modifyThread m t fun _ => rfl

/-- A change of an object that leaves its mark alone carries all hashes along. -/
lemma carries_modifyObject {f : Object → Object} (same : ∀ x, (f x).mark = x.mark) :
    Carries none m (m.modifyObject o f) := by
  refine .of_locks rfl (funext fun p => ?_) rfl rfl fun _ => rfl
  show ((m.heap.modify o f).get p).mark = _
  rw [Store.modify, Store.get_set, Function.update_apply]
  split
  next eq => rw [same, eq]; rfl
  next => rfl

/-- A new object has the header that its number had before. -/
lemma carries_allocate (label : String) (c : Class) : Carries none m (m.allocate label c) := by
  refine .of_locks rfl (funext fun p => ?_) rfl rfl fun _ => rfl
  show ((m.heap.push (.new label c)).get p).mark = _
  rw [Store.get_push, Function.update_apply]
  split
  next eq =>
    subst eq
    exact (congrArg Object.mark (Store.get_size m.heap)).symm
  next => rfl

/-- A change of a record leaves all other records alone. -/
lemma record_modifyRecord (f : LockRecord → LockRecord) :
    (m.modifyRecord r f).record = Function.update m.record r (f (m.record r)) :=
  Store.get_set _ _ _

/-- A record may change as long as no mark leads to it. -/
lemma carries_modifyRecord {f : LockRecord → LockRecord}
    (may : (∀ o, m.mark o ≠ .record r) ∨ ∀ x, (f x).displaced = x.displaced) :
    Carries none m (m.modifyRecord r f) := by
  refine .of_marks rfl rfl (fun _ => rfl) ?_ (Nat.le_refl _) (fun o q hk _ => ?_)
    fun _ _ _ _ => ⟨rfl, rfl⟩
  · exact Nat.le_trans (Nat.le_max_left ..) (Nat.le_of_eq (Store.size_set ..).symm)
  · rw [record_modifyRecord, Function.update_apply]
    split
    next eq =>
      subst eq
      exact may.elim (fun free => absurd hk (free o)) fun same => same _
    next => rfl

/-- The cache of a record has no part in headers. -/
lemma carries_setCache (c : Option MonitorId) : Carries none m (m.setCache r c) :=
  carries_modifyRecord m r (.inr fun _ => rfl)

/-- A new record carries all hashes along. -/
lemma carries_addRecord (w : WorkerId) : Carries none m (m.addRecord w).2 := by
  refine .of_marks rfl rfl (fun _ => rfl) ?_ (Nat.le_refl _) (fun o q _ lt => ?_)
    fun _ _ _ _ => ⟨rfl, rfl⟩
  · exact Nat.le_trans (Nat.le_succ _) (Nat.le_of_eq (Store.size_push ..).symm)
  · show ((m.records.push _).get q).displaced = _
    rw [Store.get_push, Function.update_of_ne (Nat.ne_of_lt lt)]
    rfl

/-- A monitor may change as long as it keeps its object and its header. -/
lemma carries_setMonitor {x : Monitor} (object : x.object = (m.monitor id).object)
    (header : x.header = (m.monitor id).header) : Carries none m (m.setMonitor id x) := by
  refine .of_marks rfl rfl (fun _ => rfl) (Nat.le_refl _) ?_ (fun _ _ _ _ => rfl) fun o i _ _ => ?_
  · exact Nat.le_trans (Nat.le_max_left ..) (Nat.le_of_eq (Store.size_set ..).symm)
  · rw [monitor_setMonitor, Function.update_apply]
    split
    next eq => exact ⟨eq ▸ object, eq ▸ header⟩
    next => exact ⟨rfl, rfl⟩

/-- A new monitor leaves all others alone. -/
lemma monitor_addMonitor (x : Monitor) :
    (m.addMonitor x).2.monitor = Function.update m.monitor m.monitors.size x := Store.get_push _ _

/-- No mark leads to a monitor before it is made. -/
lemma carries_addMonitor (x : Monitor) : Carries none m (m.addMonitor x).2 := by
  refine .of_marks rfl rfl (fun _ => rfl) (Nat.le_refl _) ?_ (fun _ _ _ _ => rfl) fun o i _ lt => ?_
  · exact Nat.le_trans (Nat.le_succ _) (Nat.le_of_eq (Store.size_push ..).symm)
  · rw [monitor_addMonitor, Function.update_of_ne (Nat.ne_of_lt lt)]
    exact ⟨rfl, rfl⟩

variable {m o}

/-- A mark may change if the header that it leads to then has the same hash. -/
lemma carries_setMark {k : Mark} {l : Option (ObjectId × RecordId)}
    (hash : (m.headerOf k).hash = m.hashOf o)
    (plain : m.options.mode ≠ .lightweight → ∀ w, k = .word w → w.bits = .unlocked)
    (stacked : ∀ r, k = .record r → (m.options.mode = .legacy ∧ r < m.records.size ∧
      (m.record r).displaced.bits = .unlocked) ∧ (m.mark o = .record r ∨ l = some (o, r)))
    (linked : ∀ id, k = .monitor id → id < m.monitors.size ∧ (m.monitor id).object = o) :
    Carries l m (m.setMark o k) := by
  have mark (p : ObjectId) : (m.setMark o k).mark p = if p = o then k else m.mark p := by
    rw [mark_setMark, Function.update_apply]
  refine ⟨rfl, fun headed => ⟨fun mode p w hk => ?_, fun p r hk => ?_, fun p id hk => ?_⟩,
    fun _ p => ?_, fun p r hk => ?_, fun _ => rfl⟩
  · rw [mark] at hk
    split at hk
    · exact plain mode w hk
    · exact headed.plain mode p w hk
  · rw [mark] at hk
    split at hk
    · exact (stacked r hk).1
    · exact headed.stacked p r hk
  · rw [mark] at hk
    split at hk
    next eq => exact eq ▸ linked id hk
    next => exact headed.linked p id hk
  · show (m.headerOf ((m.setMark o k).mark p)).hash = _
    rw [mark]
    split
    next eq => rw [hash, eq]
    next => rfl
  · rw [mark] at hk
    split at hk
    next eq => exact eq ▸ (stacked r hk).2
    next => exact .inl hk

/-- A new monitor takes over the header of its object. -/
lemma carries_install (headed : m.WellHeaded) {x : Monitor} (object : x.object = o)
    (hash : x.header.hash = m.hashOf o) :
    Carries none m ((m.addMonitor x).2.setMark o (.monitor m.monitors.size)) := by
  have added := carries_addMonitor m x
  have monitor : (m.addMonitor x).2.monitor m.monitors.size = x := Store.get_push_size _ _
  refine added.trans (carries_setMark ?_ nofun nofun fun id eq => ?_)
  · show ((m.addMonitor x).2.monitor m.monitors.size).header.hash = _
    rw [monitor, added.hash headed, hash]
  · obtain rfl := Mark.monitor.inj eq
    exact ⟨Nat.lt_of_lt_of_eq (Nat.lt_succ_self _) (Store.size_push ..).symm,
      by rw [monitor, object]⟩

end Machine

/-- A monitor that is handed off keeps its header. -/
@[simp] lemma Monitor.handOff_header (x : Monitor) : x.handOff.header = x.header := by
  unfold handOff
  split
  · rfl
  · split <;> rfl

namespace Outcome

variable {α β : Type} {m n : Machine} {o : ObjectId} {r : RecordId}

/-- An operation carries all hashes along, however it ends. -/
def Carries (m : Machine) (x : Outcome α) : Prop := Machine.Carries none m x.machine

/-- So does an enter. Its record gets into the header of its object at most if it is complete. -/
def Stacks (m : Machine) (o : ObjectId) (r : RecordId) : Outcome Entry → Prop
  | ok .entered n => Machine.Carries (some (o, r)) m n
  | ok (.queued _ _) n | fault _ n => Machine.Carries none m n

/-- A change that carries all hashes along may come before an operation that does. -/
lemma Carries.after {x : Outcome α} (h : x.Carries n) (first : Machine.Carries none m n) :
    x.Carries m := first.trans h

/-- An operation carries all hashes along if its first part does and whatever follows does. -/
lemma Carries.bind {x : Outcome α} {f : α → Machine → Outcome β} (h : x.Carries m)
    (next : ∀ a n, Machine.Carries none m n → (f a n).Carries n) : (x.bind f).Carries m := by
  cases x with
  | ok a n => exact (next a n h).after h
  | fault c n => exact h

/-- An operation that carries all hashes along is an enter without a record. -/
lemma Stacks.of_carries {x : Outcome Entry} (h : x.Carries m) : x.Stacks m o r := by
  match x, h with
  | .ok .entered _, h => exact h.weaken
  | .ok (.queued _ _) _, h | .fault _ _, h => exact h

/-- A change that carries all hashes along may come before an enter. -/
lemma Stacks.after {x : Outcome Entry} (h : x.Stacks n o r) (first : Machine.Carries none m n) :
    x.Stacks m o r := by
  match x, h with
  | .ok .entered _, h | .ok (.queued _ _) _, h | .fault _ _, h => exact first.trans h

end Outcome

namespace Machine

variable (m : Machine) (t : ThreadId) (o : ObjectId) (id : MonitorId)

/-- A safepoint check carries all hashes along. -/
lemma checkSafepoint_carries : (m.checkSafepoint t).Carries m := by
  unfold checkSafepoint
  split <;> exact .refl m

/-- Entering a monitor carries all hashes along. -/
lemma enterMonitor_carries : (m.enterMonitor t id).Carries m := by
  unfold enterMonitor
  cases enter : (m.monitor id).tryEnter t with
  | some x =>
    simp only [enter]
    refine carries_setMonitor m id ?_ ?_
    all_goals obtain ⟨-, rfl⟩ | ⟨-, -, rfl⟩ := Monitor.tryEnter_eq_some enter <;> rfl
  | none =>
    simp only [enter]
    generalize hk : (m.setMonitor id (m.monitor id).contend).note _ = k
    have counted : Carries none m k := by
      rw [← hk]
      exact (carries_setMonitor m id (x := (m.monitor id).contend) rfl rfl).trans (carries_note _ _)
    have contended : k.monitor id = (m.monitor id).contend := by
      rw [← hk]
      show (m.setMonitor id _).monitor id = _
      rw [monitor_setMonitor, Function.update_self]
    unfold checkSafepoint
    split
    next =>
      refine counted.trans ((carries_setMonitor k id ?_ ?_).trans (carries_setState _ t _)) <;>
        rw [contended] <;> rfl
    next => exact counted

/-- Trying to enter a monitor carries all hashes along. -/
lemma tryEnterMonitor_carries : (m.tryEnterMonitor t id).Carries m := by
  unfold tryEnterMonitor
  split
  next x enter =>
    refine carries_setMonitor m id ?_ ?_
    all_goals obtain ⟨-, rfl⟩ | ⟨-, -, rfl⟩ := Monitor.tryEnter_eq_some enter <;> rfl
  next => exact .refl m

/-- Claiming a monitor carries all hashes along. -/
lemma claimMonitor_carries (n : UInt64) : (m.claimMonitor t id n).Carries m := by
  unfold claimMonitor
  split
  next x claim =>
    obtain ⟨-, rfl⟩ := Monitor.claim?_eq_some claim
    exact carries_setMonitor m id rfl rfl
  next => exact .refl m

/-- Exiting a monitor carries all hashes along. -/
lemma exitMonitor_carries : (m.exitMonitor t id).Carries m := by
  unfold exitMonitor
  split
  next x exits =>
    refine carries_setMonitor m id (Monitor.exit?_object exits) ?_
    obtain ⟨-, ⟨-, rfl⟩ | ⟨-, rfl⟩⟩ := Monitor.exit?_eq_some exits
    · exact Monitor.handOff_header _
    · rfl
  next => exact .refl m

/-- An illegal exit carries all hashes along. -/
lemma illegalExit_carries : (m.illegalExit t o).Carries m := carries_note m _

/-- Pushing an object carries all hashes along. -/
lemma pushObject_carries : (m.pushObject t o).Carries m := by
  unfold pushObject
  split
  · exact carries_setLockStack m t _
  · exact .refl m

/-- Pushing a record carries all hashes along. -/
lemma pushRecord_carries (r : RecordId) : (m.pushRecord t r).Carries m := by
  unfold pushRecord
  split
  · exact carries_setLockRecords m t _
  · exact .refl m

end Machine

/-- The hash of an object for a thread, and what the thread draws from next: the hash that the object
has already, or the next one of the thread's sequence. -/
def identify (hash : UInt32) (s : HashSequence) : UInt32 × HashSequence :=
  if hash = 0 then s.next else (hash, s)

namespace Machine

/-- Thread `t` asks for the hash of an object and is told `x`. No other hash changes. -/
structure Identifies (t : ThreadId) (o : ObjectId) (m : Machine) (x : UInt32) (n : Machine) :
    Prop where
  told : x = (identify (m.hashOf o) (m.thread t).hashes).1
  options : n.options = m.options
  headed : n.WellHeaded
  hash : n.hashOf = Function.update m.hashOf o x
  stacked : ∀ p r, n.mark p = .record r → m.mark p = .record r
  hashes : ∀ u, (n.thread u).hashes =
    if u = t then (identify (m.hashOf o) (m.thread t).hashes).2 else (m.thread u).hashes

variable {m n k : Machine} {t : ThreadId} {o : ObjectId} {x : UInt32}

/-- An object that has a hash keeps it, and no number is drawn. -/
lemma identify_of_ne {h : UInt32} (ne : h ≠ 0) (s : HashSequence) : identify h s = (h, s) :=
  if_neg ne

/-- The hash of an object that is there already. -/
lemma Identifies.of_hash (headed : m.WellHeaded) (ne : m.hashOf o ≠ 0) :
    Identifies t o m (m.hashOf o) m := by
  refine ⟨?_, rfl, headed, ?_, fun _ _ => id, fun u => ?_⟩
  · rw [identify_of_ne ne]
  · rw [Function.update_eq_self]
  · rw [identify_of_ne ne]
    split
    next eq => rw [eq]
    next => rfl

/-- Something that hashes nothing may come first. -/
lemma Identifies.after (h : Identifies t o n x k) (first : Carries none m n)
    (headed : m.WellHeaded) : Identifies t o m x k := by
  have hash : n.hashOf = m.hashOf := funext (first.hash headed)
  obtain ⟨told, options, headed', hash', stacked, hashes⟩ := h
  rw [hash, first.hashes] at told hashes
  rw [hash] at hash'
  refine ⟨told, options.trans first.options, headed', hash', fun p r hk => ?_, fun u => ?_⟩
  · exact (first.stacked p r (stacked p r hk)).resolve_right nofun
  · rw [hashes, first.hashes]

end Machine

namespace Outcome

/-- An operation that asks for a hash is told one. -/
def Identifies (t : ThreadId) (o : ObjectId) (m : Machine) : Outcome UInt32 → Prop
  | ok x n => Machine.Identifies t o m x n
  | fault _ _ => False

end Outcome

namespace Machine

variable {m : Machine} {t : ThreadId} {o : ObjectId} {id : MonitorId} {w : LockWord}

/-- A drawn hash put into the header of the object, wherever that is. -/
lemma identifies_draw {n : Machine} (none : m.hashOf o = 0)
    (options : n.options = m.options) (headed : n.WellHeaded)
    (mark : ∀ p r, n.mark p = .record r → m.mark p = .record r)
    (threads : n.threads = (m.drawHash t).2.threads)
    (elsewhere : ∀ p, p ≠ o → n.hashOf p = m.hashOf p) (here : n.hashOf o = (m.drawHash t).1) :
    Identifies t o m (m.drawHash t).1 n := by
  have draw : identify (m.hashOf o) (m.thread t).hashes = (m.thread t).hashes.next := if_pos none
  refine ⟨?_, options, headed, funext fun p => ?_, mark, fun u => ?_⟩
  · rw [draw]
    rfl
  · rw [Function.update_apply]
    split
    next eq => rw [eq, here]
    next ne => exact elsewhere p ne
  · rw [draw]
    show (n.threads.get u).hashes = _
    rw [threads]
    show ((m.modifyThread t _).thread u).hashes = _
    rw [thread_modifyThread]
    split <;> rfl

/-- The first hash of an object whose header is in place. -/
lemma identifies_word (headed : m.WellHeaded) (hk : m.mark o = .word w) (none : w.hash = 0) :
    Identifies t o m (m.drawHash t).1
      ((m.drawHash t).2.setMark o (.word (w.withHash (m.drawHash t).1))) := by
  -- Only the header of `o` has changed, and it is still a word with the same lock bits.
  have mark (p : ObjectId) :
      ((m.drawHash t).2.setMark o (.word (w.withHash (m.drawHash t).1))).mark p =
        if p = o then .word (w.withHash (m.drawHash t).1) else m.mark p := by
    rw [mark_setMark, Function.update_apply]
    rfl
  refine identifies_draw ?_ rfl ⟨fun mode p w' hw => ?_, fun p r hr => ?_, fun p id hid => ?_⟩
    (fun p r hr => ?_) rfl (fun p ne => ?_) ?_
  · unfold hashOf
    rw [hk]
    exact none
  · rw [mark] at hw
    split at hw
    next =>
      obtain rfl := Mark.word.inj hw
      rw [LockWord.bits_withHash]
      exact headed.plain mode o w hk
    next => exact headed.plain mode p w' hw
  · rw [mark] at hr
    split at hr
    next => cases hr
    next => exact headed.stacked p r hr
  · rw [mark] at hid
    split at hid
    next => cases hid
    next => exact headed.linked p id hid
  · rw [mark] at hr
    split at hr
    next => cases hr
    next => exact hr
  · unfold hashOf
    rw [mark, if_neg ne]
    rfl
  · unfold hashOf
    rw [mark, if_pos rfl]
    exact (LockWord.hash_withHash _ _).trans (HashSequence.next_fits _).2

/-- A monitor keeps the hash of its object. -/
lemma monitorHash_identifies (headed : m.WellHeaded) (hk : m.mark o = .monitor id) :
    Identifies t o m (m.monitorHash t id).1 (m.monitorHash t id).2 := by
  have here : m.hashOf o = (m.monitor id).header.hash := by
    unfold hashOf
    rw [hk]
    rfl
  unfold monitorHash
  dsimp only
  split
  next has =>
    rw [← here]
    refine .of_hash headed ?_
    rw [here]
    exact (LockWord.hasHash_iff _).1 has
  next fresh =>
    have none : (m.monitor id).header.hash = 0 := by
      by_contra some
      exact fresh ((LockWord.hasHash_iff _).2 some)
    generalize hn : (m.drawHash t).2.setMonitor id _ = n
    have monitor (i : MonitorId) : n.monitor i = if i = id then { m.monitor id with
        header := (m.monitor id).header.withHash (m.drawHash t).1 } else m.monitor i := by
      rw [← hn, monitor_setMonitor, Function.update_apply]
      rfl
    have mark : n.mark = m.mark := by rw [← hn]; rfl
    refine identifies_draw (here.trans none) (by rw [← hn]; rfl) ?_ (fun p r hr => mark ▸ hr)
      (by rw [← hn]; rfl) (fun p ne => ?_) ?_
    · refine headed.of_marks (by rw [← hn]; rfl) mark (by rw [← hn]; exact Nat.le_refl _) ?_
        (fun _ _ _ _ => by rw [← hn]; rfl) fun p i _ _ => ?_
      · rw [← hn]
        exact Nat.le_trans (Nat.le_max_left ..) (Nat.le_of_eq (Store.size_set ..).symm)
      · rw [monitor]
        split
        next eq => rw [eq]
        next => rfl
    · -- Another object has another monitor.
      unfold hashOf
      rw [mark]
      cases hp : m.mark p with
      | word w => rfl
      | record r => rw [← hn]; rfl
      | monitor i =>
        have other : i ≠ id := by
          rintro rfl
          exact ne ((headed.linked p i hp).2.symm.trans (headed.linked o i hk).2)
        show (n.monitor i).header.hash = _
        rw [monitor, if_neg other]
        rfl
    · unfold hashOf
      rw [mark, hk]
      show (n.monitor id).header.hash = _
      rw [monitor, if_pos rfl]
      exact (LockWord.hash_withHash _ _).trans (HashSequence.next_fits _).2

/-- Asking a monitor that no header leads to changes no hash. -/
lemma monitorHash_unlinked (headed : m.WellHeaded) (unlinked : ∀ o, m.mark o ≠ .monitor id) :
    (m.monitorHash t id).2.WellHeaded ∧ (m.monitorHash t id).2.mark = m.mark ∧
      (m.monitorHash t id).2.hashOf = m.hashOf := by
  unfold monitorHash
  dsimp only
  split
  next => exact ⟨headed, rfl, rfl⟩
  next =>
    generalize hn : (m.drawHash t).2.setMonitor id _ = n
    have mark : n.mark = m.mark := by rw [← hn]; rfl
    have monitor {o i} (hk : m.mark o = .monitor i) : n.monitor i = m.monitor i := by
      have other : i ≠ id := fun eq => unlinked o (hk.trans (congrArg Mark.monitor eq))
      rw [← hn, monitor_setMonitor, Function.update_of_ne other]
      rfl
    refine ⟨headed.of_marks (by rw [← hn]; rfl) mark (by rw [← hn]; exact Nat.le_refl _) ?_
      (fun _ _ _ _ => by rw [← hn]; rfl) fun o i hk _ => by rw [monitor hk], mark,
      funext fun o => ?_⟩
    · rw [← hn]
      exact Nat.le_trans (Nat.le_max_left ..) (Nat.le_of_eq (Store.size_set ..).symm)
    · unfold hashOf
      rw [mark]
      cases hk : m.mark o with
      | word w => rfl
      | record r => rw [← hn]; rfl
      | monitor i => exact congrArg (fun x => x.header.hash) (monitor hk)

end Machine

end ObjectLocks
