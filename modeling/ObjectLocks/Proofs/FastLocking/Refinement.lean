import ObjectLocks.Proofs.FastLocking.Coherence
import ObjectLocks.Proofs.RecursiveLock

/-!
# Fast-locking refines the recursive lock

A fast-locked object is owned by the thread that has it on its lock stack, as often as it is there.
Once the object has a monitor, the monitor names the owner, unless it is anonymous, and the queue is
that of the waiting threads. If every exit undoes the latest enter of its thread, the entries of a
lock stack are in the order of the enters, so an exit always finds the entry of its enter on top.
-/

namespace ObjectLocks.FastLocking

/-- An object is locked as `x`. -/
def Represents (v : LockView) (o : ObjectId) (x : RecursiveLock) : Prop :=
  match v.form o with
  | .unlocked => x = .unlocked
  | .fast => ∃ t, o ∈ v.lockStack t ∧ x = .owned t ((v.lockStack t).count o) []
  | .inflated id =>
    (v.monitor id).queued = (v.monitor id).queue.length ∧
    match (v.monitor id).owner with
    | .nobody => (v.monitor id).queue = [] ∧ x = .unlocked
    | .anonymous =>
      ∃ t, o ∈ v.lockStack t ∧ x = .owned t ((v.lockStack t).count o) (v.monitor id).queue
    | .thread t => x = .owned t ((v.monitor id).recursions.toNat + 1) (v.monitor id).queue
  | .stacked _ | .invalid => False

/-- The lock stack of a thread is in the order of its pending enters. -/
def Ordered (stack : List ObjectId) (l : List (ObjectId × RecordId)) : Prop :=
  stack.reverse = (l.map Prod.fst).filter (· ∈ stack)

/-- The locks and the pending enters that a view stands for. -/
structure Refines (v : LockView) (L : Locks) (p : Pending) : Prop where
  coherent : Coherent v
  represents : ∀ o, Represents v o (L o)
  balanced : ∀ o, Balanced p o (L o)
  ordered : ∀ t, Ordered (v.lockStack t) (p t)

section

variable {v w : LockView} {o q : ObjectId} {x : RecursiveLock} {t : ThreadId} {id : MonitorId}

/-- An object with an unlocked header is unlocked. -/
lemma Represents.unlocked (h : Represents v o x) (ho : v.form o = .unlocked) : x = .unlocked := by
  simpa only [Represents, ho] using h

/-- An object with a fast-locked header is owned by the thread that has it on its lock stack, as
often as it is there, and nobody waits. -/
lemma Represents.fast (h : Represents v o x) (ho : v.form o = .fast) :
    ∃ t, o ∈ v.lockStack t ∧ x = .owned t ((v.lockStack t).count o) [] := by
  simpa only [Represents, ho] using h

/-- A monitor counts the threads in its queue. -/
lemma Represents.queued (h : Represents v o x) (ho : v.form o = .inflated id) :
    (v.monitor id).queued = (v.monitor id).queue.length := by
  simp only [Represents, ho] at h
  exact h.1

/-- An object whose monitor nobody owns is unlocked, and nobody waits. -/
lemma Represents.free (h : Represents v o x) (ho : v.form o = .inflated id)
    (own : (v.monitor id).owner = .nobody) : (v.monitor id).queue = [] ∧ x = .unlocked := by
  simp only [Represents, ho, own] at h
  exact h.2

/-- An object whose monitor is owned anonymously is owned by the thread that has it on its lock
stack. -/
lemma Represents.anonymous (h : Represents v o x) (ho : v.form o = .inflated id)
    (own : (v.monitor id).owner = .anonymous) :
    ∃ t, o ∈ v.lockStack t ∧ x = .owned t ((v.lockStack t).count o) (v.monitor id).queue := by
  simp only [Represents, ho, own] at h
  exact h.2

/-- An object whose monitor names its owner is owned by that thread, once and by every further
enter. -/
lemma Represents.owned (h : Represents v o x) (ho : v.form o = .inflated id)
    (own : (v.monitor id).owner = .thread t) :
    x = .owned t ((v.monitor id).recursions.toNat + 1) (v.monitor id).queue := by
  simp only [Represents, ho, own] at h
  exact h.2

/-- An unlocked header represents an unlocked lock. -/
lemma represents_unlocked (ho : v.form o = .unlocked) : Represents v o .unlocked := by
  simp only [Represents, ho]

/-- A fast-locked header represents the lock of the thread that has the object on its lock stack. -/
lemma represents_fast (ho : v.form o = .fast) (mem : o ∈ v.lockStack t) :
    Represents v o (.owned t ((v.lockStack t).count o) []) := by
  simp only [Represents, ho]
  exact ⟨t, mem, rfl⟩

section

variable {m : Monitor} (ho : v.form o = .inflated id) (hm : v.monitor id = m)
include ho hm

/-- A monitor without an owner and without a queue represents an unlocked lock. -/
lemma represents_free (own : m.owner = .nobody) (queued : m.queued = 0) (queue : m.queue = []) :
    Represents v o .unlocked := by
  simp [Represents, ho, hm, own, queue, queued]

/-- A monitor that is owned anonymously represents the lock of the thread of the entries. -/
lemma represents_anonymous (own : m.owner = .anonymous) (queued : m.queued = m.queue.length)
    (mem : o ∈ v.lockStack t) :
    Represents v o (.owned t ((v.lockStack t).count o) m.queue) := by
  simp only [Represents, ho, hm, own]
  exact ⟨queued, t, mem, rfl⟩

/-- A monitor that names its owner represents the lock of that thread. -/
lemma represents_owned {d : Nat} (own : m.owner = .thread t)
    (queued : m.queued = m.queue.length) (depth : d = m.recursions.toNat + 1) :
    Represents v o (.owned t d m.queue) := by
  simp [Represents, ho, hm, own, queued, depth]

end

/-- The waiting threads are those in the queue of the monitor. -/
lemma Represents.waiting (h : Represents v o x) :
    x.waiting = match v.form o with
      | .inflated id => (v.monitor id).queue
      | _ => [] := by
  cases hf : v.form o with
  | unlocked =>
    rw [h.unlocked hf]
    rfl
  | fast =>
    obtain ⟨t, -, rfl⟩ := h.fast hf
    rfl
  | inflated id =>
    cases own : (v.monitor id).owner with
    | nobody =>
      obtain ⟨queue, rfl⟩ := h.free hf own
      exact queue.symm
    | anonymous =>
      obtain ⟨t, -, rfl⟩ := h.anonymous hf own
      rfl
    | thread t =>
      rw [h.owned hf own]
      rfl
  | stacked _ | invalid => simp only [Represents, hf] at h

/-- A change for one object leaves the locks of all others alone. -/
lemma Represents.elsewhere (h : Represents v q x) (s : v.Elsewhere o w) (ne : q ≠ o)
    (count : ∀ t, (w.lockStack t).count q = (v.lockStack t).count q) : Represents w q x := by
  have mem (t : ThreadId) : q ∈ w.lockStack t ↔ q ∈ v.lockStack t := by
    rw [← List.count_pos_iff, count t, List.count_pos_iff]
  unfold Represents at *
  rw [s.form q ne]
  simp only [mem, count]
  cases hf : v.form q with
  | inflated id =>
    rw [hf] at h
    simp only [s.monitor q ne id hf]
    exact h
  | _ =>
    rw [hf] at h
    exact h

/-- The thread with an object on its lock stack owns it, as often as it is there. -/
lemma Represents.setLockStack (h : Represents v o x) (placed : Placed v o)
    (mem : o ∈ v.lockStack t) {l : List ObjectId} (mem' : o ∈ l) :
    ∃ queue, x = .owned t ((v.lockStack t).count o) queue ∧
      Represents (v.setLockStack t l) o (.owned t (l.count o) queue) := by
  have stack : (v.setLockStack t l).lockStack t = l := Function.update_self ..
  cases hf : v.form o with
  | unlocked => exact absurd mem (placed.unlocked hf t)
  | fast =>
    obtain ⟨u, mem_u, rfl⟩ := h.fast hf
    obtain rfl := (placed.fast hf).unique mem mem_u
    refine ⟨[], rfl, ?_⟩
    have rep := represents_fast (v := v.setLockStack t l) (t := t) hf (stack.symm ▸ mem')
    rwa [stack] at rep
  | inflated id =>
    by_cases own : (v.monitor id).owner = .anonymous
    · obtain ⟨u, mem_u, rfl⟩ := h.anonymous hf own
      obtain rfl := (placed.anonymous hf own).unique mem mem_u
      refine ⟨_, rfl, ?_⟩
      have rep := represents_anonymous (v := v.setLockStack t l) (t := t) hf rfl own (h.queued hf)
        (stack.symm ▸ mem')
      rwa [stack] at rep
    · exact absurd mem (placed.inflated hf own t)
  | stacked _ | invalid => simp only [Represents, hf] at h

variable {L : Locks} {p : Pending} {op : Operation}

/-- A lock stack has room for few enters, which the recursions of a monitor can count. -/
lemma Coherent.toNat_count (h : Coherent v) (mem : o ∈ v.lockStack t) :
    (UInt64.ofNat ((v.lockStack t).count o - 1)).toNat + 1 = (v.lockStack t).count o := by
  have pos := List.count_pos_iff.2 mem
  have le := Nat.le_trans (List.count_le_length (a := o)) (h.room t)
  rw [UInt64.toNat_ofNat_of_lt' (show _ < 2 ^ 64 by omega)]
  omega

/-- A silent change only changes how the lock is represented. -/
lemma Change.represents (c : Change t op v none w) (h : Coherent v)
    (rep : Represents v op.object x) : Represents w op.object x := by
  have here := h.placed op.object
  cases c with
  | inflateFree ho =>
    obtain rfl := rep.unlocked ho
    exact represents_free (Function.update_self ..) (Function.update_self ..) rfl rfl rfl
  | inflateOwn ho mem =>
    obtain ⟨u, mem_u, rfl⟩ := rep.fast ho
    -- The thread that inflates is the one that has the object on its stack.
    obtain rfl := (here.fast ho).unique mem mem_u
    exact represents_owned (v := (v.inflate _ _).dropObject t _) (Function.update_self ..)
      (Function.update_self ..) rfl rfl (h.toNat_count mem).symm
  | inflateOther ho _ =>
    obtain ⟨u, mem, rfl⟩ := rep.fast ho
    exact represents_anonymous (v := v.inflate _ _) (Function.update_self ..)
      (Function.update_self ..) rfl rfl mem
  | claim ho own mem =>
    obtain ⟨u, mem_u, rfl⟩ := rep.anonymous ho own
    obtain rfl := (here.anonymous ho own).unique mem mem_u
    exact represents_owned (v := (v.dropObject t _).setMonitor _ _) ho (Function.update_self ..) rfl
      (rep.queued ho) (h.toNat_count mem).symm
  | @annotate _ _ id y ho same =>
    have hm : (v.setMonitor id y).monitor id = y := Function.update_self ..
    -- An annotated monitor has the owner, the recursions and the queue that it had.
    have queued : y.queued = y.queue.length := by rw [same.queued, same.queue, rep.queued ho]
    cases own : (v.monitor id).owner with
    | nobody =>
      obtain ⟨queue, rfl⟩ := rep.free ho own
      refine represents_free ho hm (same.owner.trans own) ?_ (same.queue.trans queue)
      rw [queued, same.queue, queue]
      rfl
    | anonymous =>
      obtain ⟨u, mem, rfl⟩ := rep.anonymous ho own
      rw [← same.queue]
      exact represents_anonymous (v := v.setMonitor id y) ho hm (same.owner.trans own) queued mem
    | thread u =>
      obtain rfl := rep.owned ho own
      rw [← same.queue, ← same.recursions]
      exact represents_owned (v := v.setMonitor id y) ho hm (same.owner.trans own) queued rfl
  | cache _ => exact rep

/-- The thread that is on top of an object's entries has just one left if it may not drop one. -/
lemma Runs.count_eq_one {l : List ObjectId} (h : Runs (l ++ [o]))
    (once : ∀ k, l ++ [o] ≠ k ++ [o, o]) : (l ++ [o]).count o = 1 := by
  have out : o ∉ l := by
    intro mem
    rcases List.eq_nil_or_concat l with rfl | ⟨k, a, rfl⟩
    · cases mem
    · rw [List.concat_eq_append] at *
      have ne : a ≠ o := fun eq => once k (by rw [eq, List.append_assoc]; rfl)
      have mem' : o ∈ k := by simpa [ne.symm] using mem
      refine ne (h o a ?_)
      rw [List.append_assoc]
      exact (List.singleton_sublist.2 mem').append (.refl [a, o])
  rw [List.count_append, List.count_eq_zero_of_not_mem out, List.count_singleton_self]

/-- An exit of a further enter. -/
lemma Represents.drop {l : List ObjectId} (h : Represents v o x) (placed : Placed v o)
    (top : v.lockStack t = l ++ [o, o]) :
    ∃ y, x.exit t = some y ∧ Represents (v.setLockStack t (l ++ [o])) o y := by
  obtain ⟨q, eq, rep⟩ := h.setLockStack (t := t) (l := l ++ [o]) placed (by simp [top]) (by simp)
  have count : (v.lockStack t).count o = l.count o + 2 := by
    rw [top, List.count_append]
    simp
  have count' : (l ++ [o]).count o = l.count o + 1 := by
    rw [List.count_append, List.count_singleton_self]
  rw [count'] at rep
  exact ⟨_, by rw [eq, count, RecursiveLock.exit_again], rep⟩

/-- An exit of the monitor by its owner. -/
lemma Represents.exitMonitor {y : Monitor} (h : Represents v o x) (ho : v.form o = .inflated id)
    (exit : (v.monitor id).exit? t = some y) :
    ∃ z, x.exit t = some z ∧ Represents (v.setMonitor id y) o z := by
  have own := (Monitor.exit?_eq_some exit).1
  have eq := h.owned ho own
  have queued := h.queued ho
  have hm : (v.setMonitor id y).monitor id = y := Function.update_self ..
  cases Monitor.exit?_exits exit queued with
  | @again n more own' depth queued' queue' =>
    rw [more, ← queue'] at eq
    exact ⟨.owned t (n + 1) _, by rw [eq, RecursiveLock.exit_again],
      represents_owned (v := v.setMonitor id y) ho hm own' (by rw [queued', queue', queued])
        (by rw [depth])⟩
  | @handsOff u q last queue own' zero queued' queue' =>
    rw [last, queue] at eq
    subst queue'
    exact ⟨.owned u 1 _, by rw [eq]; exact RecursiveLock.exit_hands_off,
      represents_owned (v := v.setMonitor id y) ho hm own' queued' (by simp [zero])⟩
  | frees last queue own' _ queued' queue' =>
    rw [last, queue] at eq
    exact ⟨.unlocked, by rw [eq]; exact RecursiveLock.exit_unlocks,
      represents_free ho hm own' queued' queue'⟩

/-- An owner that does not have the object on its lock stack is named by the monitor. -/
lemma Represents.named {d : Nat} {q : List ThreadId} (h : Represents v o (.owned t d q))
    (out : o ∉ v.lockStack t) :
    ∃ id, v.form o = .inflated id ∧ (v.monitor id).owner = .thread t := by
  cases hf : v.form o with
  | unlocked => cases h.unlocked hf
  | fast =>
    obtain ⟨u, mem, eq⟩ := h.fast hf
    cases eq
    exact absurd mem out
  | inflated id =>
    refine ⟨id, rfl, ?_⟩
    cases own : (v.monitor id).owner with
    | nobody => cases (h.free hf own).2
    | anonymous =>
      obtain ⟨u, mem, eq⟩ := h.anonymous hf own
      cases eq
      exact absurd mem out
    | thread u =>
      cases h.owned hf own
      rfl
  | stacked _ | invalid => simp only [Represents, hf] at h

section

variable {r : RecordId} {l : List ObjectId} (h : Refines v L p)
include h

/-- A further enter by the thread whose top entry the object is. -/
lemma Refines.again (top : v.lockStack t = l ++ [o]) :
    ∃ y, (L o).enter t = some y ∧
      Represents (v.setLockStack t (v.lockStack t ++ [o])) o y := by
  obtain ⟨q, eq, rep⟩ := (h.represents o).setLockStack (t := t) (l := v.lockStack t ++ [o])
    (h.coherent.placed o) (by simp [top]) (by simp)
  rw [List.count_append, List.count_singleton_self] at rep
  exact ⟨_, by rw [eq, RecursiveLock.enter_owned], rep⟩

/-- A fast lock is the first enter of an unlocked object. -/
lemma Refines.lock (ho : v.form o = .unlocked) :
    (L o).enter t = some (.owned t 1 []) ∧
      Represents ((v.setForm o .fast).setLockStack t (v.lockStack t ++ [o])) o
        (.owned t 1 []) := by
  have eq := (h.represents o).unlocked ho
  have out := (h.coherent.placed o).unlocked ho t
  have rep := represents_fast (v := (v.setForm o .fast).setLockStack t (v.lockStack t ++ [o]))
    (t := t) (Function.update_self ..) (by simp)
  refine ⟨by rw [eq]; rfl, ?_⟩
  simpa [List.count_append, List.count_eq_zero_of_not_mem out] using rep

/-- Dropping the upper one of two entries takes back one enter. -/
lemma Refines.drop (top : v.lockStack t = l ++ [o, o]) :
    ∃ y, (L o).exit t = some y ∧ Represents (v.setLockStack t (l ++ [o])) o y :=
  (h.represents o).drop (h.coherent.placed o) top

/-- An exit of the first enter, which is the latest one of the thread. -/
lemma Refines.unlock {rest : List (ObjectId × RecordId)} (latest : p t = (o, r) :: rest)
    (ho : v.form o = .fast) (mem : o ∈ v.lockStack t)
    (once : ∀ k, v.lockStack t ≠ k ++ [o, o]) : (L o).exit t = some .unlocked := by
  -- The entries are in the order of the enters, so the object is on top of the lock stack.
  obtain ⟨l, top⟩ : ∃ l, v.lockStack t = l ++ [o] := by
    have order := h.ordered t
    rw [Ordered, latest, List.map_cons, List.filter_cons_of_pos (by simpa using mem)] at order
    exact ⟨_, by rw [← List.reverse_reverse (v.lockStack t), order, List.reverse_cons]⟩
  have runs := h.coherent.runs t
  rw [top] at runs once
  have one := runs.count_eq_one once
  obtain ⟨u, mem_u, eq⟩ := (h.represents o).fast ho
  obtain rfl := ((h.coherent.placed o).fast ho).unique mem mem_u
  rw [eq, top, one, RecursiveLock.exit_unlocks]

/-- An enter of the monitor is one of the lock. -/
lemma Refines.enterMonitor {y : Monitor} (room : (p t).length + 1 ≤ 2 ^ 64)
    (ho : v.form o = .inflated id) (enter : (v.monitor id).tryEnter t = some y) :
    ∃ z, (L o).enter t = some z ∧ Represents (v.setMonitor id y) o z := by
  have queued := (h.represents o).queued ho
  obtain ⟨own, rfl⟩ | ⟨own, none, rfl⟩ := Monitor.tryEnter_eq_some enter
  · have eq := (h.represents o).owned ho own
    refine ⟨.owned t ((v.monitor id).recursions.toNat + 2) _, by rw [eq, RecursiveLock.enter_owned],
      represents_owned (v := v.setMonitor id _) ho (Function.update_self ..) own queued ?_⟩
    -- Every enter that is counted is pending, so the count does not wrap.
    have depth := (h.balanced o).depth eq
    have le := length_recordsOf_le (l := p t) (o := o)
    rw [Monitor.toNat_recursions_add_one (by omega)]
  · obtain ⟨queue, eq⟩ := (h.represents o).free ho own
    have idle := h.coherent.idle id own
    refine ⟨.owned t 1 [], by rw [eq]; rfl, ?_⟩
    rw [← queue]
    exact represents_owned (v := v.setMonitor id _) ho (Function.update_self ..) rfl queued
      (by simp [idle])

/-- A wait for the monitor is one for the lock. -/
lemma Refines.wait (awake : ∀ o, t ∉ (L o).waiting) (ho : v.form o = .inflated id)
    (enter : (v.monitor id).tryEnter t = none)
    (out : (v.monitor id).owner = .anonymous → o ∉ v.lockStack t) :
    ∃ y, (L o).wait t = some y ∧
      Represents (v.setMonitor id ((v.monitor id).contend.enqueue t)) o y := by
  obtain ⟨other, free⟩ := Monitor.tryEnter_eq_none enter
  have queued := (h.represents o).queued ho
  have queued' : ((v.monitor id).contend.enqueue t).queued =
      ((v.monitor id).contend.enqueue t).queue.length := by
    simp [Monitor.enqueue, Monitor.contend, queued]
  have new := awake o
  rw [(h.represents o).waiting, ho] at new
  cases own : (v.monitor id).owner with
  | nobody =>
    -- Threads only wait for a monitor that has an owner.
    obtain ⟨queue, -⟩ := (h.represents o).free ho own
    exact absurd (by rw [queued, queue]; rfl) (free own)
  | anonymous =>
    obtain ⟨u, mem, eq⟩ := (h.represents o).anonymous ho own
    have ne : u ≠ t := fun e => out own (e ▸ mem)
    refine ⟨_, ?_, represents_anonymous (v := v.setMonitor id _) ho (Function.update_self ..) own
      queued' mem⟩
    rw [eq, RecursiveLock.wait_owned ne new]
    rfl
  | thread u =>
    have eq := (h.represents o).owned ho own
    have ne : u ≠ t := fun e => other (e ▸ own)
    refine ⟨_, ?_, represents_owned (v := v.setMonitor id _) ho (Function.update_self ..) own
      queued' rfl⟩
    rw [eq, RecursiveLock.wait_owned ne new]
    rfl

/-- An exit of the monitor by its named owner is one of the lock. -/
lemma Refines.exitMonitor {y : Monitor} (ho : v.form o = .inflated id)
    (exit : (v.monitor id).exit? t = some y) :
    ∃ z, (L o).exit t = some z ∧ Represents (v.setMonitor id y) o z :=
  (h.represents o).exitMonitor ho exit

/-- An exit of the latest enter is never rejected. -/
lemma Refines.not_rejected (awake : ∀ o, t ∉ (L o).waiting) {rest : List (ObjectId × RecordId)}
    (latest : p t = (o, r) :: rest) (out : o ∉ v.lockStack t) :
    ∃ id, v.form o = .inflated id ∧ (v.monitor id).owner = .thread t := by
  -- The thread has a pending enter and does not wait, so it owns the object.
  obtain ⟨d, q, eq⟩ := (h.balanced o).owner
    (mem_recordsOf.2 (latest ▸ List.mem_cons_self)) (awake o)
  have rep := h.represents o
  rw [eq] at rep
  exact rep.named out

end

/-- What an event does to the lock of its object. -/
lemma Change.apply {e : Event} (c : Change t op v (some e) w) (h : Refines v L p)
    (awake : ∀ o, t ∉ (L o).waiting) (room : (e.pend p t).length ≤ 2 ^ 64)
    (nested : Nested (p t) op) :
    ∃ y, e.apply L = some (Function.update L op.object y) ∧ Represents w op.object y := by
  cases c with
  | again top _ =>
    obtain ⟨y, enters, rep⟩ := h.again top
    exact ⟨y, by simp [Event.apply, enters, Operation.object], rep⟩
  | lock ho _ =>
    obtain ⟨enters, rep⟩ := h.lock ho
    exact ⟨_, by simp [Event.apply, enters, Operation.object], rep⟩
  | drop top =>
    obtain ⟨y, exits, rep⟩ := h.drop top
    exact ⟨y, by simp [Event.apply, exits, Operation.object], rep⟩
  | unlock ho mem once =>
    obtain ⟨rest, latest⟩ := nested
    have exits := h.unlock latest ho mem once
    exact ⟨_, by simp [Event.apply, exits, Operation.object],
      represents_unlocked (Function.update_self ..)⟩
  | enterMonitor ho enter =>
    simp only [Event.pend, Function.update_self, List.length_cons] at room
    obtain ⟨y, enters, rep⟩ := h.enterMonitor room ho enter
    exact ⟨y, by simp [Event.apply, enters, Operation.object], rep⟩
  | wait ho enter out =>
    obtain ⟨y, waits, rep⟩ := h.wait awake ho enter out
    exact ⟨y, by simp [Event.apply, waits, Operation.object], rep⟩
  | exitMonitor ho exit =>
    obtain ⟨y, exits, rep⟩ := h.exitMonitor ho exit
    exact ⟨y, by simp [Event.apply, exits, Operation.object], rep⟩
  | reject out other =>
    obtain ⟨rest, latest⟩ := nested
    obtain ⟨id, ho, own⟩ := h.not_rejected awake latest out
    exact absurd own (other id ho)

section

variable {l : List ObjectId} {stack : List ObjectId} {enters : List (ObjectId × RecordId)}
  {r : RecordId}

/-- A pushed entry is in the order of the enters if it is a repeated one or the first one of its
object. -/
lemma Ordered.push (h : Ordered stack enters) (fresh : o ∈ stack ∨ ∀ r, (o, r) ∉ enters) :
    Ordered (stack ++ [o]) ((o, r) :: enters) := by
  have same : (enters.map Prod.fst).filter (· ∈ stack ++ [o]) =
      (enters.map Prod.fst).filter (· ∈ stack) := by
    refine List.filter_congr fun q hq => ?_
    rcases fresh with mem | new
    · by_cases eq : q = o <;> simp [eq, mem]
    · have ne : q ≠ o := by
        rintro rfl
        obtain ⟨⟨q, r'⟩, mem, rfl⟩ := List.mem_map.1 hq
        exact new r' mem
      simp [ne]
  rw [Ordered, List.reverse_append, List.map_cons, List.filter_cons_of_pos (by simp), same, ← h]
  rfl

/-- An enter that pushes nothing keeps the order if its object is not on the lock stack. -/
lemma Ordered.cons (h : Ordered stack enters) (out : o ∉ stack) :
    Ordered stack ((o, r) :: enters) := by
  rw [Ordered, List.map_cons, List.filter_cons_of_neg (by simpa using out)]
  exact h

/-- An exit that drops nothing keeps the order if its object is not on the lock stack. -/
lemma Ordered.tail (h : Ordered stack ((o, r) :: enters)) (out : o ∉ stack) :
    Ordered stack enters := by
  rw [Ordered, List.map_cons, List.filter_cons_of_neg (by simpa using out)] at h
  exact h

/-- An exit that drops the upper one of two entries keeps the order. -/
lemma Ordered.drop (h : Ordered (l ++ [o, o]) ((o, r) :: enters)) :
    Ordered (l ++ [o]) enters := by
  have same : (enters.map Prod.fst).filter (· ∈ l ++ [o, o]) =
      (enters.map Prod.fst).filter (· ∈ l ++ [o]) :=
    List.filter_congr fun q _ => by simp
  have stack : (l ++ [o, o]).reverse = o :: (l ++ [o]).reverse := by simp
  rw [Ordered, List.map_cons, List.filter_cons_of_pos (by simp), same, stack] at h
  exact (List.cons.inj h).2

/-- Removing all entries of an object keeps the order of the others. -/
lemma Ordered.remove (h : Ordered stack enters) : Ordered (stack.filter (· ≠ o)) enters := by
  rw [Ordered, ← List.filter_reverse, h, List.filter_filter]
  refine List.filter_congr fun q _ => ?_
  simp [and_comm]

end

/-- An enter that does not push leaves the object off the lock stack of the thread, so does an exit
that does not pop. -/
lemma Change.ordered (c : Change t op v e w) (h : Refines v L p) (nested : Nested (p t) op) :
    Ordered (w.lockStack t) (e.elim p (Event.pend p) t) := by
  have order := h.ordered t
  cases c with
  | @again _ o r l top _ =>
    simp only [Option.elim, Event.pend, Function.update_self, LockView.setLockStack_lockStack]
    exact order.push (.inl (by simp [top]))
  | @lock _ o r ho _ =>
    simp only [Option.elim, Event.pend, Function.update_self, LockView.setLockStack_lockStack]
    -- An unlocked object has no pending enters.
    refine order.push (.inr fun r' mem => ?_)
    have bal := h.balanced o
    rw [(h.represents o).unlocked ho] at bal
    have mem' := mem_recordsOf.2 mem
    rw [bal t] at mem'
    cases mem'
  | @drop _ o r l top =>
    obtain ⟨rest, latest⟩ := nested
    rw [top, latest] at order
    simp only [Option.elim, Event.pend, Function.update_self, LockView.setLockStack_lockStack,
      latest, List.erase_cons_head]
    exact order.drop
  | @unlock _ o r ho mem once =>
    obtain ⟨rest, latest⟩ := nested
    simp only [Option.elim, Event.pend, Function.update_self, latest, List.erase_cons_head,
      LockView.dropObject, LockView.setLockStack_lockStack]
    have removed := order.remove (o := o)
    rw [latest] at removed
    exact removed.tail (by simp)
  | @enterMonitor _ o r id y ho enter =>
    simp only [Option.elim, Event.pend, Function.update_self]
    -- The object is on no stack once its monitor has a known owner or none.
    exact order.cons ((h.coherent.placed o).inflated ho (Monitor.tryEnter_owner_ne enter) t)
  | @wait _ o r id ho enter out =>
    simp only [Option.elim, Event.pend, Function.update_self]
    refine order.cons fun mem => ?_
    by_cases own : (v.monitor id).owner = .anonymous
    · exact out own mem
    · exact (h.coherent.placed o).inflated ho own t mem
  | @exitMonitor _ o r id y ho exit =>
    obtain ⟨rest, latest⟩ := nested
    simp only [Option.elim, Event.pend, Function.update_self, latest, List.erase_cons_head]
    rw [latest] at order
    have own : (v.monitor id).owner ≠ .anonymous := by simp [(Monitor.exit?_eq_some exit).1]
    exact order.tail ((h.coherent.placed o).inflated ho own t)
  | inflateOwn _ _ | claim _ _ _ =>
    simp only [Option.elim, LockView.dropObject, LockView.setLockStack_lockStack,
      LockView.setMonitor_lockStack, Function.update_self]
    exact order.remove
  | _ => exact order

/-- A silent change is not seen by the callers of the locks. -/
lemma Refines.silent (h : Refines v L p) (c : Change t op v none w) (attached : t < v.nextThread)
    (nested : Nested (p t) op) : Refines w L p := by
  refine ⟨c.coherent h.coherent attached, fun o => ?_, h.balanced, fun u => ?_⟩
  · by_cases eq : o = op.object
    · exact eq ▸ c.represents h.coherent (h.represents op.object)
    · exact (h.represents o).elsewhere (c.elsewhere h.coherent) eq (c.count eq)
  · by_cases eq : u = t
    · exact eq ▸ c.ordered h nested
    · rw [c.lockStack_of_ne eq]
      exact h.ordered u

/-- Every event is what the locks allow next. -/
lemma Refines.event {e : Event} (h : Refines v L p) (c : Change t op v (some e) w)
    (attached : t < v.nextThread) (awake : ∀ o, t ∉ (L o).waiting)
    (room : (e.pend p t).length ≤ 2 ^ 64) (nested : Nested (p t) op) :
    ∃ L', e.apply L = some L' ∧ Refines w L' (e.pend p) := by
  obtain ⟨y, applies, rep⟩ := c.apply h awake room nested
  refine ⟨_, applies, c.coherent h.coherent attached, fun o => ?_, ?_, fun u => ?_⟩
  · by_cases eq : o = op.object
    · subst eq
      rwa [Function.update_self]
    · rw [Function.update_of_ne eq]
      exact (h.represents o).elsewhere (c.elsewhere h.coherent) eq (c.count eq)
  · refine Balanced.apply h.balanced applies fun u o r eq => ?_
    subst eq
    cases c with
    | drop _ | unlock _ _ _ | exitMonitor _ _ => exact nested.inReverse
  · by_cases eq : u = t
    · exact eq ▸ c.ordered h nested
    · rw [c.lockStack_of_ne eq, c.of.pend_of_ne eq]
      exact h.ordered u

/-- The locks that a view stands for depend on its headers, its monitors and its lock stacks only.
-/
lemma Refines.congr (h : Refines v L p) (coherent : Coherent w) (form : w.form = v.form)
    (monitor : w.monitor = v.monitor) (stack : w.lockStack = v.lockStack) : Refines w L p := by
  refine ⟨coherent, fun o => ?_, h.balanced, stack ▸ h.ordered⟩
  have rep := h.represents o
  unfold Represents at *
  rw [form, monitor, stack]
  exact rep

end

end ObjectLocks.FastLocking
