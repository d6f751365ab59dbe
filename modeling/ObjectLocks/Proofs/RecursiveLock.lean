import Mathlib.Algebra.Group.Nat.Defs
import Mathlib.Data.Fintype.Card
import Mathlib.Data.List.Nodup
import Mathlib.Logic.Function.Basic
import ObjectLocks.Proofs.Steps

/-!
# The recursive lock

What a lock is to its callers: it is unlocked, or a thread owns it some number of times over while
others wait in the order in which they came. The events of a system tell what its locks should do,
and which enters are pending at any time. A lock that did what its events say counts the pending
enters of its owner.
-/

namespace ObjectLocks

/-- A recursive lock with a queue. -/
inductive RecursiveLock where
  | unlocked
  /-- The owner, how often it has entered, and the waiting threads, the longest waiting first. -/
  | owned (t : ThreadId) (depth : Nat) (waiting : List ThreadId)
deriving DecidableEq, Repr

namespace RecursiveLock

/-- An enter without waiting, by the owner or of an unlocked lock. -/
def enter (t : ThreadId) : RecursiveLock → Option RecursiveLock
  | unlocked => some (owned t 1 [])
  | owned u d q => if u = t then some (owned t (d + 1) q) else none

/-- A thread waits for a lock that another one owns. -/
def wait (t : ThreadId) : RecursiveLock → Option RecursiveLock
  | unlocked => none
  | owned u d q => if u = t ∨ t ∈ q then none else some (owned u d (q ++ [t]))

/-- An exit by the owner. The last one hands the lock to the thread that has waited longest. -/
def exit (t : ThreadId) : RecursiveLock → Option RecursiveLock
  | unlocked => none
  | owned u d q =>
    if u = t then
      match d, q with
      | d + 2, q => some (owned t (d + 1) q)
      | _, v :: q => some (owned v 1 q)
      | _, [] => some unlocked
    else none

/-- The thread that owns the lock. -/
def owner? : RecursiveLock → Option ThreadId
  | unlocked => none
  | owned t _ _ => some t

/-- The waiting threads, the longest waiting first. -/
def waiting : RecursiveLock → List ThreadId
  | unlocked => []
  | owned _ _ q => q

variable {x y : RecursiveLock} {t u : ThreadId} {d : Nat} {q : List ThreadId}

/-- An unlocked lock is entered once. -/
@[simp] lemma enter_unlocked : unlocked.enter t = some (owned t 1 []) := rfl

/-- The owner enters its lock once more. -/
@[simp] lemma enter_owned : (owned t d q).enter t = some (owned t (d + 1) q) := if_pos rfl

/-- A thread that waits for an owned lock goes to the end of the queue. -/
lemma wait_owned (ne : u ≠ t) (new : t ∉ q) :
    (owned u d q).wait t = some (owned u d (q ++ [t])) :=
  if_neg (not_or.2 ⟨ne, new⟩)

/-- An exit takes back one enter of an owner with more of them. -/
@[simp] lemma exit_again : (owned t (d + 2) q).exit t = some (owned t (d + 1) q) := if_pos rfl

/-- The last exit unlocks a lock that nobody waits for. -/
@[simp] lemma exit_unlocks : (owned t 1 []).exit t = some unlocked := if_pos rfl

/-- The last exit hands the lock to the head of the queue. -/
@[simp] lemma exit_hands_off : (owned t 1 (u :: q)).exit t = some (owned u 1 q) := if_pos rfl

/-- An enter makes no thread wait. -/
lemma waiting_enter (h : x.enter t = some y) : y.waiting = x.waiting := by
  cases x with
  | unlocked =>
    obtain rfl := Option.some.inj h
    rfl
  | owned u d q =>
    simp only [enter] at h
    split at h
    next =>
      obtain rfl := Option.some.inj h
      rfl
    next => cases h

/-- A wait puts one thread at the end of the queue. -/
lemma waiting_wait (h : x.wait t = some y) : y.waiting = x.waiting ++ [t] := by
  cases x with
  | unlocked => cases h
  | owned u d q =>
    simp only [wait] at h
    split at h
    next => cases h
    next =>
      obtain rfl := Option.some.inj h
      rfl

/-- Who has to wait may not enter. -/
lemma enter_eq_none (h : x.wait t = some y) : x.enter t = none := by
  cases x with
  | unlocked => cases h
  | owned u d q =>
    simp only [wait] at h
    split at h
    next => cases h
    next other => exact if_neg fun eq => other (.inl eq)

/-- Who waits after an exit has waited before, in the same order. -/
lemma waiting_exit (h : x.exit t = some y) : y.waiting.Sublist x.waiting := by
  cases x with
  | unlocked => cases h
  | owned u d q =>
    simp only [exit] at h
    split at h
    next =>
      split at h <;> obtain rfl := Option.some.inj h
      next => exact .refl _
      next => exact List.sublist_cons_self ..
      next => exact .refl _
    next => cases h

end RecursiveLock

/-- The locks of all objects. -/
abbrev Locks := ObjectId → RecursiveLock

/-- The enters of every thread that have begun and not been exited, the latest first. -/
abbrev Pending := ThreadId → List (ObjectId × RecordId)

namespace Event

/-- What an event does to the locks, if they allow it. -/
def apply (L : Locks) : Event → Option Locks
  | entered t o _ => ((L o).enter t).map (Function.update L o)
  | waits t o _ => ((L o).wait t).map (Function.update L o)
  | exited t o _ => ((L o).exit t).map (Function.update L o)
  | rejected _ _ _ => none
  | detached _ => some L

/-- What an event does to the pending enters. -/
def pend (p : Pending) : Event → Pending
  | entered t o r | waits t o r => Function.update p t ((o, r) :: p t)
  | exited t o r => Function.update p t ((p t).erase (o, r))
  | rejected _ _ _ | detached _ => p

end Event

/-- The locks after a history, if they allow all of it. -/
def replay : List Event → Option Locks
  | [] => some fun _ => .unlocked
  | e :: h => (replay h).bind e.apply

/-- The pending enters after a history. -/
def pending : List Event → Pending
  | [] => fun _ => []
  | e :: h => e.pend (pending h)

/-- The records of the pending enters of one object, the latest first. -/
def recordsOf (l : List (ObjectId × RecordId)) (o : ObjectId) : List RecordId :=
  (l.filter fun x => x.1 = o).map Prod.snd

/-- An exit may only undo the latest enter of its thread. -/
def Nested (l : List (ObjectId × RecordId)) : Operation → Prop
  | .exit o r => ∃ rest, l = (o, r) :: rest
  | .enter _ _ | .visit _ => True

/-- An exit may only undo the latest enter of its object by its thread. -/
def InReverse (l : List (ObjectId × RecordId)) : Operation → Prop
  | .exit o r => ∃ rest, recordsOf l o = r :: rest
  | .enter _ _ | .visit _ => True

instance (l : List (ObjectId × RecordId)) (op : Operation) : Decidable (Nested l op) :=
  match op with
  | .exit _ _ => decidable_of_iff _ List.head?_eq_some_iff
  | .enter _ _ | .visit _ => isTrue trivial

instance (l : List (ObjectId × RecordId)) (op : Operation) : Decidable (InReverse l op) :=
  match op with
  | .exit _ _ => decidable_of_iff _ List.head?_eq_some_iff
  | .enter _ _ | .visit _ => isTrue trivial

section

variable {l : List (ObjectId × RecordId)} {o p : ObjectId} {r : RecordId} {rest : List RecordId}

/-- A pending enter of an object is the latest one of the object. -/
@[simp] lemma recordsOf_cons_self : recordsOf ((o, r) :: l) o = r :: recordsOf l o := by
  simp [recordsOf]

/-- A pending enter of another object does not count. -/
lemma recordsOf_cons_of_ne (ne : p ≠ o) : recordsOf ((o, r) :: l) p = recordsOf l p := by
  simp [recordsOf, ne.symm]

/-- A record is used for an object if an enter of the object with it is pending. -/
lemma mem_recordsOf : r ∈ recordsOf l o ↔ (o, r) ∈ l := by
  simp [recordsOf]

/-- Taking back an enter of another object leaves those of this object alone. -/
lemma recordsOf_erase_of_ne (ne : p ≠ o) : recordsOf (l.erase (o, r)) p = recordsOf l p := by
  induction l with
  | nil => rfl
  | cons x l ih =>
    by_cases eq : x = (o, r)
    · rw [eq, List.erase_cons_head, recordsOf_cons_of_ne ne]
    · rw [List.erase_cons_tail (by simpa using eq)]
      obtain ⟨o', r'⟩ := x
      by_cases here : p = o'
      · rw [← here, recordsOf_cons_self, recordsOf_cons_self, ih]
      · rw [recordsOf_cons_of_ne here, recordsOf_cons_of_ne here, ih]

/-- The latest enter of a thread is also the latest one of its object. -/
lemma Nested.inReverse {op : Operation} (h : Nested l op) : InReverse l op := by
  cases op with
  | exit o r =>
    obtain ⟨rest, rfl⟩ := h
    exact ⟨_, recordsOf_cons_self⟩
  | enter _ _ | visit _ => trivial

/-- An object has no more pending enters than all objects together. -/
lemma length_recordsOf_le : (recordsOf l o).length ≤ l.length := by
  rw [recordsOf, List.length_map]
  exact List.length_filter_le ..

/-- Taking back the latest enter of an object. -/
lemma recordsOf_erase (newest : recordsOf l o = r :: rest) :
    recordsOf (l.erase (o, r)) o = rest := by
  induction l with
  | nil => cases newest
  | cons x l ih =>
    obtain ⟨o', r'⟩ := x
    by_cases here : o = o'
    · subst here
      rw [recordsOf_cons_self] at newest
      obtain ⟨rfl, rfl⟩ := List.cons.inj newest
      rw [List.erase_cons_head]
    · rw [recordsOf_cons_of_ne here] at newest
      have ne : ((o', r') == (o, r)) = false := by
        simpa using fun eq => absurd eq.symm here
      rw [List.erase_cons_tail (by rw [ne]; exact nofun), recordsOf_cons_of_ne here, ih newest]

end

/-- An event changes the pending enters of its object only. -/
lemma Event.recordsOf_pend {p : Pending} {e : Event} {u : ThreadId} {q : ObjectId}
    (other : e.object? ≠ some q) : recordsOf (e.pend p u) q = recordsOf (p u) q := by
  have update {t l} (same : recordsOf l q = recordsOf (p t) q) :
      recordsOf (Function.update p t l u) q = recordsOf (p u) q := by
    rw [Function.update_apply]
    split
    next eq => rw [same, eq]
    next => rfl
  cases e with
  | entered t o r | waits t o r =>
    exact update (recordsOf_cons_of_ne fun eq => other (congrArg some eq.symm))
  | exited t o r => exact update (recordsOf_erase_of_ne fun eq => other (congrArg some eq.symm))
  | rejected _ _ _ | detached _ => rfl

namespace Event.Of

variable {p : Pending} {e : Event} {t u : ThreadId} {op : Operation}

/-- An event changes the pending enters of its thread only. -/
lemma pend_of_ne (h : e.Of t op) (ne : u ≠ t) : e.pend p u = p u := by
  cases h with
  | rejected => rfl
  | entered | waits | exited => exact Function.update_of_ne ne ..

/-- An operation makes no enter pending but its own. -/
lemma mem_pend (h : e.Of t op) {x : ObjectId × RecordId} (mem : x ∈ e.pend p u) :
    x ∈ p u ∨ op = .enter x.1 x.2 := by
  cases h with
  | entered | waits =>
    simp only [pend, Function.update_apply] at mem
    split at mem
    next eq =>
      rcases List.mem_cons.1 mem with rfl | mem
      · exact .inr rfl
      · exact .inl (eq ▸ mem)
    next => exact .inl mem
  | exited =>
    simp only [pend, Function.update_apply] at mem
    split at mem
    next eq => exact .inl (eq ▸ List.mem_of_mem_erase mem)
    next => exact .inl mem
  | rejected => exact .inl mem

end Event.Of

section

variable {α : Type} {key : RecordId → α} {p : Pending} {e : Event} {t u : ThreadId} {o : ObjectId}
  {r : RecordId}

/-- No two pending enters have the same record, as told by `key`. -/
structure Distinct (key : RecordId → α) (p : Pending) : Prop where
  nodup : ∀ t, (p t).Nodup
  inj : ∀ t u x y, x ∈ p t → y ∈ p u → key x.2 = key y.2 → t = u ∧ x = y

/-- An enter may only use a record that no pending enter uses. -/
def Unused (key : RecordId → α) (p : Pending) : Operation → Prop
  | .enter _ r => ∀ u x, x ∈ p u → key x.2 ≠ key r
  | .exit _ _ | .visit _ => True

/-- Only threads that a history tells of have pending enters. -/
lemma thread_of_pending {h : List Event} {x : ObjectId × RecordId} (mem : x ∈ pending h u) :
    u ∈ h.map Event.thread := by
  induction h with
  | nil => cases mem
  | cons e h ih =>
    rw [List.map_cons, List.mem_cons]
    by_cases eq : u = e.thread
    · exact .inl eq
    · refine .inr (ih ?_)
      change x ∈ e.pend (pending h) u at mem
      cases e with
      | entered t o r | waits t o r | exited t o r =>
        rwa [Event.pend, Function.update_of_ne (show u ≠ t from eq)] at mem
      | rejected _ _ _ | detached _ => exact mem

instance [DecidableEq α] (h : List Event) (op : Operation) :
    Decidable (Unused key (pending h) op) :=
  match op with
  | .enter _ r =>
    decidable_of_iff (∀ u ∈ h.map Event.thread, ∀ x ∈ pending h u, key x.2 ≠ key r)
      ⟨fun unused u x mem => unused u (thread_of_pending mem) x mem,
        fun unused u _ x mem => unused u x mem⟩
  | .exit _ _ | .visit _ => isTrue trivial

/-- Every operation keeps the records of pending enters apart. -/
lemma Distinct.pend {op : Operation} (h : Distinct key p) (of : e.Of t op)
    (new : Unused key p op) : Distinct key (e.pend p) := by
  have push {o r} (new : Unused key p (.enter o r)) :
      Distinct key (Function.update p t ((o, r) :: p t)) := by
    have mem {u x} (hx : x ∈ Function.update p t ((o, r) :: p t) u) :
        u = t ∧ x = (o, r) ∨ x ∈ p u := by
      rw [Function.update_apply] at hx
      split at hx
      next eq => exact (List.mem_cons.1 hx).imp (fun hx => ⟨eq, hx⟩) fun hx => eq ▸ hx
      next => exact .inr hx
    refine ⟨fun u => ?_, fun u u' x y hx hy eq => ?_⟩
    · rw [Function.update_apply]
      split
      · exact List.nodup_cons.2 ⟨fun old => new t _ old rfl, h.nodup t⟩
      · exact h.nodup u
    · rcases mem hx with ⟨eu, ex⟩ | old <;> rcases mem hy with ⟨eu', ey⟩ | old'
      · exact ⟨eu.trans eu'.symm, ex.trans ey.symm⟩
      · exact absurd (eq.symm.trans (by rw [ex])) (new u' y old')
      · exact absurd (eq.trans (by rw [ey])) (new u x old)
      · exact h.inj u u' x y old old' eq
  cases of with
  | entered | waits => exact push new
  | @exited o r =>
    have mem {u x} (hx : x ∈ Event.pend p (.exited t o r) u) : x ∈ p u :=
      (Event.Of.exited.mem_pend hx).resolve_right nofun
    refine ⟨fun u => ?_, fun u u' x y hx hy => h.inj u u' x y (mem hx) (mem hy)⟩
    rw [Event.pend, Function.update_apply]
    split
    · exact (h.nodup t).erase _
    · exact h.nodup u
  | rejected => exact h

/-- A record whose address nobody uses is not used itself. -/
lemma Unused.id {op : Operation} (h : Unused key p op) : Unused (fun r => r) p op := by
  cases op with
  | enter o r => exact fun u x mem eq => h u x mem (congrArg key eq)
  | exit _ _ | visit _ => trivial

/-- There are no more pending enters of a thread than addresses. -/
lemma Distinct.length_le {address : RecordId → UInt64} (h : Distinct address p) (t : ThreadId) :
    (p t).length ≤ 2 ^ 64 := by
  have nodup : ((p t).map fun x => address x.2).Nodup :=
    (h.nodup t).map_on fun x hx y hy eq => (h.inj t t x y hx hy eq).2
  have le := (nodup.map (f := UInt64.toFin) fun a b => by simp [UInt64.toFin_inj]).length_le_card
  simpa [UInt64.size] using le

end

/-- The lock of an object and the pending enters of the object agree. -/
def Balanced (p : Pending) (o : ObjectId) : RecursiveLock → Prop
  | .unlocked => ∀ u, recordsOf (p u) o = []
  | .owned t d q => 0 < d ∧ (recordsOf (p t) o).length = d ∧ t ∉ q ∧ q.Nodup ∧
      (∀ u ∈ q, (recordsOf (p u) o).length = 1) ∧
      ∀ u, u ≠ t → u ∉ q → recordsOf (p u) o = []

namespace Balanced

variable {p : Pending} {L L' : Locks} {x y : RecursiveLock} {t u : ThreadId} {o : ObjectId}
  {r : RecordId}

/-- The lock of an object depends on the pending enters of the object only. -/
lemma congr {p' : Pending} (h : Balanced p o x)
    (same : ∀ u, recordsOf (p' u) o = recordsOf (p u) o) : Balanced p' o x := by
  cases x with
  | unlocked => exact fun u => (same u).trans (h u)
  | owned t d q =>
    obtain ⟨pos, depth, out, nodup, waits, none⟩ := h
    refine ⟨pos, by rw [same, depth], out, nodup, fun u hu => ?_, fun u ne out => ?_⟩
    · rw [same, waits u hu]
    · rw [same, none u ne out]

/-- The depth of a lock is the number of pending enters of its owner. -/
lemma depth {d : Nat} {q : List ThreadId} (h : Balanced p o x) (eq : x = .owned t d q) :
    (recordsOf (p t) o).length = d := by
  subst eq
  exact h.2.1

/-- A thread that waits has a pending enter. -/
lemma pending (h : Balanced p o x) (waits : t ∈ x.waiting) : p t ≠ [] := by
  intro none
  cases x with
  | unlocked => cases waits
  | owned u d q =>
    have one := h.2.2.2.2.1 t waits
    rw [none] at one
    cases one

/-- A thread with a pending enter owns the lock or waits for it. -/
lemma owner (h : Balanced p o x) (mem : r ∈ recordsOf (p t) o) (awake : t ∉ x.waiting) :
    ∃ d q, x = .owned t d q := by
  cases x with
  | unlocked =>
    rw [h t] at mem
    cases mem
  | owned u d q =>
    obtain ⟨-, -, -, -, -, none⟩ := h
    by_cases eq : t = u
    · exact ⟨d, q, eq ▸ rfl⟩
    · rw [none t eq awake] at mem
      cases mem

/-- An enter of the lock is one more pending enter. -/
lemma enter (h : Balanced p o x) (enters : x.enter t = some y) :
    Balanced (Function.update p t ((o, r) :: p t)) o y := by
  cases x with
  | unlocked =>
    obtain rfl := Option.some.inj enters
    refine ⟨Nat.one_pos, ?_, nofun, List.nodup_nil, nofun, fun u ne _ => ?_⟩
    · rw [Function.update_self, recordsOf_cons_self, h t, List.length_singleton]
    · rw [Function.update_of_ne ne, h u]
  | owned u d q =>
    simp only [RecursiveLock.enter] at enters
    split at enters
    next eq =>
      subst eq
      obtain rfl := Option.some.inj enters
      obtain ⟨pos, depth, out, nodup, waits, none⟩ := h
      refine ⟨Nat.succ_pos _, ?_, out, nodup, fun v hv => ?_, fun v ne hv => ?_⟩
      · rw [Function.update_self, recordsOf_cons_self, List.length_cons, depth]
      · rw [Function.update_of_ne (ne_of_mem_of_not_mem hv out), waits v hv]
      · rw [Function.update_of_ne ne, none v ne hv]
    next => cases enters

/-- A wait for the lock is one more pending enter. -/
lemma wait (h : Balanced p o x) (waits : x.wait t = some y) :
    Balanced (Function.update p t ((o, r) :: p t)) o y := by
  cases x with
  | unlocked => cases waits
  | owned u d q =>
    simp only [RecursiveLock.wait] at waits
    split at waits
    next => cases waits
    next new =>
      obtain rfl := Option.some.inj waits
      rw [not_or] at new
      obtain ⟨other, new⟩ := new
      obtain ⟨pos, depth, out, nodup, queued, none⟩ := h
      refine ⟨pos, ?_, ?_, ?_, fun v hv => ?_, fun v ne hv => ?_⟩
      · rw [Function.update_of_ne other, depth]
      · simpa [out] using other
      · exact List.Nodup.append nodup (List.nodup_singleton t) (by simpa using new)
      · by_cases eq : v = t
        · rw [eq, Function.update_self, recordsOf_cons_self, none t (Ne.symm other) new,
            List.length_singleton]
        · rw [Function.update_of_ne eq]
          exact queued v (by simpa [eq] using hv)
      · rw [List.mem_append, not_or, List.mem_singleton] at hv
        rw [Function.update_of_ne hv.2, none v ne hv.1]

/-- An exit of the lock takes back the latest pending enter. -/
lemma exit {rest : List RecordId} (h : Balanced p o x) (exits : x.exit t = some y)
    (newest : recordsOf (p t) o = r :: rest) :
    Balanced (Function.update p t ((p t).erase (o, r))) o y := by
  have taken : recordsOf (Function.update p t ((p t).erase (o, r)) t) o = rest := by
    rw [Function.update_self, recordsOf_erase newest]
  cases x with
  | unlocked => cases exits
  | owned u d q =>
    simp only [RecursiveLock.exit] at exits
    split at exits
    next eq =>
      subst eq
      obtain ⟨pos, depth, out, nodup, waits, none⟩ := h
      rw [newest, List.length_cons] at depth
      -- An enter that is not a further one is the only one.
      have only {n : Nat} (depth : rest.length + 1 = n) (last : ∀ k, n = k + 2 → False) :
          rest = [] := by
        cases rest with
        | nil => rfl
        | cons r rest => exact (last _ depth.symm).elim
      split at exits
      next d q =>
        obtain rfl := Option.some.inj exits
        refine ⟨Nat.succ_pos _, ?_, out, nodup, fun v hv => ?_, fun v ne hv => ?_⟩
        · rw [taken]
          exact Nat.succ.inj depth
        · rw [Function.update_of_ne (ne_of_mem_of_not_mem hv out), waits v hv]
        · rw [Function.update_of_ne ne, none v ne hv]
      next d v q last =>
        obtain rfl := Option.some.inj exits
        obtain rfl := only depth last
        rw [List.nodup_cons] at nodup
        rw [List.mem_cons, not_or] at out
        refine ⟨Nat.one_pos, ?_, nodup.1, nodup.2, fun w hw => ?_, fun w ne hw => ?_⟩
        · rw [Function.update_of_ne (Ne.symm out.1), waits v List.mem_cons_self]
        · rw [Function.update_of_ne (ne_of_mem_of_not_mem hw out.2),
            waits w (List.mem_cons_of_mem v hw)]
        · by_cases eq : w = u
          · rw [eq, taken]
          · rw [Function.update_of_ne eq, none w eq (by simp [ne, hw])]
      next d last =>
        obtain rfl := Option.some.inj exits
        obtain rfl := only depth last
        intro w
        by_cases eq : w = u
        · rw [eq, taken]
        · rw [Function.update_of_ne eq, none w eq List.not_mem_nil]
    next => cases exits

/-- The lock of an object changes, and the pending enters of the object with it. -/
lemma update {e : Event} (h : ∀ q, Balanced p q (L q)) (about : e.object? = some o)
    (here : Balanced (e.pend p) o y) (q : ObjectId) :
    Balanced (e.pend p) q (Function.update L o y q) := by
  by_cases eq : q = o
  · subst eq
    rwa [Function.update_self]
  · rw [Function.update_of_ne eq]
    refine (h q).congr fun u => e.recordsOf_pend ?_
    rw [about]
    exact fun eq' => eq (Option.some.inj eq').symm

/-- What the locks allow keeps the pending enters in agreement with them. -/
lemma apply {e : Event} (h : ∀ o, Balanced p o (L o)) (applies : e.apply L = some L')
    (newest : ∀ t o r, e = .exited t o r → ∃ rest, recordsOf (p t) o = r :: rest) :
    ∀ o, Balanced (e.pend p) o (L' o) := by
  cases e with
  | entered t o r =>
    obtain ⟨y, enters, rfl⟩ := Option.map_eq_some_iff.1 applies
    exact update h rfl ((h o).enter enters)
  | waits t o r =>
    obtain ⟨y, waits, rfl⟩ := Option.map_eq_some_iff.1 applies
    exact update h rfl ((h o).wait waits)
  | exited t o r =>
    obtain ⟨y, exits, rfl⟩ := Option.map_eq_some_iff.1 applies
    obtain ⟨rest, newest⟩ := newest t o r rfl
    exact update h rfl ((h o).exit exits newest)
  | rejected t o r => cases applies
  | detached t =>
    obtain rfl := Option.some.inj applies
    exact h

end Balanced

/-- An event makes no thread wait but the one that starts to. -/
lemma Event.waiting_apply {L L' : Locks} {e : Event} (applies : e.apply L = some L') {t : ThreadId}
    {o : ObjectId} (waits : t ∈ (L' o).waiting) :
    t ∈ (L o).waiting ∨ ∃ r, e = .waits t o r := by
  have update {q : ObjectId} {y : RecursiveLock}
      (here : t ∈ y.waiting → t ∈ (L q).waiting ∨ ∃ r, e = .waits t q r)
      (waits : t ∈ (Function.update L q y o).waiting) :
      t ∈ (L o).waiting ∨ ∃ r, e = .waits t o r := by
    by_cases eq : o = q
    · subst eq
      rw [Function.update_self] at waits
      exact here waits
    · rw [Function.update_of_ne eq] at waits
      exact .inl waits
  cases e with
  | entered u q r =>
    obtain ⟨y, enters, rfl⟩ := Option.map_eq_some_iff.1 applies
    refine update (fun hy => .inl ?_) waits
    rwa [RecursiveLock.waiting_enter enters] at hy
  | waits u q r =>
    obtain ⟨y, queues, rfl⟩ := Option.map_eq_some_iff.1 applies
    refine update (fun hy => ?_) waits
    rw [RecursiveLock.waiting_wait queues, List.mem_append, List.mem_singleton] at hy
    rcases hy with hy | rfl
    · exact .inl hy
    · exact .inr ⟨r, rfl⟩
  | exited u q r =>
    obtain ⟨y, exits, rfl⟩ := Option.map_eq_some_iff.1 applies
    exact update (fun hy => .inl ((RecursiveLock.waiting_exit exits).subset hy)) waits
  | rejected u q r => cases applies
  | detached u =>
    obtain rfl := Option.some.inj applies
    exact .inl waits

end ObjectLocks
