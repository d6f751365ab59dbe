import Mathlib.Algebra.Group.Nat.Defs
import ObjectLocks.Monitor

/-!
# Monitor operations

What entering, exiting and handing off a monitor do to it, as one lemma each. The count of waiting
threads and the queue are two places for one fact; they agree from the start and stay so.
-/

namespace ObjectLocks.Monitor

variable {x y : Monitor} {t : ThreadId}

/-- Two monitors that differ in nothing on which the ownership of the lock depends. -/
structure SameLock (x y : Monitor) : Prop where
  object : x.object = y.object
  owner : x.owner = y.owner
  recursions : x.recursions = y.recursions
  queued : x.queued = y.queued
  queue : x.queue = y.queue

/-- A waiting enter is counted by its monitor, which changes nothing else. -/
lemma sameLock_contend (x : Monitor) : x.contend.SameLock x := ⟨rfl, rfl, rfl, rfl, rfl⟩

/-- So does a hash in the header that the monitor keeps. -/
lemma sameLock_header (x : Monitor) (w : LockWord) :
    { x with header := w }.SameLock x := ⟨rfl, rfl, rfl, rfl, rfl⟩

/-- An enter without waiting is one more by the owner, or the first of a free monitor. -/
lemma tryEnter_eq_some (h : x.tryEnter t = some y) :
    (x.owner = .thread t ∧ y = { x with recursions := x.recursions + 1 }) ∨
      (x.owner = .nobody ∧ x.queued = 0 ∧ y = { x with owner := .thread t }) := by
  unfold tryEnter at h
  split at h
  next own => exact .inl ⟨own, (Option.some.inj h).symm⟩
  next =>
    split at h
    next free => exact .inr ⟨free.2, free.1, (Option.some.inj h).symm⟩
    next => cases h

/-- An enter has to wait for another owner, or for the threads that wait already. -/
lemma tryEnter_eq_none (h : x.tryEnter t = none) :
    x.owner ≠ .thread t ∧ (x.owner = .nobody → x.queued ≠ 0) := by
  unfold tryEnter at h
  split at h
  next => cases h
  next own =>
    split at h
    next => cases h
    next free => exact ⟨own, fun h₁ h₂ => free ⟨h₂, h₁⟩⟩

/-- An exit by the owner takes back one further enter, or hands the monitor off. -/
lemma exit?_eq_some (h : x.exit? t = some y) :
    x.owner = .thread t ∧
      ((x.recursions = 0 ∧ y = { x with previousOwner := some t }.handOff) ∨
        (x.recursions ≠ 0 ∧ y = { x with recursions := x.recursions - 1 })) := by
  unfold exit? at h
  split at h
  next own =>
    refine ⟨own, ?_⟩
    split at h
    next rec => exact .inl ⟨rec, (Option.some.inj h).symm⟩
    next rec => exact .inr ⟨rec, (Option.some.inj h).symm⟩
  next => cases h

/-- An exit by anyone but the owner fails. -/
lemma exit?_eq_none (h : x.exit? t = none) : x.owner ≠ .thread t := by
  intro own
  unfold exit? at h
  rw [if_pos own] at h
  split at h <;> cases h

/-- A monitor that is handed off stays the one of its object. -/
@[simp] lemma handOff_object (x : Monitor) : x.handOff.object = x.object := by
  unfold handOff
  split
  · rfl
  · split <;> rfl

/-- A monitor that is handed off has as many further enters as before. -/
@[simp] lemma handOff_recursions (x : Monitor) : x.handOff.recursions = x.recursions := by
  unfold handOff
  split
  · rfl
  · split <;> rfl

/-- A monitor that is handed off has no anonymous owner. -/
lemma handOff_owner_ne (x : Monitor) : x.handOff.owner ≠ .anonymous := by
  unfold handOff
  split
  · exact nofun
  · split <;> exact nofun

/-- No exit and no enter makes the owner anonymous. -/
lemma exit?_owner_ne (h : x.exit? t = some y) : y.owner ≠ .anonymous := by
  obtain ⟨own, ⟨-, rfl⟩ | ⟨-, rfl⟩⟩ := exit?_eq_some h
  · exact handOff_owner_ne _
  · simp [own]

/-- An exit leaves the monitor to its object. -/
lemma exit?_object (h : x.exit? t = some y) : y.object = x.object := by
  obtain ⟨-, ⟨-, rfl⟩ | ⟨-, rfl⟩⟩ := exit?_eq_some h
  · simp
  · rfl

/-- An enter leaves the monitor to its object. -/
lemma tryEnter_object (h : x.tryEnter t = some y) : y.object = x.object := by
  obtain ⟨-, rfl⟩ | ⟨-, -, rfl⟩ := tryEnter_eq_some h <;> rfl

/-- An enter makes its thread the owner. -/
lemma tryEnter_owner (h : x.tryEnter t = some y) : y.owner = .thread t := by
  obtain ⟨own, rfl⟩ | ⟨-, -, rfl⟩ := tryEnter_eq_some h
  · exact own
  · rfl

/-- A monitor that is owned anonymously is not entered. -/
lemma tryEnter_owner_ne (h : x.tryEnter t = some y) : x.owner ≠ .anonymous := by
  obtain ⟨own, -⟩ | ⟨own, -⟩ := tryEnter_eq_some h <;> simp [own]

/-- A monitor for which no thread waits is handed to nobody. -/
lemma handOff_nil (h : x.queue = []) : x.handOff = { x with owner := .nobody } := by
  unfold handOff
  rw [h]
  split <;> rfl

/-- A monitor is handed to the thread that has waited longest. -/
lemma handOff_cons {u : ThreadId} {rest : List ThreadId} (h : x.queue = u :: rest)
    (counted : x.queued = x.queue.length) :
    x.handOff = { x with owner := .thread u, queued := rest.length, queue := rest } := by
  unfold handOff
  rw [if_neg (by simp [counted, h]), h]
  simp [counted, h]

/-- The count wraps only beyond its word. -/
lemma toNat_recursions_add_one {n : UInt64} (room : n.toNat + 1 < 2 ^ 64) :
    (n + 1).toNat = n.toNat + 1 := by
  rw [UInt64.toNat_add, UInt64.toNat_one, Nat.mod_eq_of_lt room]

/-- An enter that is counted can be taken back. -/
lemma toNat_recursions_sub_one {n : UInt64} (pos : n ≠ 0) : (n - 1).toNat + 1 = n.toNat := by
  have pos' : 0 < n.toNat := Nat.pos_of_ne_zero fun zero => pos (UInt64.toNat_inj.1 zero)
  rw [UInt64.toNat_sub_of_le n 1 (UInt64.le_iff_toNat_le.2 pos'), UInt64.toNat_one]
  exact Nat.sub_add_cancel pos'

/-- The ways in which an exit by the owner ends. -/
inductive Exits (t : ThreadId) (x y : Monitor) : Prop where
  | again {n} :
    x.recursions.toNat = n + 1 →
    y.owner = .thread t →
    y.recursions.toNat = n →
    y.queued = x.queued →
    y.queue = x.queue →
    Exits t x y
  | handsOff {u q} :
    x.recursions = 0 →
    x.queue = u :: q →
    y.owner = .thread u →
    y.recursions = 0 →
    y.queued = q.length →
    y.queue = q →
    Exits t x y
  | frees :
    x.recursions = 0 →
    x.queue = [] →
    y.owner = .nobody →
    y.recursions = 0 →
    y.queued = 0 →
    y.queue = [] →
    Exits t x y

/-- An exit by the owner takes back an enter, frees the monitor or hands it to the head of the
queue. -/
lemma exit?_exits (h : x.exit? t = some y) (counted : x.queued = x.queue.length) :
    Exits t x y := by
  obtain ⟨own, ⟨zero, rfl⟩ | ⟨pos, rfl⟩⟩ := exit?_eq_some h
  · by_cases queue : x.queue = []
    · rw [handOff_nil (by exact queue)]
      exact .frees zero queue rfl zero (by rw [counted, queue]; rfl) queue
    · obtain ⟨u, rest, queue⟩ := List.exists_cons_of_ne_nil queue
      rw [handOff_cons (by exact queue) (by exact counted)]
      exact .handsOff zero queue rfl zero rfl rfl
  · exact .again (toNat_recursions_sub_one pos).symm own rfl rfl rfl

end ObjectLocks.Monitor
