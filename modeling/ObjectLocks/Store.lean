/-!
# Numbered stores

Objects, lock records, monitors, threads and workers are known by number. A store maps every number
to a value: the default one until another is written. Writing one number changes no other.
-/

namespace ObjectLocks

/-- A map from numbers to values, the default value where nothing was written. -/
structure Store (α : Type) where
  cells : Array α
deriving Inhabited

namespace Store

variable {α : Type}

/-- The store in which nothing was written. -/
def empty : Store α := ⟨#[]⟩

/-- The first number that has not been written. -/
def size (s : Store α) : Nat := s.cells.size

/-- Writes the first unwritten number. -/
def push (s : Store α) (a : α) : Store α := ⟨s.cells.push a⟩

variable [Inhabited α]

/-- The value at a number. -/
def get (s : Store α) (i : Nat) : α := s.cells.getD i default

/-- Writes a number. The numbers in between are written with the default value. -/
def set (s : Store α) (i : Nat) (a : α) : Store α :=
  if i < s.cells.size then ⟨s.cells.setIfInBounds i a⟩
  else ⟨(s.cells ++ Array.replicate (i - s.cells.size) default).push a⟩

/-- Changes the value at a number. -/
def modify (s : Store α) (i : Nat) (f : α → α) : Store α := s.set i (f (s.get i))

/-- A number has the value that was written last. -/
theorem get_set_self (s : Store α) (i : Nat) (a : α) : (s.set i a).get i = a := by
  unfold set get
  split
  · simp [*]
  · have h : i = (s.cells ++ Array.replicate (i - s.cells.size) default).size := by simp; omega
    simp only [Array.getD_eq_getD_getElem?]
    rw [Array.getElem?_push, if_pos h]
    rfl

/-- Writing a number leaves all others alone. -/
theorem get_set_of_ne (s : Store α) {i j : Nat} (a : α) (h : j ≠ i) :
    (s.set i a).get j = s.get j := by
  unfold set get
  split
  · simp [Array.getD_eq_getD_getElem?, h.symm]
  · have hs : i = (s.cells ++ Array.replicate (i - s.cells.size) default).size := by simp; omega
    simp only [Array.getD_eq_getD_getElem?]
    rw [Array.getElem?_push, if_neg (by omega)]
    by_cases hj : j < s.cells.size
    · simp [Array.getElem?_append_left hj]
    · simp only [Array.getElem?_append_right (Nat.le_of_not_lt hj), Array.getElem?_replicate]
      rw [Array.getElem?_eq_none (Nat.le_of_not_lt hj)]
      split <;> rfl

/-- A pushed value is found at the first number that was unwritten. -/
theorem get_push_size (s : Store α) (a : α) : (s.push a).get s.size = a := by
  simp [push, get, size, Array.getD_eq_getD_getElem?]

/-- Pushing a value leaves all other numbers alone. -/
theorem get_push_of_ne (s : Store α) {i : Nat} (a : α) (h : i ≠ s.size) :
    (s.push a).get i = s.get i := by
  have : i ≠ s.cells.size := h
  simp [push, get, Array.getD_eq_getD_getElem?, Array.getElem?_push, this]

end Store

end ObjectLocks
