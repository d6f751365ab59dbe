/-!
# Lock stacks

Every thread keeps two small stacks: the objects that it has fast-locked and the lock records that
it has stack-locked with. A stack has eight slots and a count of the slots in use. What lies in the
slots above that count is left over from earlier use and never read.
-/

namespace ObjectLocks

/-- A stack of at most eight entries in a fixed array of slots. -/
structure LockStack (α : Type) where
  slots : Vector α 8
  top : Nat
  top_le : top ≤ 8

namespace LockStack

variable {α : Type}

def capacity : Nat := 8

def empty [Inhabited α] : LockStack α := ⟨Vector.replicate 8 default, 0, by decide⟩

instance [Inhabited α] : Inhabited (LockStack α) := ⟨empty⟩

/-- The entries, bottom first. -/
def toList (s : LockStack α) : List α := s.slots.toList.take s.top

def length (s : LockStack α) : Nat := s.top

def isEmpty (s : LockStack α) : Bool := s.top == 0

def isFull (s : LockStack α) : Bool := s.top == capacity

def top? (s : LockStack α) : Option α := if s.top = 0 then none else s.slots[s.top - 1]?

def bottom? (s : LockStack α) : Option α := if s.top = 0 then none else s.slots[0]?

/-- Adds an entry, unless the stack is full. -/
def push? (s : LockStack α) (e : α) : Option (LockStack α) :=
  if h : s.top < 8 then some ⟨s.slots.set s.top e h, s.top + 1, h⟩ else none

variable [DecidableEq α]

/-- Looks for `e` twice in a row, the upper of the two at `i` or below. The search ends at the
topmost `e`, since entries of one lock form one run. -/
def repeatsBelow (s : LockStack α) (e : α) : Nat → Bool
  | 0 => false
  | i + 1 =>
    if s.slots[i]? = some e ∧ s.slots[i + 1]? = some e then true
    else if s.slots[i + 1]? = some e then false
    else s.repeatsBelow e i

/-- Whether the topmost `e` has another `e` directly below it. -/
def isRecursive (s : LockStack α) (e : α) : Bool := s.repeatsBelow e (s.top - 1)

/-- Adds `e` once more if it is the top entry and there is room. -/
def tryRecursiveEnter (s : LockStack α) (e : α) : Option (LockStack α) :=
  if h : s.top < 8 then
    if s.top ≠ 0 ∧ s.slots[s.top - 1]? = some e then
      some ⟨s.slots.set s.top e h, s.top + 1, h⟩
    else none
  else none

/-- Drops the top entry if it and the one below it are both `e`. -/
def tryRecursiveExit (s : LockStack α) (e : α) : Option (LockStack α) :=
  if 2 ≤ s.top ∧ s.slots[s.top - 1]? = some e ∧ s.slots[s.top - 2]? = some e then
    some ⟨s.slots, s.top - 1, Nat.le_trans (Nat.sub_le _ _) s.top_le⟩
  else none

/-- Moves the entries other than `e` among the `n` slots from `i` on down to the slots from `kept`
on. Answers the slots and the number of the slots kept so far. -/
def compact (e : α) (slots : Vector α 8) (kept i : Nat) : Nat → Vector α 8 × Nat
  | 0 => (slots, kept)
  | n + 1 =>
    match slots[i]? with
    | none => (slots, kept)
    | some a =>
      if a = e then compact e slots kept (i + 1) n
      else compact e (slots.setIfInBounds kept a) (kept + 1) (i + 1) n

/-- Compaction keeps no more entries than it reads. -/
theorem compact_le (e : α) (slots : Vector α 8) (kept i n : Nat) :
    (compact e slots kept i n).2 ≤ kept + n := by
  induction n generalizing slots kept i with
  | zero => exact Nat.le_refl _
  | succ n ih =>
    unfold compact
    split
    · exact Nat.le_add_right _ _
    · split
      · exact Nat.le_trans (ih _ _ _) (Nat.le_succ _)
      · exact Nat.le_trans (ih _ _ _) (by omega)

/-- Drops every occurrence of `e`; the other entries close up in their order. -/
def remove (s : LockStack α) (e : α) : LockStack α :=
  let packed := compact e s.slots 0 0 s.top
  ⟨packed.1, packed.2, Nat.le_trans (compact_le e s.slots 0 0 s.top) (by have := s.top_le; omega)⟩

def count (s : LockStack α) (e : α) : Nat :=
  (List.range s.top).countP fun i => s.slots[i]? == some e

def contains (s : LockStack α) (e : α) : Bool :=
  (List.range s.top).any fun i => s.slots[i]? == some e

end LockStack

end ObjectLocks
