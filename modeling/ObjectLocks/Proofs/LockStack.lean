import Mathlib.Data.List.Basic
import Mathlib.Data.List.Count
import Mathlib.Data.Option.Basic
import Mathlib.Tactic.Lemma
import ObjectLocks.LockStack

/-!
# Lock stacks as lists

A lock stack behaves as the list of its entries, bottom first; what lies in the slots above is never
seen. Each operation is described by what it does to that list. The slots are unfolded here only.
-/

namespace ObjectLocks.LockStack

variable {α : Type} {s s' : LockStack α} {e : α}

/-- A lock stack has as many entries as slots in use. -/
@[simp] lemma length_toList (s : LockStack α) : s.toList.length = s.top := by
  have := s.top_le
  simp [toList, this]

/-- The empty lock stack has no entries. -/
@[simp] lemma toList_empty [Inhabited α] : (empty : LockStack α).toList = [] := rfl

/-- A slot in use holds the entry of its position. -/
lemma slots_getElem? {i : Nat} (lt : i < s.top) : s.slots[i]? = s.toList[i]? := by
  simp [toList, lt]

/-- The top slot holds the last entry. -/
lemma slots_top (ne : s.top ≠ 0) : s.slots[s.top - 1]? = some e ↔ ∃ l, s.toList = l ++ [e] := by
  rw [slots_getElem? (by omega), ← List.getLast?_eq_some_iff, List.getLast?_eq_getElem?,
    length_toList]

/-- The top entry is the last one. -/
lemma top?_eq_some : s.top? = some e ↔ ∃ l, s.toList = l ++ [e] := by
  unfold top?
  split
  next empty =>
    refine iff_of_false nofun fun ⟨l, eq⟩ => ?_
    have len := congrArg List.length eq
    simp [empty] at len
  next ne => exact slots_top ne

/-- The slots in use hold the entries in their order. -/
lemma map_slots (s : LockStack α) :
    (List.range s.top).map (fun i => s.slots[i]?) = s.toList.map some := by
  apply List.ext_getElem?
  intro i
  by_cases h : i < s.top
  · have h8 : i < 8 := Nat.lt_of_lt_of_le h s.top_le
    simp [h, h8, toList]
  · simp only [List.getElem?_map]
    rw [List.getElem?_eq_none (by simp; omega), List.getElem?_eq_none (by simp; omega)]
    rfl

/-- A lock stack is full once it has eight entries. -/
lemma isFull_iff : s.isFull = true ↔ s.toList.length = 8 := by
  simp [isFull, capacity]

/-- Setting the first free slot appends an entry. -/
lemma take_set_top (s : LockStack α) (e : α) (lt : s.top < 8) :
    (s.slots.set s.top e lt).toList.take (s.top + 1) = s.toList ++ [e] := by
  rw [Vector.toList_set, List.take_add_one, List.take_set_of_le (Nat.le_refl _)]
  simp [toList, lt]

/-- A push appends its entry, and there was room for it. -/
lemma push?_eq_some (h : s.push? e = some s') :
    s.toList.length < 8 ∧ s'.toList = s.toList ++ [e] := by
  unfold push? at h
  split at h
  next lt =>
    cases h
    exact ⟨by simpa using lt, take_set_top s e lt⟩
  next => cases h

/-- A push fails if there are eight entries. -/
lemma push?_eq_none (h : s.push? e = none) : s.toList.length = 8 := by
  unfold push? at h
  split at h
  next => cases h
  next ge =>
    have := s.top_le
    rw [length_toList]
    omega

section

variable [DecidableEq α]

/-- An enter is repeated if its object is the last entry and there is room. It appends the entry. -/
lemma tryRecursiveEnter_eq_some (h : s.tryRecursiveEnter e = some s') :
    s.toList.length < 8 ∧ (∃ l, s.toList = l ++ [e]) ∧ s'.toList = s.toList ++ [e] := by
  unfold tryRecursiveEnter at h
  split at h
  next lt =>
    split at h
    next top =>
      cases h
      exact ⟨by simpa using lt, (slots_top top.1).1 top.2, take_set_top s e lt⟩
    next => cases h
  next => cases h

/-- An enter that is repeated finds its object on top of a stack with room. -/
lemma top?_of_tryRecursiveEnter (again : s.tryRecursiveEnter e = some s') :
    s.isFull = false ∧ s.top? = some e := by
  obtain ⟨room, top, -⟩ := tryRecursiveEnter_eq_some again
  refine ⟨Bool.eq_false_iff.2 fun full => ?_, top?_eq_some.2 top⟩
  exact absurd (isFull_iff.1 full) (Nat.ne_of_lt room)

/-- An enter is not repeated if there is no room or another object is on top. -/
lemma tryRecursiveEnter_eq_none (none : s.tryRecursiveEnter e = none) :
    s.isFull = true ∨ s.top? ≠ some e := by
  have le := s.top_le
  unfold tryRecursiveEnter at none
  split at none
  next =>
    split at none
    next => cases none
    next other =>
      refine .inr fun top => other ?_
      unfold top? at top
      split at top
      next => cases top
      next pos => exact ⟨pos, top⟩
  next full =>
    refine .inl (beq_iff_eq.2 ?_)
    show s.top = 8
    omega

/-- An exit takes one level back if the last two entries are its object. It drops the last one. -/
lemma tryRecursiveExit_eq_some (h : s.tryRecursiveExit e = some s') :
    ∃ l, s.toList = l ++ [e, e] ∧ s'.toList = l ++ [e] := by
  unfold tryRecursiveExit at h
  split at h
  next top =>
    obtain ⟨le, h1, h2⟩ := top
    cases h
    obtain ⟨l, eq⟩ := (slots_top (by omega)).1 h1
    have len := congrArg List.length eq
    simp only [length_toList, List.length_append, List.length_singleton] at len
    rw [slots_getElem? (by omega), eq, List.getElem?_append_left (by omega)] at h2
    have last : l.getLast? = some e := by
      rw [List.getLast?_eq_getElem?, ← h2]
      congr 1
      omega
    obtain ⟨k, rfl⟩ := List.getLast?_eq_some_iff.1 last
    refine ⟨k, by simpa using eq, ?_⟩
    have low : s.slots.toList.take (s.top - 1) = s.toList.take (s.top - 1) := by
      simp [toList, List.take_take]
    show s.slots.toList.take (s.top - 1) = _
    rw [low, eq, len]
    simp [List.take_append, List.take_of_length_le]
  next => cases h

/-- An exit takes no level back if the last two entries are not both its object. -/
lemma tryRecursiveExit_eq_none (h : s.tryRecursiveExit e = none) (l : List α) :
    s.toList ≠ l ++ [e, e] := by
  intro eq
  have len := congrArg List.length eq
  simp only [length_toList, List.length_append, List.length_cons, List.length_nil] at len
  unfold tryRecursiveExit at h
  rw [if_pos] at h
  · cases h
  · refine ⟨by omega, ?_, ?_⟩
    · rw [slots_getElem? (by omega), eq]
      simp [len]
    · rw [slots_getElem? (by omega), eq]
      simp [len]

/-- What compaction has kept stands below, and what it has yet to look at is untouched: it writes no
slot above the one it reads. -/
lemma toList_compact (e : α) (slots : Vector α 8) {kept i n : Nat} (hk : kept ≤ i)
    (hi : i + n ≤ 8) :
    (compact e slots kept i n).1.toList.take (compact e slots kept i n).2 =
      slots.toList.take kept ++ ((slots.toList.drop i).take n).filter (· ≠ e) := by
  induction n generalizing slots kept i with
  | zero => simp [compact]
  | succ n ih =>
    have lt : i < slots.toList.length := by simp; omega
    have read : slots[i]? = some slots.toList[i] := by
      simp [Vector.getElem?_eq_getElem (show i < 8 by omega)]
    unfold compact
    rw [read, List.drop_eq_getElem_cons lt]
    simp only [List.take_succ_cons]
    split
    next h => rw [ih slots (by omega) (by omega), List.filter_cons_of_neg (by simp [h])]
    next h =>
      rw [ih _ (by omega) (by omega), List.filter_cons_of_pos (by simpa using h)]
      have lt' : kept < 8 := by omega
      rw [Vector.toList_setIfInBounds, List.drop_set_of_lt (by omega), List.take_add_one,
        List.take_set_of_le (Nat.le_refl _)]
      simp [lt']

/-- Removing an entry keeps all others in their order. -/
@[simp] lemma toList_remove (s : LockStack α) (e : α) :
    (s.remove e).toList = s.toList.filter (· ≠ e) := by
  have h := toList_compact e s.slots (Nat.le_refl 0) (n := s.top) (by have := s.top_le; omega)
  simpa [remove, toList] using h

/-- An entry is found if it is there. -/
lemma contains_iff (s : LockStack α) (e : α) : s.contains e = true ↔ e ∈ s.toList := by
  have h : some e ∈ s.toList.map some ↔ e ∈ s.toList := by simp
  rw [← h, ← map_slots]
  simp [contains]

/-- After a removal all other entries are found, and no more. -/
lemma contains_remove (s : LockStack α) (e a : α) :
    (s.remove e).contains a = true ↔ s.contains a = true ∧ a ≠ e := by
  rw [contains_iff, contains_iff, toList_remove, List.mem_filter, decide_eq_true_eq]

/-- Compaction writes back what it reads as long as it has dropped nothing. -/
lemma compact_of_absent (e : α) (slots : Vector α 8) {i n : Nat} (hi : i + n ≤ 8)
    (absent : ∀ j, i ≤ j → j < i + n → slots[j]? ≠ some e) :
    compact e slots i i n = (slots, i + n) := by
  induction n generalizing i with
  | zero => rfl
  | succ n ih =>
    have lt : i < 8 := by omega
    have read : slots[i]? = some slots[i] := Vector.getElem?_eq_getElem lt
    have kept : slots[i] ≠ e := fun eq => absent i (Nat.le_refl i) (by omega) (eq ▸ read)
    have same : slots.setIfInBounds i slots[i] = slots := by
      ext j lt'
      simp only [Vector.getElem_setIfInBounds]
      split
      next eq => subst eq; rfl
      next => rfl
    unfold compact
    simp only [read, if_neg kept, same]
    rw [ih (by omega) fun j le lt' => absent j (by omega) (by omega)]
    rw [Nat.add_right_comm, Nat.add_assoc]

/-- Removing what is not there changes nothing at all. -/
lemma remove_of_absent {s : LockStack α} {e : α} (absent : s.contains e = false) :
    s.remove e = s := by
  have le := s.top_le
  have packed : compact e s.slots 0 0 s.top = (s.slots, s.top) := by
    have out := compact_of_absent e s.slots (i := 0) (n := s.top) (by omega) fun j _ lt found => by
      have contained : s.contains e = true :=
        List.any_eq_true.2 ⟨j, List.mem_range.2 (by omega), beq_iff_eq.2 found⟩
      cases absent.symm.trans contained
    rwa [Nat.zero_add] at out
  unfold remove
  simp only [packed]

/-- An entry is counted as often as it is there. -/
lemma count_eq (s : LockStack α) (e : α) : s.count e = s.toList.count e := by
  have h := congrArg (List.count (some e)) (map_slots s)
  rw [List.count_map_of_injective _ _ (Option.some_injective α)] at h
  rw [← h, List.count, List.countP_map]
  rfl

end

end ObjectLocks.LockStack
