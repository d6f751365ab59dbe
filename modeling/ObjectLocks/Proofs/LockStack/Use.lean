import ObjectLocks.Proofs.LockStack

/-!
# Lock stacks in use

A lock stack is used by pushing entries, repeating and dropping the top entry, and removing all
entries of a lock. However it is used, it answers what a list of at most eight entries would answer.
So the slots above the entries may hold anything.
-/

namespace ObjectLocks.LockStack

variable {α : Type} {s : LockStack α} {e a : α} {l : List α}

/-- The entries equal to `e` stand together. -/
def Together (e : α) (l : List α) : Prop :=
  ∃ l₁ n l₂, l = l₁ ++ List.replicate n e ++ l₂ ∧ e ∉ l₁ ∧ e ∉ l₂

/-- The last `e` has another one directly before it. -/
def Doubled (e : α) (l : List α) : Prop := ∃ l₁ l₂, l = l₁ ++ [e, e] ++ l₂ ∧ e ∉ l₂

/-- Nothing is doubled among no entries. -/
lemma not_doubled_nil (e : α) : ¬ Doubled e [] := by
  rintro ⟨l₁, l₂, eq, -⟩
  have length := congrArg List.length eq
  simp at length

/-- An `e` at the end is the last one. -/
lemma doubled_concat_self : Doubled e (l ++ [e]) ↔ ∃ k, l = k ++ [e] := by
  constructor
  · rintro ⟨l₁, l₂, eq, absent⟩
    rcases List.eq_nil_or_concat l₂ with rfl | ⟨k, a, rfl⟩
    · have eq' : l ++ [e] = (l₁ ++ [e]) ++ [e] := by
        rw [eq]
        simp
      exact ⟨l₁, List.append_cancel_right eq'⟩
    · rw [List.concat_eq_append, ← List.append_assoc] at eq
      obtain ⟨-, last⟩ := List.append_inj' eq rfl
      obtain rfl := List.singleton_inj.1 last
      exact absurd (by simp) absent
  · rintro ⟨k, rfl⟩
    exact ⟨k, [], by simp, List.not_mem_nil⟩

/-- Another entry at the end makes no difference. -/
lemma doubled_concat_of_ne (ne : a ≠ e) : Doubled e (l ++ [a]) ↔ Doubled e l := by
  constructor
  · rintro ⟨l₁, l₂, eq, absent⟩
    rcases List.eq_nil_or_concat l₂ with rfl | ⟨k, b, rfl⟩
    · have last := congrArg List.getLast? eq
      simp [ne] at last
    · rw [List.concat_eq_append, ← List.append_assoc] at eq
      obtain ⟨rfl, -⟩ := List.append_inj' eq rfl
      exact ⟨l₁, k, rfl, fun mem => absent (by simp [mem])⟩
  · rintro ⟨l₁, l₂, rfl, absent⟩
    exact ⟨l₁, l₂ ++ [a], by simp, by simp [absent, ne.symm]⟩

/-- Entries that stand together are doubled if there are two of them. -/
lemma Together.doubled_iff [DecidableEq α] (together : Together e l) :
    Doubled e l ↔ 2 ≤ l.count e := by
  constructor
  · rintro ⟨l₁, l₂, rfl, -⟩
    simp only [List.count_append, List.count_cons_self, List.count_nil]
    omega
  · obtain ⟨l₁, n, l₂, rfl, before, behind⟩ := together
    intro two
    simp only [List.count_append, List.count_replicate_self, List.count_eq_zero_of_not_mem before,
      List.count_eq_zero_of_not_mem behind] at two
    obtain ⟨m, rfl⟩ := Nat.exists_eq_add_of_le' (show 2 ≤ n by omega)
    exact ⟨l₁ ++ List.replicate m e, l₂, by simp [List.replicate_add], behind⟩

/-- A use of a lock stack that may change it. -/
inductive Use (α : Type) where
  | push (e : α)
  | enterAgain (e : α)
  | exitAgain (e : α)
  | remove (e : α)
deriving DecidableEq, Repr

/-- What a use of a lock stack answers. -/
inductive Reply where
  | done
  /-- There is no room. -/
  | overflow
  | flag (b : Bool)
  /-- How many entries were removed. -/
  | removed (n : Nat)
deriving DecidableEq, Repr

/-- Uses one after the other, and what they answer. -/
def serve {σ : Type} (step : σ → Use α → Reply × σ) (s : σ) : List (Use α) → List Reply × σ
  | [] => ([], s)
  | u :: us => ((step s u).1 :: (serve step (step s u).2 us).1, (serve step (step s u).2 us).2)

/-- Uses that correspond one by one have the same answers. -/
lemma serve_map {σ τ : Type} {step : σ → Use α → Reply × σ} {step' : τ → Use α → Reply × τ}
    {f : σ → τ} (same : ∀ s u, (step s u).map id f = step' (f s) u) (s : σ) (us : List (Use α)) :
    (serve step s us).map id f = serve step' (f s) us := by
  induction us generalizing s with
  | nil => rfl
  | cons u us ih =>
    unfold serve
    rw [← same s u, Prod.map_fst, Prod.map_snd, ← ih]
    rfl

/-- An operation that may decline to change the stack. -/
lemma elim_toList {o : Option (LockStack α)} {p : Prop} [Decidable p] {yes no : Reply}
    (changed : ∀ s', o = some s' → p ∧ s'.toList = l) (declined : o = none → ¬ p) :
    (o.elim (no, s) fun s' => (yes, s')).map id toList = if p then (yes, l) else (no, s.toList) := by
  cases o with
  | some s' =>
    obtain ⟨fits, rfl⟩ := changed s' rfl
    exact (if_pos fits).symm
  | none => exact (if_neg (declined rfl)).symm

variable [DecidableEq α]

/-- The search for a doubled entry sees the entries up to its start only. -/
lemma repeatsBelow_iff {i : Nat} (lt : i < s.top) :
    s.repeatsBelow e i = true ↔ Doubled e (s.toList.take (i + 1)) := by
  have entry {j : Nat} (lt : j < s.top) : ∃ a, s.slots[j]? = some a ∧
      s.toList.take (j + 1) = s.toList.take j ++ [a] := by
    have lt' : j < s.toList.length := (length_toList s).symm ▸ lt
    refine ⟨s.toList[j], by rw [slots_getElem? lt, List.getElem?_eq_getElem lt'], ?_⟩
    rw [List.take_add_one, List.getElem?_eq_getElem lt', Option.toList_some]
  induction i with
  | zero =>
    obtain ⟨a, -, first⟩ := entry lt
    rw [first, List.take_zero]
    refine iff_of_false nofun fun doubled => ?_
    by_cases eq : a = e
    · obtain ⟨k, none⟩ := doubled_concat_self.1 (eq ▸ doubled)
      simp at none
    · exact not_doubled_nil e ((doubled_concat_of_ne eq).1 doubled)
  | succ i ih =>
    obtain ⟨a, here, upper⟩ := entry lt
    obtain ⟨b, below, lower⟩ := entry (Nat.lt_of_succ_lt lt)
    unfold repeatsBelow
    rw [here, below, upper]
    simp only [Option.some.injEq]
    by_cases eq : a = e
    · subst eq
      rw [doubled_concat_self, lower]
      by_cases same : b = a
      · subst same
        simp
      · simp [same]
    · simp only [eq, and_false, if_false]
      exact (ih (Nat.lt_of_succ_lt lt)).trans (doubled_concat_of_ne eq).symm

/-- A lock is found to be entered again if its last entry has another one directly before it. -/
lemma isRecursive_iff (s : LockStack α) (e : α) :
    s.isRecursive e = true ↔ Doubled e s.toList := by
  unfold isRecursive
  rcases Nat.eq_zero_or_pos s.top with none | pos
  · have empty : s.toList = [] := List.eq_nil_of_length_eq_zero (by rw [length_toList, none])
    rw [none, empty]
    exact iff_of_false nofun (not_doubled_nil e)
  · rw [repeatsBelow_iff (Nat.sub_lt pos Nat.one_pos), Nat.sub_add_cancel pos,
      List.take_of_length_le (Nat.le_of_eq (length_toList s))]

/-- Everything that can be asked of a lock stack is answered as a list of at most eight entries
would answer it. -/
structure Shows (s : LockStack α) (l : List α) : Prop where
  room : l.length ≤ capacity
  length : s.length = l.length
  isEmpty : s.isEmpty = true ↔ l = []
  isFull : s.isFull = true ↔ l.length = capacity
  top : s.top? = l.getLast?
  bottom : s.bottom? = l.head?
  contains : ∀ e, s.contains e = true ↔ e ∈ l
  count : ∀ e, s.count e = l.count e
  doubled : ∀ e, s.isRecursive e = true ↔ Doubled e l
  repeated : ∀ e, Together e l → (s.isRecursive e = true ↔ 2 ≤ l.count e)

/-- Every question about a lock stack is answered by its entries. -/
lemma shows_toList (s : LockStack α) : s.Shows s.toList where
  room := by
    rw [length_toList]
    exact s.top_le
  length := (length_toList s).symm
  isEmpty := by
    rw [← List.length_eq_zero_iff, length_toList]
    exact beq_iff_eq
  isFull := isFull_iff
  top := by
    ext e
    rw [top?_eq_some, List.getLast?_eq_some_iff]
  bottom := by
    unfold bottom?
    split
    next none =>
      rw [List.eq_nil_of_length_eq_zero (show s.toList.length = 0 by rw [length_toList, none])]
      rfl
    next some =>
      rw [slots_getElem? (Nat.pos_of_ne_zero some), List.head?_eq_getElem?]
  contains := contains_iff s
  count := count_eq s
  doubled := isRecursive_iff s
  repeated e together := (isRecursive_iff s e).trans together.doubled_iff

/-- A use of a lock stack. A stack that has no room, or whose top entries do not fit, stays as it
is. -/
def use (s : LockStack α) : Use α → Reply × LockStack α
  | .push e => (s.push? e).elim (.overflow, s) fun s' => (.done, s')
  | .enterAgain e => (s.tryRecursiveEnter e).elim (.flag false, s) fun s' => (.flag true, s')
  | .exitAgain e => (s.tryRecursiveExit e).elim (.flag false, s) fun s' => (.flag true, s')
  | .remove e => (.removed (s.length - (s.remove e).length), s.remove e)

/-- The same use of a list. -/
def Use.onList (l : List α) : Use α → Reply × List α
  | push e => if l.length < capacity then (.done, l ++ [e]) else (.overflow, l)
  | enterAgain e =>
    if l.getLast? = some e ∧ l.length < capacity then (.flag true, l ++ [e]) else (.flag false, l)
  | exitAgain e => if [e, e] <:+ l then (.flag true, l.dropLast) else (.flag false, l)
  | remove e => (.removed (l.count e), l.filter (· ≠ e))

/-- The entries after a use depend on the entries before it, and so does the answer. -/
lemma use_toList (s : LockStack α) (u : Use α) : (s.use u).map id toList = u.onList s.toList := by
  cases u with
  | push e =>
    exact elim_toList (fun _ => push?_eq_some) fun h room => Nat.ne_of_lt room (push?_eq_none h)
  | enterAgain e =>
    refine elim_toList (fun s' h => ?_) fun h fits => ?_
    · obtain ⟨room, top, eq⟩ := tryRecursiveEnter_eq_some h
      exact ⟨⟨List.getLast?_eq_some_iff.2 top, room⟩, eq⟩
    · rcases tryRecursiveEnter_eq_none h with full | other
      · exact Nat.ne_of_lt fits.2 (isFull_iff.1 full)
      · exact other (top?_eq_some.2 (List.getLast?_eq_some_iff.1 fits.1))
  | exitAgain e =>
    refine elim_toList (fun s' h => ?_) fun h fits => ?_
    · obtain ⟨l, eq, eq'⟩ := tryRecursiveExit_eq_some h
      refine ⟨⟨l, eq.symm⟩, ?_⟩
      rw [eq, eq']
      simp
    · obtain ⟨l, eq⟩ := fits
      exact tryRecursiveExit_eq_none h l eq.symm
  | remove e =>
    have kept : (s.remove e).length + s.toList.count e = s.length := by
      show (s.remove e).top + _ = s.top
      rw [← length_toList, ← length_toList, toList_remove, ← List.countP_eq_length_filter,
        s.toList.length_eq_countP_add_countP (· ≠ e), Nat.add_left_cancel_iff]
      exact List.countP_congr fun a _ => by simp
    show (Reply.removed (s.length - (s.remove e).length), (s.remove e).toList) = _
    rw [toList_remove, ← kept, Nat.add_sub_cancel_left]
    rfl

/-- However a lock stack is used, it gives the answers that the list of its entries gives, and shows
what is left in that list. Nothing depends on the slots above the entries. -/
theorem behaves_as_list (s : LockStack α) (us : List (Use α)) :
    (serve use s us).1 = (serve Use.onList s.toList us).1 ∧
      (serve use s us).2.Shows (serve Use.onList s.toList us).2 := by
  rw [← serve_map use_toList s us]
  exact ⟨rfl, shows_toList _⟩

example : (serve use (empty : LockStack UInt64) [.enterAgain 16, .push 16, .enterAgain 16, .push 32,
    .enterAgain 16, .exitAgain 32, .remove 32, .exitAgain 16, .exitAgain 16]).1 =
    [.flag false, .done, .flag true, .done, .flag false, .flag false, .removed 1, .flag true,
      .flag false] := by decide

end ObjectLocks.LockStack
