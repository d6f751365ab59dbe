import ObjectLocks.HashSequence
import ObjectLocks.Proofs.Word.Fields

/-!
# Drawing hashes

A hash is drawn by advancing the sequence until a number has one. The loop ends in every state but
the all-zero one, and it ends soon. No step leads to the all-zero state from another one. Four
numbers in a row that have no hash leave a state of words that are zero but for their top bits, and
such a state spreads a top bit to other bits as soon as it uses one, so that at most two more
numbers have no hash.
-/

namespace ObjectLocks.HashSequence

/-- A number that has no hash. -/
def Skipped (v : UInt32) : Prop := v &&& hashMask = 0

instance {v : UInt32} : Decidable (Skipped v) := inferInstanceAs (Decidable (_ = _))

/-- Drawing in a state takes a number of rounds and ends with a hash and a state. The rounds are not
bounded. -/
inductive Draws : HashSequence → Nat → UInt32 × HashSequence → Prop where
  | found {s} :
    ¬ Skipped s.advance.w →
    Draws s 1 (s.advance.w &&& hashMask, s.advance)
  | again {s n x} :
    Skipped s.advance.w →
    Draws s.advance n x →
    Draws s (n + 1) x

/-- The state that has no hash. -/
def zero : HashSequence := ⟨0, 0, 0, 0⟩

/-- The state of the sequence of thread `id` once it has drawn `n` hashes. -/
def after (id : Nat) : Nat → HashSequence
  | 0 => seed id
  | n + 1 => (after id n).next.2

variable {s : HashSequence} {x x' : UInt32 × HashSequence} {n n' : Nat} {v : UInt32}

/-- The hash of a number has 31 bits. -/
lemma masked_lt (h : UInt32) : (h &&& hashMask).toNat < 2 ^ 31 := by
  rw [toNat_and_hashMask]
  exact Nat.mod_lt _ (Nat.two_pow_pos 31)

/-- Only the top bit of a number without a hash can be set. -/
lemma skipped_iff : Skipped v ↔ v = 0 ∨ v = 0x80000000 := by
  have less := v.toNat_lt
  simp only [Skipped, ← UInt32.toNat_inj, toNat_and_hashMask, UInt32.toNat_zero, UInt32.reduceToNat]
  omega

/-- A number that differs in no bit from itself shifted to the left is zero. -/
lemma eq_zero_of_xor_shiftLeft (h : v ^^^ (v <<< 11) = 0) : v = 0 := by
  have same := congrArg UInt32.toNat (UInt32.xor_eq_zero_iff.1 h)
  rw [UInt32.toNat_shiftLeft] at same
  have less := v.toNat_lt
  rw [← UInt32.toNat_inj]
  simp [Nat.shiftLeft_eq] at same ⊢
  omega

/-- A number that differs in no bit from itself shifted to the right is zero. -/
lemma eq_zero_of_xor_shiftRight (h : v ^^^ (v >>> 8) = 0) : v = 0 := by
  have same := congrArg UInt32.toNat (UInt32.xor_eq_zero_iff.1 h)
  rw [UInt32.toNat_shiftRight] at same
  rw [← UInt32.toNat_inj]
  simp [Nat.shiftRight_eq_div_pow] at same ⊢
  omega

/-- The next number depends on the first and the last word of the state. -/
lemma w_advance (s : HashSequence) : s.advance.w =
    (s.w ^^^ (s.w >>> 19)) ^^^
      ((s.x ^^^ (s.x <<< 11)) ^^^ ((s.x ^^^ (s.x <<< 11)) >>> 8)) := rfl

/-- No state but the all-zero one leads to it. -/
lemma advance_ne_zero (ne : s ≠ zero) : s.advance ≠ zero := by
  intro h
  obtain ⟨hy, hz, hw, drawn⟩ := mk.inj h
  replace drawn := (w_advance s).symm.trans drawn
  rw [hw, UInt32.zero_shiftRight, UInt32.xor_self, UInt32.zero_xor] at drawn
  have hx := eq_zero_of_xor_shiftLeft (eq_zero_of_xor_shiftRight drawn)
  exact ne (congr (congr (congr (congrArg mk hx) hy) hz) hw)

/-- A step that uses a top bit spreads it. -/
lemma unused_of_skipped (hx : Skipped s.x) (hw : Skipped s.w) (next : Skipped s.advance.w) :
    s.x = 0 ∧ s.w = 0 := by
  rw [w_advance] at next
  rcases skipped_iff.1 hx with x | x <;> rcases skipped_iff.1 hw with w | w <;> rw [x, w] at next
  · exact ⟨x, w⟩
  all_goals exact absurd next (by decide)

/-- A round skips its number and leaves the others to draw, or it takes the hash of its number. -/
lemma draw?_succ (s : HashSequence) (n : Nat) : s.draw? (n + 1) =
    if Skipped s.advance.w then s.advance.draw? n
    else some (s.advance.w &&& hashMask, s.advance) := ite_not ..

/-- No hash is drawn if the first number is skipped and no other round draws one. -/
lemma draw?_eq_none : s.draw? (n + 1) = none ↔ Skipped s.advance.w ∧ s.advance.draw? n = none := by
  rw [draw?_succ]
  split
  next skipped => exact (and_iff_right skipped).symm
  next found => exact iff_of_false nofun fun h => found h.1

/-- A state of words that are zero but for their top bits uses one of these bits within three
rounds. -/
lemma eq_zero_of_draw? (hx : Skipped s.x) (hy : Skipped s.y) (hz : Skipped s.z) (hw : Skipped s.w)
    (none : s.draw? 3 = none) : s = zero := by
  obtain ⟨first, none⟩ := draw?_eq_none.1 none
  obtain ⟨second, none⟩ := draw?_eq_none.1 none
  obtain ⟨third, -⟩ := draw?_eq_none.1 none
  obtain ⟨x, w⟩ := unused_of_skipped hx hw first
  obtain ⟨y, -⟩ := unused_of_skipped (s := s.advance) hy first second
  obtain ⟨z, -⟩ := unused_of_skipped (s := s.advance.advance) hz second third
  exact congr (congr (congr (congrArg mk x) y) z) w

/-- Seven rounds are enough. -/
lemma draw?_ne_none (ne : s ≠ zero) : s.draw? 7 ≠ none := by
  intro none
  obtain ⟨first, none⟩ := draw?_eq_none.1 none
  obtain ⟨second, none⟩ := draw?_eq_none.1 none
  obtain ⟨third, none⟩ := draw?_eq_none.1 none
  obtain ⟨fourth, none⟩ := draw?_eq_none.1 none
  -- By now the words of the state are the numbers that were skipped.
  exact advance_ne_zero (advance_ne_zero (advance_ne_zero (advance_ne_zero ne)))
    (eq_zero_of_draw? first second third fourth none)

/-- A bound on the rounds cuts the loop off and changes nothing else. -/
lemma draw?_eq_some : s.draw? n = some x ↔ ∃ k ≤ n, s.Draws k x := by
  induction n generalizing s with
  | zero =>
    refine iff_of_false nofun ?_
    rintro ⟨k, le, draws⟩
    obtain rfl := Nat.le_zero.1 le
    cases draws
  | succ n ih =>
    rw [draw?_succ]
    split
    next skipped =>
      rw [ih]
      constructor
      · rintro ⟨k, le, draws⟩
        exact ⟨k + 1, Nat.succ_le_succ le, .again skipped draws⟩
      · rintro ⟨k, le, draws⟩
        cases draws with
        | found found => exact absurd skipped found
        | again _ draws => exact ⟨_, Nat.le_of_succ_le_succ le, draws⟩
    next found =>
      constructor
      · rintro ⟨⟩
        exact ⟨1, Nat.succ_le_succ n.zero_le, .found found⟩
      · rintro ⟨k, -, draws⟩
        cases draws with
        | found => rfl
        | again skipped => exact absurd skipped found

namespace Draws

/-- There is one way to draw from a state. -/
lemma unique (h : s.Draws n x) (h' : s.Draws n' x') : n' = n ∧ x' = x := by
  induction h generalizing n' with
  | found found =>
    cases h' with
    | found => exact ⟨rfl, rfl⟩
    | again skipped => exact absurd skipped found
  | again skipped _ ih =>
    cases h' with
    | found found => exact absurd skipped found
    | again _ draws => exact (ih draws).imp_left (congrArg Nat.succ)

/-- What is drawn is the hash of the last word of the state that is left behind. -/
lemma hash (h : s.Draws n x) : x.1 = x.2.w &&& hashMask ∧ x.1 ≠ 0 := by
  induction h with
  | found found => exact ⟨rfl, found⟩
  | again _ _ ih => exact ih

/-- A state in which a hash was drawn is not the all-zero one. -/
lemma state_ne_zero (h : s.Draws n x) : x.2 ≠ zero := by
  intro eq
  obtain ⟨hash, ne⟩ := h.hash
  rw [eq] at hash
  exact ne hash

end Draws

/-- In every state but the all-zero one the loop ends, and so does the bounded one. -/
lemma draws_next (ne : s ≠ zero) : ∃ k ≤ 7, s.Draws k s.next := by
  obtain ⟨x, drawn⟩ := Option.ne_none_iff_exists'.1 (draw?_ne_none ne)
  obtain ⟨k, le, draws⟩ := draw?_eq_some.1 drawn
  have next : s.next = x := by
    unfold next
    rw [draw?_eq_some.2 ⟨k, Nat.le_trans le (by decide), draws⟩]
    rfl
  exact ⟨k, le, next ▸ draws⟩

/-- No fewer rounds would do: this state skips four numbers, and after them it is zero but for the top
bit that it uses last. -/
example : (⟨0x89a52030, 0, 0xa4848080, 0xa0041090⟩ : HashSequence).draw? 6 = none := by decide

/-- A drawn hash is not zero and fits its field. -/
lemma next_fits (s : HashSequence) : s.next.1 ≠ 0 ∧ s.next.1 &&& hashMask = s.next.1 := by
  unfold next
  cases drawn : s.draw? maxRounds with
  | none =>
    show (1 : UInt32) ≠ 0 ∧ 1 &&& hashMask = 1
    decide
  | some x =>
    obtain ⟨k, -, draws⟩ := draw?_eq_some.1 drawn
    refine ⟨draws.hash.2, ?_⟩
    show x.1 &&& hashMask = x.1
    rw [draws.hash.1, UInt32.and_assoc, UInt32.and_self]

/-- A thread never comes to the all-zero state. -/
lemma after_ne_zero (id n : Nat) : after id n ≠ zero := by
  induction n with
  | zero =>
    intro h
    exact absurd (congrArg HashSequence.w h) (by decide : (273326509 : UInt32) ≠ 0)
  | succ n ih =>
    obtain ⟨k, -, draws⟩ := draws_next ih
    exact draws.state_ne_zero

/-- However often a thread has drawn a hash, it draws the next one in at most seven rounds, a hash
that fits the header of an object and is not zero, and can go on after that. -/
theorem drawn_in_time (id n : Nat) :
    (∃ k ≤ 7, ∀ j x, (after id n).Draws j x ↔ j = k ∧ x = (after id n).next) ∧
      1 ≤ (after id n).next.1.toNat ∧ (after id n).next.1.toNat ≤ 2 ^ 31 - 1 ∧
      (after id n).next.2 ≠ zero := by
  obtain ⟨k, le, draws⟩ := draws_next (after_ne_zero id n)
  refine ⟨⟨k, le, fun j x => ⟨draws.unique, ?_⟩⟩, ?_, ?_, draws.state_ne_zero⟩
  · rintro ⟨rfl, rfl⟩
    exact draws
  · exact Nat.pos_of_ne_zero fun none => draws.hash.2 (UInt32.toNat_inj.1 none)
  · rw [draws.hash.1]
    exact Nat.le_sub_one_of_lt (masked_lt _)

end ObjectLocks.HashSequence
