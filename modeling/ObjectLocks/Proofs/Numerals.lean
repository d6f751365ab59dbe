import Mathlib
import ObjectLocks.Proofs.FlagParsing

/-!
# Numerals

A flag that holds a number takes an argument if and only if it is a numeral below two to the
power 64. What a numeral is, is said here apart from the way numerals are read: after the marker of
a base, which counts only if something follows it, there is at most one plus sign, and then there
are one or more digits. The numerals that are usually printed are among them.
-/

namespace ObjectLocks

namespace Numeral

/-- Whether a character is the digit `d` of a base. A letter may be in either case. -/
def IsDigit (radix : ℕ) (c : Char) (d : ℕ) : Prop := d < radix ∧ c.toLower = d.digitChar

instance {radix c d} : Decidable (IsDigit radix c d) := inferInstanceAs (Decidable (_ ∧ _))

/-- The base of a numeral, and what follows the marker of the base. -/
inductive Marked : List Char → ℕ → List Char → Prop where
  | hexadecimal {rest} : rest ≠ [] → Marked ('0' :: 'x' :: rest) 16 rest
  | octal {rest} : rest ≠ [] → (∀ cs ≠ [], rest ≠ 'x' :: cs) → Marked ('0' :: rest) 8 rest
  | decimal {cs} : (∀ rest ≠ [], cs ≠ '0' :: rest) → Marked cs 10 cs

/-- Whether digits of a base, the most significant one first, make up a number. -/
def Digits (radix : ℕ) (cs : List Char) (n : ℕ) : Prop :=
  cs ≠ [] ∧ ∃ ds, List.Forall₂ (IsDigit radix) cs ds ∧ Nat.ofDigits radix ds.reverse = n

/-- Whether a text is a numeral of a number. -/
def Denotes (s : String) (n : ℕ) : Prop :=
  ∃ radix rest, Marked s.toList radix rest ∧
    (Digits radix rest n ∨ ∃ cs, rest = '+' :: cs ∧ Digits radix cs n)

/-- An ASCII character is a hexadecimal digit if it is one in lower case. -/
lemma digit?_ascii : ∀ n < 128, ∀ d < 16,
    digit? 16 (Char.ofNat n) = some d ↔ (Char.ofNat n).toLower = d.digitChar := by
  decide +kernel

/-- Digits are ASCII characters. -/
lemma toNat_lt_of_digit? {radix d : ℕ} {c : Char} (h : digit? radix c = some d) :
    c.toNat < 128 := by
  by_contra large
  have beyond (e : Char) (he : e.toNat < 128) : ¬ c ≤ e := fun le => large (lt_of_le_of_lt le he)
  simp [digit?, beyond] at h

/-- A character is ASCII if it is so in lower case. -/
lemma toNat_lt_of_toLower {c : Char} (h : c.toLower.toNat < 128) : c.toNat < 128 := by
  unfold Char.toLower at h
  split at h
  next upper => exact lt_of_le_of_lt upper.2 (by decide)
  next => exact h

/-- The character of a digit is ASCII. -/
lemma digitChar_lt {d : ℕ} (h : d < 16) : d.digitChar.toNat < 128 := by
  decide +revert

/-- A digit is less than the base. -/
lemma digit?_lt {radix d : ℕ} {c : Char} (h : digit? radix c = some d) : d < radix := by
  simp only [digit?, Option.ite_none_right_eq_some, Option.some.injEq] at h
  omega

/-- The hexadecimal digits are read as such. -/
lemma digit?_sixteen (c : Char) (d : ℕ) : digit? 16 c = some d ↔ IsDigit 16 c d := by
  have ascii (small : c.toNat < 128) (less : d < 16) :
      digit? 16 c = some d ↔ c.toLower = d.digitChar := by
    have same := digit?_ascii c.toNat small d less
    rwa [Char.ofNat_toNat] at same
  constructor
  · intro h
    have less := digit?_lt h
    exact ⟨less, (ascii (toNat_lt_of_digit? h) less).1 h⟩
  · rintro ⟨less, lower⟩
    have small : c.toNat < 128 := toNat_lt_of_toLower (lower ▸ digitChar_lt less)
    exact (ascii small less).2 lower

/-- The digits of a base are those of base 16 that are small enough. -/
lemma digit?_filter {radix : ℕ} (small : radix ≤ 16) (c : Char) :
    digit? radix c = (digit? 16 c).filter (· < radix) := by
  unfold digit?
  grind [Option.filter]

/-- The digits of every base up to 16 are read as such. -/
lemma digit?_eq_some {radix : ℕ} (small : radix ≤ 16) (c : Char) (d : ℕ) :
    digit? radix c = some d ↔ IsDigit radix c d := by
  rw [digit?_filter small, Option.filter_eq_some_iff, digit?_sixteen, decide_eq_true_iff]
  constructor
  · rintro ⟨⟨-, lower⟩, less⟩
    exact ⟨less, lower⟩
  · rintro ⟨less, lower⟩
    exact ⟨⟨less.trans_le small, lower⟩, less⟩

/-- A number that is read so far is moved to the left by every digit that follows. -/
lemma continue?_eq_some {radix : ℕ} (small : radix ≤ 16) (cs : List Char) (m n : ℕ) :
    continue? radix m cs = some n ↔ ∃ ds, List.Forall₂ (IsDigit radix) cs ds ∧
      m * radix ^ cs.length + Nat.ofDigits radix ds.reverse = n := by
  induction cs generalizing m with
  | nil => simp [continue?]
  | cons c cs ih =>
    have shift (d : ℕ) (ds : List ℕ) (length : cs.length = ds.length) :
        (m * radix + d) * radix ^ cs.length + Nat.ofDigits radix ds.reverse =
          m * radix ^ (c :: cs).length + Nat.ofDigits radix (d :: ds).reverse := by
      rw [List.reverse_cons, Nat.ofDigits_append, Nat.ofDigits_singleton, List.length_reverse,
        ← length, List.length_cons]
      ring
    rw [continue?, Option.bind_eq_some_iff]
    constructor
    · rintro ⟨d, digit, rest⟩
      obtain ⟨ds, digits, rfl⟩ := (ih _).1 rest
      exact ⟨d :: ds, .cons ((digit?_eq_some small c d).1 digit) digits,
        (shift d ds digits.length_eq).symm⟩
    · rintro ⟨ds, digits, rfl⟩
      cases digits with
      | @cons _ d _ ds digit digits =>
        exact ⟨d, (digit?_eq_some small c d).2 digit,
          (ih _).2 ⟨ds, digits, shift d ds digits.length_eq⟩⟩

/-- A number is read from digits if they make it up. -/
lemma digits?_eq_some {radix : ℕ} (small : radix ≤ 16) (cs : List Char) (n : ℕ) :
    digits? radix cs = some n ↔ Digits radix cs n := by
  cases cs with
  | nil => simp [digits?, Digits]
  | cons c cs => simp [digits?, Digits, continue?_eq_some small]

/-- A plus sign is no digit. -/
lemma not_digits_plus {radix : ℕ} (small : radix ≤ 16) (cs : List Char) (n : ℕ) :
    ¬ Digits radix ('+' :: cs) n := by
  rintro ⟨-, ds, digits, -⟩
  cases digits with
  | cons digit _ =>
    have := (digit?_sixteen '+' _).2 ⟨digit.1.trans_le small, digit.2⟩
    cases this

/-- A number is read from digits with or without a plus sign before them. -/
lemma signed?_eq_some {radix : ℕ} (small : radix ≤ 16) (rest : List Char) (n : ℕ) :
    signed? radix rest = some n ↔
      Digits radix rest n ∨ ∃ cs, rest = '+' :: cs ∧ Digits radix cs n := by
  unfold signed?
  split
  next cs => simp [digits?_eq_some small, not_digits_plus small]
  next unsigned =>
    rw [digits?_eq_some small]
    constructor
    · exact .inl
    · rintro (digits | ⟨cs, rfl, -⟩)
      · exact digits
      · exact absurd rfl (unsigned cs)

/-- There is one way to take the marker off. -/
lemma marked_iff (cs : List Char) (radix : ℕ) (rest : List Char) :
    Marked cs radix rest ↔ base cs = (radix, rest) := by
  unfold base
  constructor
  · -- Each marker is read by its own branch, which the other markers do not reach.
    intro marked
    cases marked with
    | hexadecimal some =>
      obtain ⟨c, rest, rfl⟩ := List.exists_cons_of_ne_nil some
      rfl
    | octal some unlike =>
      obtain ⟨c, rest, rfl⟩ := List.exists_cons_of_ne_nil some
      split
      next hexadecimal =>
        cases hexadecimal
        exact absurd rfl (unlike _ (List.cons_ne_nil _ _))
      next octal =>
        cases octal
        rfl
      next unmarked => exact absurd rfl (unmarked _ _)
    | decimal unlike =>
      split
      next => exact absurd rfl (unlike _ (List.cons_ne_nil _ _))
      next => exact absurd rfl (unlike _ (List.cons_ne_nil _ _))
      next => rfl
  · intro h
    split at h
    next =>
      cases h
      exact .hexadecimal (List.cons_ne_nil _ _)
    next unlike =>
      cases h
      refine .octal (List.cons_ne_nil _ _) fun cs some eq => ?_
      obtain ⟨c, cs, rfl⟩ := List.exists_cons_of_ne_nil some
      cases eq
      exact unlike _ _ rfl rfl
    next unmarked =>
      cases h
      refine .decimal fun rest some eq => ?_
      obtain ⟨c, rest, rfl⟩ := List.exists_cons_of_ne_nil some
      exact unmarked _ _ eq

/-- No base is larger than 16. -/
lemma base_le (cs : List Char) : (base cs).1 ≤ 16 := by
  unfold base
  split <;> simp

/-- What is read is what a text denotes, if it is small enough. -/
lemma read?_eq_some (s : String) (v : UInt64) : read? s = some v ↔ Denotes s v.toNat := by
  have denotes (n : ℕ) : signed? (base s.toList).1 (base s.toList).2 = some n ↔ Denotes s n := by
    rw [signed?_eq_some (base_le _)]
    constructor
    · exact fun numeral => ⟨_, _, (marked_iff ..).2 rfl, numeral⟩
    · rintro ⟨radix, rest, marked, numeral⟩
      rwa [(marked_iff ..).1 marked]
  unfold read?
  simp only [Option.bind_eq_some_iff, denotes, Option.ite_none_right_eq_some, Option.some.injEq]
  constructor
  · rintro ⟨n, numeral, small, rfl⟩
    rwa [UInt64.toNat_ofNat_of_lt' small]
  · intro numeral
    exact ⟨v.toNat, numeral, v.toNat_lt, UInt64.ofNat_toNat⟩

example : ["0", "00", "0x", "08", "0x+1", "++1"].map read? =
    [some 0, some 0, none, none, some 1, none] := by decide

/-- Digits are printed in lower case. -/
lemma toLower_digitChar {d : ℕ} (small : d < 16) : d.digitChar.toLower = d.digitChar := by
  decide +revert

/-- The digits of a printed number make it up. -/
lemma digits_toDigits {radix : ℕ} (base : 1 < radix) (small : radix ≤ 16) (n : ℕ) :
    Digits radix (Nat.toDigits radix n) n := by
  have digit {d : ℕ} (less : d < radix) : IsDigit radix d.digitChar d :=
    ⟨less, toLower_digitChar (less.trans_le small)⟩
  refine ⟨Nat.toDigits_ne_nil, ?_⟩
  induction n using Nat.strong_induction_on with
  | _ n ih =>
    rw [Nat.toDigits_eq_if base]
    split
    next less => exact ⟨[n], .cons (digit less) .nil, by simp⟩
    next large =>
      obtain ⟨ds, digits, value⟩ := ih (n / radix) (Nat.div_lt_self (by omega) base)
      refine ⟨ds ++ [n % radix],
        List.rel_append digits (.cons (digit (Nat.mod_lt _ (by omega))) .nil), ?_⟩
      rw [List.reverse_append, List.reverse_singleton, List.singleton_append, Nat.ofDigits_cons,
        value]
      exact Nat.mod_add_div n radix

/-- Digits may be written in lower case or in upper case. -/
lemma Digits.of_toLower {radix n : ℕ} {cs : List Char}
    (h : Digits radix (cs.map Char.toLower) n) : Digits radix cs n := by
  obtain ⟨some, ds, digits, value⟩ := h
  rw [List.forall₂_map_left_iff] at digits
  refine ⟨fun none => some (congrArg _ none), ds, digits.imp fun c d digit => ?_, value⟩
  exact ⟨digit.1, c.toLower_toLower_eq_toLower ▸ digit.2⟩

/-- No numeral is printed with leading zeros. -/
lemma toDigits_ne_cons_zero {radix n : ℕ} (base : 1 < radix) (pos : 0 < n) (cs : List Char) :
    Nat.toDigits radix n ≠ '0' :: cs := by
  induction n using Nat.strong_induction_on generalizing cs with
  | _ n ih =>
    intro zero
    rw [Nat.toDigits_eq_if base] at zero
    split at zero
    next less =>
      have digit : n.digitChar = '0' := (List.cons.inj zero).1
      exact absurd (Nat.digitChar_eq_zero.1 digit) pos.ne'
    next large =>
      obtain ⟨c, rest, head⟩ := List.exists_cons_of_ne_nil
        (Nat.toDigits_ne_nil (n := n / radix) (b := radix))
      rw [head, List.cons_append] at zero
      refine ih (n / radix) (Nat.div_lt_self pos base) (Nat.div_pos (by omega) (by omega)) rest ?_
      rw [head, (List.cons.inj zero).1]

/-- A number is denoted by its decimal numeral. -/
lemma denotes_decimal (n : ℕ) : Denotes (toString n) n := by
  refine ⟨10, Nat.toDigits 10 n, ?_, .inl (digits_toDigits (by decide) (by decide) n)⟩
  rw [Nat.toString_eq_ofList_toDigits, String.toList_ofList]
  refine .decimal fun rest some zero => ?_
  cases n with
  | zero => exact some (List.cons.inj zero).2.symm
  | succ n => exact toDigits_ne_cons_zero (by decide) n.succ_pos rest zero

/-- A number is denoted by its octal numeral after a zero. -/
lemma denotes_octal (n : ℕ) : Denotes ("0" ++ String.ofList (Nat.toDigits 8 n)) n := by
  have digits := digits_toDigits (by decide : 1 < 8) (by decide) n
  have marked (cs : List Char) : Nat.toDigits 8 n ≠ 'x' :: cs := by
    intro hexadecimal
    obtain ⟨-, ds, digits, -⟩ := digits
    rw [hexadecimal] at digits
    cases digits with
    | cons digit _ => exact Nat.digitChar_ne 'x' (by decide) digit.2.symm
  refine ⟨8, Nat.toDigits 8 n, ?_, .inl digits⟩
  simp only [String.toList_append, String.toList_ofList]
  exact .octal digits.1 fun cs _ => marked cs

/-- A number is denoted by its hexadecimal numeral after the marker, in either case. -/
lemma denotes_hexadecimal {n : ℕ} {cs : List Char}
    (lower : cs.map Char.toLower = Nat.toDigits 16 n) :
    Denotes ("0x" ++ String.ofList cs) n := by
  have digits : Digits 16 cs n := .of_toLower (lower ▸ digits_toDigits (by decide) (by decide) n)
  refine ⟨16, cs, ?_, .inl digits⟩
  simp only [String.toList_append, String.toList_ofList]
  exact .hexadecimal digits.1

end Numeral

namespace FlagParsing

open Numeral (Denotes)

/-- A parse after the flag `f` in place `i` took a value. -/
def stored (p : FlagParsing) (i : ℕ) (f : Flag) (v : FlagValue) : FlagParsing :=
  { p with group := { p.group with
    flags := p.group.flags.set i { f with value := v, isSet := true } } }

/-- A parse after it came across an argument that the flag does not take. -/
def noted (p : FlagParsing) (a : Assignment) : FlagParsing :=
  { p with notices := p.notices ++ [.invalidFlag a.argument a.name] }

/-- What becomes of an assignment to the flag `f` in place `i`, if the flag holds a number. -/
structure TakesNumeral (p : FlagParsing) (a : Assignment) (i : ℕ) (f : Flag) : Prop where
  /-- The numerals below two to the power 64 are taken, each for its number. -/
  accepted : ∀ v : UInt64,
    Denotes a.argument v.toNat ↔ p.assign? a = some (p.stored i f (.number v))
  /-- Every other argument is noted, and changes no flag. -/
  rejected : (∀ n < 2 ^ 64, ¬ Denotes a.argument n) ↔ p.assign? a = some (p.noted a)
  /-- A number may be given as it is printed in base 10, in base 16 with the letters in either case,
  or in base 8. -/
  printed : ∀ n < 2 ^ 64, ∀ text, text = toString n ∨
      (∃ cs, cs.map Char.toLower = Nat.toDigits 16 n ∧ text = "0x" ++ String.ofList cs) ∨
      text = "0" ++ String.ofList (Nat.toDigits 8 n) →
    p.assign? { a with argument := text } = some (p.stored i f (.number (.ofNat n)))

variable {p : FlagParsing} {a : Assignment} {i : ℕ} {f : Flag}

/-- A value goes to the first flag that is addressed. -/
lemma assignFirst_eq_set {flags : List Flag} (place : flags.findIdx? a.addresses = some i)
    (f? : flags[i]? = some f) (v : FlagValue) :
    assignFirst a v flags = flags.set i { f with value := v, isSet := true } := by
  obtain ⟨length, -⟩ := List.getElem?_eq_some_iff.1 f?
  ext1 j
  rw [getElem?_assignFirst, place, List.getElem?_set]
  by_cases here : i = j
  · obtain rfl := here
    rw [if_pos rfl, if_pos rfl, if_pos length, f?]
    rfl
  · rw [if_neg here, if_neg fun same => here (Option.some.inj same)]

/-- An assignment to a flag that holds a number stores what is read from the argument, or notes that
nothing is. -/
lemma assign?_number {m : UInt64} (place : p.group.flags.findIdx? a.addresses = some i)
    (f? : p.group.flags[i]? = some f) (value : f.value = .number m) :
    p.assign? a = some (match Numeral.read? a.argument with
      | some v => p.stored i f (.number v)
      | none => p.noted a) := by
  rw [assign?, Assignment.find?_place place f?, Option.map_some, value, FlagValue.assign?]
  cases Numeral.read? a.argument with
  | none => rfl
  | some v => simp [assignFirst_eq_set place f?, stored]

/-- A value is never stored and the argument noted in one. -/
lemma stored_ne_noted (v : FlagValue) : p.stored i f v ≠ p.noted a := by
  intro same
  have longer := congrArg FlagParsing.notices same
  simp [stored, noted] at longer

/-- Different values are stored differently. -/
lemma stored_inj {v v' : FlagValue} (f? : p.group.flags[i]? = some f)
    (h : p.stored i f v = p.stored i f v') : v = v' := by
  obtain ⟨length, -⟩ := List.getElem?_eq_some_iff.1 f?
  have value := congrArg (fun q => q.group.flags[i]?.map Flag.value) h
  simpa [stored, length] using value

/-- A flag that holds a number takes the numerals below two to the power 64, and no other text. -/
theorem takes_numeral {m : UInt64} (place : p.group.flags.findIdx? a.addresses = some i)
    (f? : p.group.flags[i]? = some f) (value : f.value = .number m) : p.TakesNumeral a i f := by
  have taken {s : String} {v : UInt64} (numeral : Denotes s v.toNat) :
      p.assign? { a with argument := s } = some (p.stored i f (.number v)) := by
    rw [assign?_number (a := { a with argument := s }) place f? value,
      (Numeral.read?_eq_some _ _).2 numeral]
  have number {s : String} {n : ℕ} (numeral : Denotes s n) (less : n < 2 ^ 64) :
      Denotes s (UInt64.ofNat n).toNat := by
    rwa [UInt64.toNat_ofNat_of_lt' less]
  -- The answer is told by the reader, which accepts exactly the numerals.
  have outcome := assign?_number place f? value
  constructor
  case accepted =>
    refine fun v => ⟨taken, fun accepted => ?_⟩
    have same := Option.some.inj (outcome.symm.trans accepted)
    cases read : Numeral.read? a.argument with
    | none =>
      rw [read] at same
      exact absurd same.symm (stored_ne_noted _)
    | some v' =>
      rw [read] at same
      obtain rfl := FlagValue.number.inj (stored_inj f? same)
      exact (Numeral.read?_eq_some _ _).1 read
  case rejected =>
    constructor
    · intro none
      cases read : Numeral.read? a.argument with
      | none => rw [outcome, read]
      | some v => exact absurd ((Numeral.read?_eq_some _ _).1 read) (none _ v.toNat_lt)
    · intro rejected n less numeral
      have same := Option.some.inj ((taken (number numeral less)).symm.trans rejected)
      exact stored_ne_noted _ same
  case printed =>
    intro n less text printed
    refine taken (number ?_ less)
    rcases printed with rfl | ⟨cs, lower, rfl⟩ | rfl
    · exact Numeral.denotes_decimal n
    · exact Numeral.denotes_hexadecimal lower
    · exact Numeral.denotes_octal n

/-- A sign may follow the marker of the base. Two to the power 64 is too large. -/
theorem takes_numeral_signed :
    ((start painter).group.flags.findIdx?
      (⟨false, "spins", "0x+fF"⟩ : Assignment).addresses = some 1 ∧
      painter.flags[1]?.map Flag.value = some (.number 4)) ∧
    ((start painter).assign? ⟨false, "spins", "0x+fF"⟩).map
      (fun p => (p.group.flags.map Flag.value, p.group.isSet "spins", p.notices.length)) =
        some ([.bool false, .number 255, .number 1, .handler], true, 0) ∧
    ((start painter).assign? ⟨false, "spins", "0x10000000000000000"⟩).map
      (fun p => (p.group.flags, p.notices.length)) = some (painter.flags, 1) := by
  have signed : Denotes "0x+fF" (255 : UInt64).toNat := by
    have digits : Numeral.Digits 16 ['f', 'F'] 255 :=
      ⟨List.cons_ne_nil _ _, [15, 15], .cons (by decide) (.cons (by decide) .nil), rfl⟩
    exact ⟨16, ['+', 'f', 'F'], .hexadecimal (List.cons_ne_nil _ _), .inr ⟨_, rfl, digits⟩⟩
  have large : ∀ n < 2 ^ 64, ¬ Denotes "0x10000000000000000" n := by
    intro n less numeral
    have read := (Numeral.read?_eq_some "0x10000000000000000" (.ofNat n)).2
      (by rwa [UInt64.toNat_ofNat_of_lt' less])
    cases read
  have place (argument : String) : (start painter).group.flags.findIdx?
      (⟨false, "spins", argument⟩ : Assignment).addresses = some 1 := rfl
  refine ⟨⟨place _, by decide⟩, ?_, ?_⟩
  · rw [((takes_numeral (place _) rfl rfl).accepted 255).1 signed]
    decide
  · rw [(takes_numeral (place _) rfl rfl).rejected.1 large]
    decide

end FlagParsing

end ObjectLocks
