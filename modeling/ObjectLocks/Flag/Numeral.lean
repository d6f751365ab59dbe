/-!
# Numerals of flags

A number is written in base 16 after `0x`, in base 8 after a leading zero, and in base 10 otherwise;
a marker counts only if something follows it. A plus sign may precede the digits. The value has to
stay below two to the power 64.
-/

namespace ObjectLocks.Numeral

/-- The base of a numeral and what follows the marker of the base. -/
def base : List Char → Nat × List Char
  | '0' :: 'x' :: c :: rest => (16, c :: rest)
  | '0' :: c :: rest => (8, c :: rest)
  | cs => (10, cs)

/-- The value of a digit, letters in either case. -/
def digit? (radix : Nat) (c : Char) : Option Nat :=
  let value :=
    if '0' ≤ c ∧ c ≤ '9' then c.toNat - '0'.toNat
    else if 'a' ≤ c ∧ c ≤ 'f' then c.toNat - 'a'.toNat + 10
    else if 'A' ≤ c ∧ c ≤ 'F' then c.toNat - 'A'.toNat + 10
    else radix
  if value < radix then some value else none

/-- The value of digits that continue a number `n`. -/
def continue? (radix n : Nat) : List Char → Option Nat
  | [] => some n
  | c :: rest => (digit? radix c).bind fun d => continue? radix (n * radix + d) rest

/-- The value of one or more digits. -/
def digits? (radix : Nat) : List Char → Option Nat
  | [] => none
  | cs => continue? radix 0 cs

/-- The value of digits after an optional plus sign. -/
def signed? (radix : Nat) : List Char → Option Nat
  | '+' :: rest => digits? radix rest
  | cs => digits? radix cs

/-- The number that a text denotes. -/
def read? (s : String) : Option UInt64 :=
  let (radix, rest) := base s.toList
  (signed? radix rest).bind fun n => if n < UInt64.size then some (UInt64.ofNat n) else none

end ObjectLocks.Numeral
