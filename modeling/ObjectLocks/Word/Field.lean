/-!
# Bit fields

A field is a run of bits inside a 64-bit word. Reading a field shifts it down and masks it; writing
one replaces its bits and leaves every other bit of the word alone. A value is valid for a field
when it fits; the checked writers refuse any other value.
-/

namespace ObjectLocks

/-- A run of `width` bits of a 64-bit word, the lowest of them at position `shift`. -/
structure Field where
  shift : Nat
  width : Nat
deriving DecidableEq, Repr

namespace Field

/-- The largest value of a field: all its bits set. -/
def mask (f : Field) : UInt64 := UInt64.ofNat (1 <<< f.width - 1)

/-- The bits of a field where they stand in a word. -/
def maskInPlace (f : Field) : UInt64 := f.mask <<< UInt64.ofNat f.shift

/-- The first position above a field. -/
def next (f : Field) : Nat := f.shift + f.width

/-- Whether `v` fits into the field. -/
def isValid (f : Field) (v : UInt64) : Bool := v &&& f.mask == v

/-- The low bits of `v` moved to the place of the field. -/
def place (f : Field) (v : UInt64) : UInt64 := (v &&& f.mask) <<< UInt64.ofNat f.shift

/-- The value of the field in `w`. -/
def read (f : Field) (w : UInt64) : UInt64 := (w >>> UInt64.ofNat f.shift) &&& f.mask

/-- `w` with the field replaced by the low bits of `v`. -/
def put (f : Field) (v w : UInt64) : UInt64 := (w &&& ~~~f.maskInPlace) ||| f.place v

/-- A word holding just `v`, unless `v` does not fit. -/
def encode? (f : Field) (v : UInt64) : Option UInt64 :=
  if f.isValid v then some (f.place v) else none

/-- `w` with the field replaced by `v`, unless `v` does not fit. -/
def update? (f : Field) (v w : UInt64) : Option UInt64 :=
  if f.isValid v then some (f.put v w) else none

end Field

end ObjectLocks
