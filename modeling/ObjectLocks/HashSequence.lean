import ObjectLocks.Word.LockWord

/-!
# Identity hashes

Every thread draws identity hashes from its own xor-shift sequence of 32-bit numbers. A hash is the
low 31 bits of a number; a number whose low 31 bits are zero is skipped, because zero stands for "no
hash yet".
-/

namespace ObjectLocks

/-- The four words of a xor-shift sequence. -/
structure HashSequence where
  x : UInt32
  y : UInt32
  z : UInt32
  w : UInt32
deriving DecidableEq, Repr, Inhabited

namespace HashSequence

/-- The sequence of the thread with number `id`. -/
def seed (id : Nat) : HashSequence :=
  ⟨(UInt32.ofNat id * 0x9e3779b9) ^^^ 0x5bd1e995, 842502087, 0x8767, 273326509⟩

/-- The next state; its last word is the number drawn. -/
def advance (s : HashSequence) : HashSequence :=
  let t := s.x ^^^ (s.x <<< 11)
  ⟨s.y, s.z, s.w, (s.w ^^^ (s.w >>> 19)) ^^^ (t ^^^ (t >>> 8))⟩

/-- Draws until a number has a non-zero hash, at most `rounds` times. -/
def draw? (s : HashSequence) : Nat → Option (UInt32 × HashSequence)
  | 0 => none
  | rounds + 1 =>
    let s' := s.advance
    if s'.w &&& hashMask ≠ 0 then some (s'.w &&& hashMask, s') else s'.draw? rounds

/-- More draws than any sequence with a non-zero word needs. -/
def maxRounds : Nat := 32

/-- The next hash and the state after it. Only the all-zero state has no hash, and no thread is in
it; the hash one stands in there. -/
def next (s : HashSequence) : UInt32 × HashSequence := (s.draw? maxRounds).getD (1, s)

end HashSequence

end ObjectLocks
