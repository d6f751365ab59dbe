import Mathlib.Algebra.Group.Nat.Defs
import ObjectLocks.Word.LockWord

/-!
# Fields of a word, bit by bit

A field that lies inside a word reads back what was written to it, and writing it leaves every field
beside it alone. The lock bits and the identity hash of a lock-state word are such fields, so a
change of one of them is never seen in the other.
-/

namespace ObjectLocks

namespace Field

/-- A field lies inside a word. -/
def Fits (f : Field) : Prop := f.shift < 64 ∧ f.shift + f.width ≤ 64

/-- Two words are equal if all of their bits are. -/
lemma eq_of_bits {a b : UInt64}
    (h : ∀ i < 64, a.toBitVec.getLsbD i = b.toBitVec.getLsbD i) : a = b :=
  UInt64.eq_of_toBitVec_eq (BitVec.eq_of_getLsbD_eq h)

/-- The bits of a mask are those below the width. -/
lemma bit_mask (f : Field) (i : Nat) :
    f.mask.toBitVec.getLsbD i = (decide (i < f.width) && decide (i < 64)) := by
  simp only [mask, UInt64.ofNat, BitVec.getLsbD_ofNat, Nat.one_shiftLeft,
    Nat.testBit_two_pow_sub_one]
  rw [Bool.and_comm]

/-- A value that is moved to the place of a field has its bits there and no others. -/
lemma bit_place {f : Field} (fits : f.Fits) (v : UInt64) (i : Nat) :
    (f.place v).toBitVec.getLsbD i =
      (decide (f.shift ≤ i ∧ i < f.shift + f.width) && v.toBitVec.getLsbD (i - f.shift)) := by
  obtain ⟨hs, hw⟩ := fits
  have e : f.shift % 18446744073709551616 % 64 = f.shift := by omega
  simp only [place, UInt64.toBitVec_shiftLeft, UInt64.toBitVec_and, BitVec.shiftLeft_eq',
    BitVec.getLsbD_shiftLeft, BitVec.getLsbD_and, bit_mask]
  simp [e]
  grind

/-- The mask of a field covers the bits of the field. -/
lemma bit_maskInPlace {f : Field} (fits : f.Fits) (i : Nat) :
    f.maskInPlace.toBitVec.getLsbD i = decide (f.shift ≤ i ∧ i < f.shift + f.width) := by
  have h := bit_place fits f.mask i
  rw [show f.place f.mask = f.maskInPlace by simp [place, maskInPlace], bit_mask] at h
  rw [h]
  obtain ⟨hs, hw⟩ := fits
  grind

/-- Inside the field a written word has the bits of the value, outside its old bits. -/
lemma bit_put {f : Field} (fits : f.Fits) (v w : UInt64) {i : Nat} (hi : i < 64) :
    (f.put v w).toBitVec.getLsbD i =
      if f.shift ≤ i ∧ i < f.shift + f.width then v.toBitVec.getLsbD (i - f.shift)
      else w.toBitVec.getLsbD i := by
  simp only [put, UInt64.toBitVec_or, UInt64.toBitVec_and, UInt64.toBitVec_not, BitVec.getLsbD_or,
    BitVec.getLsbD_and, BitVec.getLsbD_not, bit_maskInPlace fits, bit_place fits]
  by_cases h : f.shift ≤ i ∧ i < f.shift + f.width
  · simp [h]
  · simp only [h, decide_false, Bool.not_false, Bool.false_and, Bool.or_false, if_false]
    simp [hi]

/-- What is read from a field are the bits from its shift on, as many as it is wide. -/
lemma bit_read {f : Field} (fits : f.Fits) (w : UInt64) (i : Nat) :
    (f.read w).toBitVec.getLsbD i =
      (decide (i < f.width) && w.toBitVec.getLsbD (f.shift + i)) := by
  obtain ⟨hs, hw⟩ := fits
  have e : f.shift % 18446744073709551616 % 64 = f.shift := by omega
  simp only [read, UInt64.toBitVec_shiftRight, UInt64.toBitVec_and, BitVec.ushiftRight_eq',
    BitVec.getLsbD_ushiftRight, BitVec.getLsbD_and, bit_mask]
  simp [e]
  grind

/-- What a field keeps of a value is a remainder. -/
lemma toNat_and_mask {f : Field} (fits : f.Fits) (v : UInt64) :
    (v &&& f.mask).toNat = v.toNat % 2 ^ f.width := by
  have pos := Nat.two_pow_pos f.width
  have le : 2 ^ f.width ≤ 2 ^ 64 :=
    Nat.pow_le_pow_right (by decide) (Nat.le_trans (Nat.le_add_left ..) fits.2)
  have ones : f.mask.toNat = 2 ^ f.width - 1 := by
    rw [mask, Nat.one_shiftLeft]
    exact UInt64.toNat_ofNat_of_lt' (Nat.lt_of_lt_of_le (Nat.sub_one_lt_of_lt pos) le)
  rw [UInt64.toNat_and, ones, Nat.and_two_pow_sub_one_eq_mod]

/-- A field reads back what was written to it. -/
lemma read_put {f : Field} (fits : f.Fits) (v w : UInt64) :
    f.read (f.put v w) = v &&& f.mask := by
  apply eq_of_bits
  intro i hi
  simp only [bit_read fits, UInt64.toBitVec_and, BitVec.getLsbD_and, bit_mask]
  by_cases h : i < f.width
  · rw [bit_put fits _ _ (by have := fits.2; omega)]
    simp [h, hi]
  · simp [h]

/-- Writing a field leaves a field beside it alone. -/
lemma read_put_of_disjoint {f g : Field} (fits : f.Fits) (fits' : g.Fits)
    (apart : f.next ≤ g.shift ∨ g.next ≤ f.shift) (v w : UInt64) :
    f.read (g.put v w) = f.read w := by
  apply eq_of_bits
  intro i hi
  rw [bit_read fits, bit_read fits]
  by_cases h : i < f.width
  · rw [bit_put fits' _ _ (by have := fits.2; omega), if_neg (by simp only [next] at apart; omega)]
  · simp [h]

/-- The last of two values written to a field stays. -/
lemma put_put {f : Field} (fits : f.Fits) (v v' w : UInt64) :
    f.put v (f.put v' w) = f.put v w := by
  apply eq_of_bits
  intro i hi
  simp only [bit_put fits _ _ hi]
  split <;> rfl

/-- Fields beside each other may be written in any order. -/
lemma put_comm {f g : Field} (fits : f.Fits) (fits' : g.Fits)
    (apart : f.next ≤ g.shift ∨ g.next ≤ f.shift) (v v' w : UInt64) :
    f.put v (g.put v' w) = g.put v' (f.put v w) := by
  apply eq_of_bits
  intro i hi
  simp only [bit_put fits _ _ hi, bit_put fits' _ _ hi]
  split
  next inside => rw [if_neg (by simp only [next] at apart; omega)]
  next => rfl

/-- Writing back what is read changes nothing. -/
lemma put_read {f : Field} (fits : f.Fits) (w : UInt64) : f.put (f.read w) w = w := by
  apply eq_of_bits
  intro i hi
  rw [bit_put fits _ _ hi]
  split
  next inside =>
    rw [bit_read fits, Nat.add_sub_cancel' inside.1, decide_eq_true (by omega), Bool.true_and]
  next => rfl

/-- Writing zero clears the bits of a field. -/
lemma put_zero (f : Field) (w : UInt64) : f.put 0 w = w &&& ~~~f.maskInPlace := by
  simp [put, place]

end Field

/-- The lock bits lie inside a word. -/
lemma lockField_fits : lockField.Fits := by constructor <;> decide

/-- The identity hash lies inside a word. -/
lemma hashField_fits : hashField.Fits := by constructor <;> decide

/-- An identity hash is a remainder. -/
lemma toNat_and_hashMask (h : UInt32) : (h &&& hashMask).toNat = h.toNat % 2 ^ 31 := by
  have ones : hashMask.toNat = 2 ^ 31 - 1 := by decide
  rw [UInt32.toNat_and, ones, Nat.and_two_pow_sub_one_eq_mod]

/-- The field of the identity hash keeps all of it. -/
lemma and_mask_hashField (h : UInt32) :
    (h &&& hashMask).toUInt64 &&& hashField.mask = (h &&& hashMask).toUInt64 := by
  rw [← UInt64.toNat_inj, Field.toNat_and_mask hashField_fits, UInt32.toNat_toUInt64,
    toNat_and_hashMask]
  exact Nat.mod_mod ..

namespace LockWord

/-- A word reads back the lock bits that were put into it. -/
@[simp] lemma bits_withBits (w : LockWord) (b : LockBits) : (w.withBits b).bits = b := by
  unfold withBits bits
  rw [Field.read_put lockField_fits]
  cases b <;> decide

/-- A new hash leaves the lock bits alone. -/
@[simp] lemma bits_withHash (w : LockWord) (h : UInt32) : (w.withHash h).bits = w.bits := by
  unfold withHash bits
  rw [Field.read_put_of_disjoint lockField_fits hashField_fits (by decide)]

/-- New lock bits leave the hash alone. -/
@[simp] lemma hash_withBits (w : LockWord) (b : LockBits) : (w.withBits b).hash = w.hash := by
  unfold withBits hash
  rw [Field.read_put_of_disjoint hashField_fits lockField_fits (by decide)]

/-- A word reads back the hash that was put into it. -/
lemma hash_withHash (w : LockWord) (h : UInt32) : (w.withHash h).hash = h &&& hashMask := by
  unfold withHash hash
  rw [Field.read_put hashField_fits, and_mask_hashField, UInt32.toUInt32_toUInt64]

/-- A hash has 31 bits. -/
lemma hash_lt (w : LockWord) : w.hash.toNat < 2 ^ 31 := by
  unfold hash Field.read
  rw [UInt64.toNat_toUInt32, Field.toNat_and_mask hashField_fits]
  exact Nat.lt_of_le_of_lt (Nat.mod_le ..) (Nat.mod_lt _ (Nat.two_pow_pos 31))

/-- A word is hashed if its hash is not zero. -/
lemma hasHash_iff (w : LockWord) : w.hasHash = true ↔ w.hash ≠ 0 := by
  unfold hasHash
  rw [bne_iff_ne]

/-- A writer that refuses values that do not fit does not refuse a hash. -/
lemma update?_hash (w : LockWord) (h : UInt32) :
    hashField.update? (h &&& hashMask).toUInt64 w.value = some (w.withHash h).value :=
  if_pos (beq_iff_eq.2 (and_mask_hashField h))

/-- A writer that refuses values that do not fit does not refuse lock bits. -/
lemma update?_bits (w : LockWord) (b : LockBits) :
    lockField.update? b.toWord w.value = some (w.withBits b).value :=
  if_pos (by cases b <;> decide)

end LockWord

end ObjectLocks
