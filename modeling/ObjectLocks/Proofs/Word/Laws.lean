import ObjectLocks.Proofs.Word.Fields

/-!
# The laws of lock-state words

The lock bits and the identity hash of a word are set apart from each other, in any order, and the
last one set stays. The two lowest bits also tell what kind of word it is. Without them, the address
of a record or of a monitor is left, so an address that goes into a word comes out of it again and is
never taken for something else.
-/

namespace ObjectLocks

/-- Whether a lock record or a monitor may be at an address. -/
def Aligned (a : UInt64) : Prop := a.toNat % 4 = 0

/-- Writing a field leaves the bits outside of it alone. -/
lemma Field.testBit_put {f : Field} (fits : f.Fits) (v w : UInt64) {i : Nat}
    (outside : ¬ (f.shift ≤ i ∧ i < f.shift + f.width)) :
    (f.put v w).toNat.testBit i = w.toNat.testBit i := by
  by_cases hi : i < 64
  · exact (bit_put fits v w hi).trans (if_neg outside)
  · have beyond (u : UInt64) : u.toNat.testBit i = false :=
      Nat.testBit_lt_two_pow (Nat.lt_of_lt_of_le u.toNat_lt
        (Nat.pow_le_pow_right (by decide) (Nat.le_of_not_lt hi)))
    rw [beyond, beyond]

/-- Lock bits that are read from a number below four are written back as that number. -/
lemma LockBits.toWord_ofWord {v : UInt64} (small : v.toNat < 4) : (ofWord v).toWord = v := by
  unfold ofWord
  simp only [← UInt64.toNat_inj, UInt64.toNat_zero, UInt64.toNat_one, UInt64.reduceToNat]
  repeat' split
  all_goals simp only [toWord, UInt64.toNat_zero, UInt64.toNat_one, UInt64.reduceToNat]
  all_goals omega

/-- Different lock bits have different numbers. -/
lemma LockBits.toWord_inj {b b' : LockBits} : b.toWord.toNat = b'.toWord.toNat ↔ b = b' := by
  cases b <;> cases b' <;> decide

namespace LockWord

variable {w : LockWord} {b : LockBits} {h : UInt32} {a : UInt64}

/-- The last of two hashes put into a word stays. -/
lemma withHash_withHash (w : LockWord) (h h' : UInt32) :
    (w.withHash h').withHash h = w.withHash h :=
  congrArg mk (Field.put_put hashField_fits ..)

/-- The last of two lock bits put into a word stays. -/
lemma withBits_withBits (w : LockWord) (b b' : LockBits) :
    (w.withBits b').withBits b = w.withBits b :=
  congrArg mk (Field.put_put lockField_fits ..)

/-- The hash and the lock bits of a word may be set in any order. -/
lemma withHash_withBits (w : LockWord) (h : UInt32) (b : LockBits) :
    (w.withBits b).withHash h = (w.withHash h).withBits b :=
  congrArg mk (Field.put_comm hashField_fits lockField_fits (by decide) ..)

/-- The two lowest bits of a word are its remainder. -/
lemma toNat_read_lockField (v : UInt64) : (lockField.read v).toNat = v.toNat % 4 := by
  show ((v >>> 0) &&& lockField.mask).toNat = _
  rw [UInt64.shiftRight_zero, Field.toNat_and_mask lockField_fits]
  rfl

/-- The lock bits of a word have the number that its field holds. -/
lemma toWord_bits (w : LockWord) : w.bits.toWord = lockField.read w.value := by
  refine LockBits.toWord_ofWord ?_
  rw [toNat_read_lockField]
  omega

/-- The lock bits are the remainder of a word. -/
lemma bits_iff : w.bits = b ↔ w.value.toNat % 4 = b.toWord.toNat := by
  rw [← toNat_read_lockField, ← toWord_bits, LockBits.toWord_inj]

/-- Setting the lock bits that a word has changes nothing. -/
lemma withBits_bits (w : LockWord) : w.withBits w.bits = w := by
  unfold withBits
  rw [toWord_bits, Field.put_read lockField_fits]

/-- What a new hash does to a word. -/
structure HashLaws (w : LockWord) (h : UInt32) : Prop where
  /-- A writer that refuses values that do not fit would not refuse this one. -/
  valid : hashField.update? (h &&& hashMask).toUInt64 w.value = some (w.withHash h).value
  hash : (w.withHash h).hash.toNat = h.toNat % 2 ^ 31
  outside : ∀ i, i < 8 ∨ 38 < i →
    (w.withHash h).value.toNat.testBit i = w.value.toNat.testBit i
  overwrites : ∀ h', (w.withHash h').withHash h = w.withHash h

/-- Every word and every hash obey the laws of hashes. -/
lemma hashLaws (w : LockWord) (h : UInt32) : w.HashLaws h where
  valid := w.update?_hash h
  hash := by
    rw [hash_withHash, toNat_and_hashMask]
  outside i apart := Field.testBit_put hashField_fits _ _ (by simp only [hashField]; omega)
  overwrites := w.withHash_withHash h

/-- What new lock bits do to a word. -/
structure BitsLaws (w : LockWord) (b : LockBits) : Prop where
  valid : lockField.update? b.toWord w.value = some (w.withBits b).value
  bits : (w.withBits b).bits = b
  hash : (w.withBits b).hash = w.hash
  outside : ∀ i, 1 < i → (w.withBits b).value.toNat.testBit i = w.value.toNat.testBit i
  overwrites : ∀ b', (w.withBits b').withBits b = w.withBits b
  comm : ∀ h, (w.withBits b).withHash h = (w.withHash h).withBits b

/-- Every word and all lock bits obey the laws of lock bits. -/
lemma bitsLaws (w : LockWord) (b : LockBits) : w.BitsLaws b where
  valid := w.update?_bits b
  bits := bits_withBits w b
  hash := hash_withBits w b
  outside i apart := Field.testBit_put lockField_fits _ _ (by simp only [lockField]; omega)
  overwrites := w.withBits_withBits b
  comm h := w.withHash_withBits h b

/-- Which words are of which kind. Every word is of one of the first four kinds. -/
structure KindLaws (w : LockWord) : Prop where
  unlocked : w.isUnlocked = true ↔ w.value.toNat % 4 = 1
  fastLocked : w.isFastLocked = true ↔ w.value.toNat % 4 = 0
  monitor : w.hasMonitor = true ↔ w.value.toNat % 4 = 2
  marked : w.bits = .marked ↔ w.value.toNat % 4 = 3
  one : [w.isUnlocked, w.isFastLocked, w.hasMonitor, w.bits == .marked].count true = 1
  stackLocked : w.isStackLocked = true ↔ w.isFastLocked = true ∧ w ≠ inflating
  /-- An unlocked word comes back when the lock is given up. -/
  unlockedAgain : w.isUnlocked = true → w.setFastLocked.setUnlocked = w ∧ w.setMonitor.setUnlocked = w

/-- A word is the address of a record if its lock bits say so and it is not the word that stands in
while a monitor is being installed. -/
lemma isStackLocked_iff : w.isStackLocked = true ↔ w.bits = .locked ∧ w ≠ inflating := by
  unfold isStackLocked isInflating
  rw [Bool.and_eq_true_iff, beq_iff_eq, Bool.not_eq_true', beq_eq_false_iff_ne]

/-- Every word obeys the laws of kinds. -/
lemma kindLaws (w : LockWord) : w.KindLaws where
  unlocked := beq_iff_eq.trans bits_iff
  fastLocked := beq_iff_eq.trans bits_iff
  monitor := beq_iff_eq.trans bits_iff
  marked := bits_iff
  one := by
    unfold isUnlocked isFastLocked hasMonitor
    cases w.bits <;> decide
  stackLocked := isStackLocked_iff.trans (and_congr_left' beq_iff_eq.symm)
  unlockedAgain unlocked := by
    have back (b : LockBits) : (w.withBits b).withBits .unlocked = w := by
      rw [withBits_withBits, ← beq_iff_eq.1 unlocked, withBits_bits]
    exact ⟨back .locked, back .monitor⟩

/-- A word that is an aligned address has the lock bits of a record's address. -/
lemma bits_ofRecord : (ofRecord a).bits = .locked ↔ Aligned a := bits_iff

/-- The word of a monitor is its address with the lock bits of a monitor. -/
lemma ofMonitor_eq (aligned : Aligned a) : ofMonitor a = (ofRecord a).withBits .monitor := by
  have clear : a &&& ~~~lockField.maskInPlace = a := by
    have kept := withBits_bits (ofRecord a)
    rw [bits_ofRecord.2 aligned] at kept
    exact (Field.put_zero ..).symm.trans (congrArg value kept)
  show mk (a ||| LockBits.monitor.toWord) = mk ((a &&& ~~~lockField.maskInPlace) ||| _)
  rw [clear]
  rfl

/-- The address of a monitor is what is left of its word without the lock bits. -/
lemma monitor?_eq_some : w.monitor? = some a ↔ w.bits = .monitor ∧ w.withBits .locked = ofRecord a := by
  unfold monitor? hasMonitor
  rw [← Field.put_zero, Option.ite_none_right_eq_some, beq_iff_eq, Option.some.injEq]
  exact and_congr_right' (mk.injEq ..).symm.to_iff

/-- How addresses are put into words and got back. -/
structure AddressLaws (a : UInt64) : Prop where
  locker : ∀ w : LockWord, w.locker? = some a ↔ w = ofRecord a ∧ Aligned a ∧ a ≠ 0
  monitor : ∀ w : LockWord, w.monitor? = some a ↔ w = ofMonitor a ∧ Aligned a
  apart : Aligned a → ∀ a', Aligned a' → ofRecord a ≠ ofMonitor a'
  locked : Aligned a → ∀ w : LockWord, w.isUnlocked = true → w ≠ ofRecord a ∧ w ≠ ofMonitor a

/-- Every address obeys the laws of addresses. -/
lemma addressLaws (a : UInt64) : AddressLaws a := by
  have bits_ofMonitor {a : UInt64} (aligned : Aligned a) : (ofMonitor a).bits = .monitor := by
    rw [ofMonitor_eq aligned, bits_withBits]
  constructor
  case locker =>
    intro w
    unfold locker?
    rw [Option.ite_none_right_eq_some, isStackLocked_iff, Option.some.injEq]
    constructor
    · rintro ⟨⟨locked, ne⟩, rfl⟩
      exact ⟨rfl, bits_ofRecord.1 locked, fun zero => ne (congrArg mk zero)⟩
    · rintro ⟨rfl, aligned, ne⟩
      exact ⟨⟨bits_ofRecord.2 aligned, fun zero => ne (congrArg value zero)⟩, rfl⟩
  case monitor =>
    intro w
    rw [monitor?_eq_some]
    constructor
    · rintro ⟨monitor, rest⟩
      -- The word without its lock bits is the address, so the address has none.
      have aligned : Aligned a := bits_ofRecord.1 (rest ▸ bits_withBits w .locked)
      rw [ofMonitor_eq aligned, ← rest, withBits_withBits, ← monitor, withBits_bits]
      exact ⟨rfl, aligned⟩
    · rintro ⟨rfl, aligned⟩
      refine ⟨bits_ofMonitor aligned, ?_⟩
      rw [ofMonitor_eq aligned, withBits_withBits, ← bits_ofRecord.2 aligned, withBits_bits]
  case apart =>
    intro aligned a' aligned' eq
    have same := congrArg bits eq
    rw [bits_ofRecord.2 aligned, bits_ofMonitor aligned'] at same
    cases same
  case locked =>
    intro aligned w unlocked
    have free : w.bits = .unlocked := beq_iff_eq.1 unlocked
    constructor
    · rintro rfl
      cases free.symm.trans (bits_ofRecord.2 aligned)
    · rintro rfl
      cases free.symm.trans (bits_ofMonitor aligned)

/-- The laws of all words, hashes, lock bits and addresses. -/
theorem laws (w : LockWord) (h : UInt32) (b : LockBits) (a : UInt64) :
    w.HashLaws h ∧ w.BitsLaws b ∧ w.KindLaws ∧ AddressLaws a :=
  ⟨w.hashLaws h, w.bitsLaws b, w.kindLaws, addressLaws a⟩

end LockWord

end ObjectLocks
