import Mathlib.Tactic.Lemma
import OscRemote.Number.Binary

/-!
# Which patterns stand for the same number

`sameNumber` has two exceptions to equality of patterns: a pattern that stands for no number is the
same as none, and the two zeros are the same.  There is just one zero of either sign
(`magnitude_eq_zero_iff`), so the second goes away once `withoutNegativeZero` puts the one in place
of the other, which is how `sameNumber_iff` says what is compared.
-/

namespace OscRemote.Number

/-- Two values are equal, or both among two that count as one, exactly if they are equal once the
first of the two stands for both. -/
lemma eq_or_both_iff {α : Type} [DecidableEq α] (kept replaced x y : α) :
    x = y ∨ (x = kept ∨ x = replaced) ∧ (y = kept ∨ y = replaced) ↔
      (if x = replaced then kept else x) = if y = replaced then kept else y := by
  grind

namespace Single

/-- The zero without a sign. -/
def zero : Single := ⟨0⟩

/-- The zero with a sign. -/
def negativeZero : Single := ⟨0x80000000⟩

/-- The same number, with one pattern for both zeros. -/
def withoutNegativeZero (x : Single) : Single := if x = negativeZero then zero else x

lemma toNat_magnitude (x : Single) : x.magnitude.toNat = x.bits.toNat % 2147483648 := by
  have hmask : (0x7FFFFFFF : UInt32).toNat = 2 ^ 31 - 1 := by decide
  rw [magnitude, UInt32.toNat_and, hmask, Nat.and_two_pow_sub_one_eq_mod]

lemma magnitude_eq_zero_iff (x : Single) : x.magnitude = 0 ↔ x = zero ∨ x = negativeZero := by
  have hmagnitude := x.toNat_magnitude
  have hbound := x.bits.toNat_lt
  obtain ⟨bits⟩ := x
  simp only [zero, negativeZero, mk.injEq, ← UInt32.toNat_inj, UInt32.reduceToNat]
    at hmagnitude hbound ⊢
  omega

/-- Two patterns stand for the same number exactly if each stands for one and they are equal but for
the sign of zero. -/
lemma sameNumber_iff (x y : Single) : x.sameNumber y = true ↔
    x.isNan = false ∧ y.isNan = false ∧ x.withoutNegativeZero = y.withoutNegativeZero := by
  have hbits : x.bits = y.bits ↔ x = y := by
    cases x
    cases y
    rw [mk.injEq]
  simp only [sameNumber, Bool.and_eq_true, Bool.not_eq_true', Bool.or_eq_true, beq_iff_eq,
    magnitude_eq_zero_iff, hbits, eq_or_both_iff, and_assoc, withoutNegativeZero]

@[simp] lemma isNan_withoutNegativeZero (x : Single) :
    x.withoutNegativeZero.isNan = x.isNan := by
  unfold withoutNegativeZero
  split
  case isTrue h =>
    rw [h]
    rfl
  case isFalse => rfl

end Single

namespace Double

/-- The zero without a sign. -/
def zero : Double := ⟨0⟩

/-- The zero with a sign. -/
def negativeZero : Double := ⟨0x8000000000000000⟩

/-- The same number, with one pattern for both zeros. -/
def withoutNegativeZero (x : Double) : Double := if x = negativeZero then zero else x

lemma toNat_magnitude (x : Double) : x.magnitude.toNat = x.bits.toNat % 9223372036854775808 := by
  have hmask : (0x7FFFFFFFFFFFFFFF : UInt64).toNat = 2 ^ 63 - 1 := by decide
  rw [magnitude, UInt64.toNat_and, hmask, Nat.and_two_pow_sub_one_eq_mod]

lemma magnitude_eq_zero_iff (x : Double) : x.magnitude = 0 ↔ x = zero ∨ x = negativeZero := by
  have hmagnitude := x.toNat_magnitude
  have hbound := x.bits.toNat_lt
  obtain ⟨bits⟩ := x
  simp only [zero, negativeZero, mk.injEq, ← UInt64.toNat_inj, UInt64.reduceToNat]
    at hmagnitude hbound ⊢
  omega

/-- Two patterns stand for the same number exactly if each stands for one and they are equal but for
the sign of zero. -/
lemma sameNumber_iff (x y : Double) : x.sameNumber y = true ↔
    x.isNan = false ∧ y.isNan = false ∧ x.withoutNegativeZero = y.withoutNegativeZero := by
  have hbits : x.bits = y.bits ↔ x = y := by
    cases x
    cases y
    rw [mk.injEq]
  simp only [sameNumber, Bool.and_eq_true, Bool.not_eq_true', Bool.or_eq_true, beq_iff_eq,
    magnitude_eq_zero_iff, hbits, eq_or_both_iff, and_assoc, withoutNegativeZero]

@[simp] lemma isNan_withoutNegativeZero (x : Double) :
    x.withoutNegativeZero.isNan = x.isNan := by
  unfold withoutNegativeZero
  split
  case isTrue h =>
    rw [h]
    rfl
  case isFalse => rfl

end Double

end OscRemote.Number
