import DriverCompat.Json.Value
import Mathlib.Algebra.Order.Field.Rat
import Mathlib.Algebra.Order.Field.Power
import Mathlib.Data.Nat.Cast.Field
import Mathlib.Tactic.NormNum

/-! # What numbers stand for

An integer and a finite double both stand for a rational number. A number is compared with an
integer by this rational number, so it does not matter in which of the two forms it comes.
-/

namespace DriverCompat

namespace Decimal.Binary64

/-- The rational number that a finite double stands for. -/
def value (x : Binary64) : ℚ :=
  (if x.isNegative then -1 else 1) * (x.significand * (2 : ℚ) ^ x.scale)

/-- The quotient of a double has the magnitude of its value. -/
theorem quotient_eq (x : Binary64) :
    (x.quotient.1 : ℚ) / x.quotient.2 = x.significand * (2 : ℚ) ^ x.scale := by
  unfold quotient
  split
  · rename_i negative
    have exponent : x.scale = -((-x.scale).toNat : Int) := by omega
    rw [exponent, zpow_neg, zpow_natCast, neg_neg, Int.toNat_natCast]
    push_cast
    exact div_eq_mul_inv _ _
  · rename_i nonnegative
    have exponent : x.scale = (x.scale.toNat : Int) := by omega
    rw [exponent, zpow_natCast, Int.toNat_natCast]
    push_cast
    exact div_one _

theorem quotient_pos (x : Binary64) : 0 < x.quotient.2 := by
  unfold quotient
  split
  · exact Nat.two_pow_pos _
  · exact Nat.one_pos

/-- A quotient is an integer exactly if it leaves no remainder. -/
theorem div_eq_intCast_iff {num den : Nat} (positive : 0 < den) (i : Int) :
    (num : ℚ) / den = i ↔ num % den = 0 ∧ ((num / den : Nat) : Int) = i := by
  have nonzero : (den : ℚ) ≠ 0 := Nat.cast_ne_zero.mpr positive.ne'
  rw [div_eq_iff nonzero]
  constructor
  · intro product
    have product : (num : Int) = i * den := by exact_mod_cast product
    refine ⟨Nat.mod_eq_zero_of_dvd
      (Int.natCast_dvd_natCast.mp ⟨i, product.trans (mul_comm ..)⟩), ?_⟩
    rw [Int.natCast_div, product]
    exact Int.mul_ediv_cancel i (Int.natCast_ne_zero.mpr positive.ne')
  · rintro ⟨whole, rfl⟩
    exact_mod_cast (Nat.div_mul_cancel (Nat.dvd_of_mod_eq_zero whole)).symm

/-- A double is an integer exactly if it stands for that integer. -/
theorem toInt?_eq_some_iff {x : Binary64} {i : Int} :
    x.toInt? = some i ↔ x.isFinite = true ∧ x.value = i := by
  unfold toInt? value
  rw [← quotient_eq]
  obtain ⟨num, den, shape⟩ : ∃ num den, x.quotient = (num, den) := ⟨_, _, rfl⟩
  have positive : 0 < den := by simpa only [shape] using x.quotient_pos
  rw [shape]
  by_cases finite : x.isFinite = true
  · simp only [finite, if_true, true_and]
    cases x.isNegative with
    | false =>
      simp only [Bool.false_eq_true, if_false, one_mul, div_eq_intCast_iff positive]
      split_ifs with whole <;> simp [whole]
    | true =>
      have flipped : -1 * ((num : ℚ) / den) = i ↔ (num : ℚ) / den = (-i : Int) := by
        rw [neg_one_mul, neg_eq_iff_eq_neg, Int.cast_neg]
      simp only [if_true, flipped, div_eq_intCast_iff positive]
      split_ifs with whole
      · simp only [whole, true_and, Option.some.injEq]
        omega
      · simp [whole]
  · simp [finite]

end Decimal.Binary64

namespace Json.Number

/-- The rational number that a number stands for. -/
def value : Number → ℚ
  | .integer value _ => value
  | .double value _ => value.value

/-- A number is the same as an integer exactly if it stands for it, in whichever form it comes. -/
theorem isEqualTo_iff (number : Number) (i : Int) :
    number.isEqualTo i = true ↔ number.value = i := by
  cases number with
  | integer value range => simp only [isEqualTo, Number.value, beq_iff_eq, Int.cast_inj]
  | double value finite =>
    simp only [isEqualTo, Number.value, beq_iff_eq, Decimal.Binary64.toInt?_eq_some_iff, finite,
      true_and]

end Json.Number

end DriverCompat
