import Harvest.Number.Binary64
import Mathlib.Algebra.Order.Field.Rat
import Mathlib.Data.Nat.Cast.Field
/-!
# The rational numbers that floating-point numbers are

A finite floating-point number is a rational number, and it is read as an integer exactly if it is one
(`integer?_eq_some`).
-/
namespace Harvest.Binary64

/-- The rational number that a finite floating-point number is. -/
def toRat (x : Binary64) : ℚ := (if x.isNegative then -1 else 1) * (x.significand * 2 ^ x.exponent)

/-- The magnitude of a number is the quotient of its ratio. -/
theorem ratio_eq (x : Binary64) : (x.ratio.1 : ℚ) / x.ratio.2 = x.significand * 2 ^ x.exponent := by
  have hexponent : (2 : ℚ) ^ x.exponent = 2 ^ x.exponent.toNat / 2 ^ (-x.exponent).toNat := by
    rw [← zpow_natCast, ← zpow_natCast, ← zpow_sub₀ two_ne_zero, Int.toNat_sub_toNat_neg]
  simp only [hexponent, ratio, Nat.pow_eq, Nat.cast_mul, Nat.cast_pow, Nat.cast_ofNat]
  rw [mul_div_assoc]

theorem ratio_ne_zero (x : Binary64) : (x.ratio.2 : ℚ) ≠ 0 := Nat.cast_ne_zero.2 (Nat.two_pow_pos _).ne'

/-- The integer part of a number is the number if its ratio comes out even. -/
theorem truncate_eq {x : Binary64} (h : x.ratio.1 % x.ratio.2 = 0) : (x.truncate : ℚ) = x.toRat := by
  have hquotient : ((x.ratio.1 / x.ratio.2 : Nat) : ℚ) = x.significand * 2 ^ x.exponent := by
    rw [Nat.cast_div (Nat.dvd_of_mod_eq_zero h) x.ratio_ne_zero, ratio_eq]
  unfold truncate toRat
  rw [← hquotient]
  cases x.isNegative
  · rw [if_neg (by decide), if_neg (by decide), one_mul, Int.cast_natCast]
  · rw [if_pos rfl, if_pos rfl, neg_one_mul, Int.cast_neg, Int.cast_natCast]

/-- A number that is an integer has a ratio that comes out even. -/
theorem ratio_even {x : Binary64} {n : Int} (h : x.toRat = n) : x.ratio.1 % x.ratio.2 = 0 := by
  have hmagnitude : ∃ m : Int, (x.ratio.1 : ℚ) / x.ratio.2 = m := by
    rw [ratio_eq]
    unfold toRat at h
    cases hsign : x.isNegative
    · rw [hsign, if_neg (by decide), one_mul] at h
      exact ⟨n, h⟩
    · rw [hsign, if_pos rfl, neg_one_mul, neg_eq_iff_eq_neg] at h
      exact ⟨-n, by rw [h, Int.cast_neg]⟩
  obtain ⟨m, hm⟩ := hmagnitude
  -- Both parts of the ratio are integers, so that its quotient is one says that the one part divides the other.
  have hproduct : (x.ratio.1 : Int) = m * x.ratio.2 := by
    rw [div_eq_iff x.ratio_ne_zero] at hm
    exact_mod_cast hm
  exact Nat.mod_eq_zero_of_dvd (Int.natCast_dvd_natCast.1 ⟨m, hproduct.trans (mul_comm _ _)⟩)

/-- **A floating-point number is read as an integer exactly if it is that integer.** -/
theorem integer?_eq_some {x : Binary64} {n : Int} : x.integer? = some n ↔ x.isFinite = true ∧ x.toRat = n := by
  unfold integer?
  constructor
  · intro h
    split at h
    · next hwhole =>
      obtain ⟨hfinite, heven⟩ := Bool.and_eq_true_iff.1 hwhole
      refine ⟨hfinite, ?_⟩
      rw [← Option.some.inj h, truncate_eq (by simpa using heven)]
    · cases h
  · rintro ⟨hfinite, h⟩
    have heven := ratio_even h
    rw [if_pos (by simp [hfinite, heven])]
    have htruncate : (x.truncate : ℚ) = n := (truncate_eq heven).trans h
    exact congrArg some (by exact_mod_cast htruncate)

end Harvest.Binary64
