import DriverHub.Number.Binary64
import Mathlib.Algebra.Order.Field.Power
import Mathlib.Data.Nat.Cast.Field
import Mathlib.Data.Rat.Cast.Order

/-! The numbers that doubles stand for, as rationals, and which of them are integers. -/

namespace DriverHub.Binary64

/-- The number that a finite double stands for. -/
def toRat (x : Binary64) : ℚ :=
  (if x.negative then -1 else 1) * (x.significand * 2 ^ x.scale)

theorem ratio_den_pos (x : Binary64) : 0 < x.ratio.2 := Nat.pow_pos (by decide)

theorem magnitude_eq (x : Binary64) :
    (x.significand : ℚ) * 2 ^ x.scale = (x.ratio.1 : ℚ) / x.ratio.2 := by
  unfold ratio
  obtain ⟨n, hn | hn⟩ := x.scale.eq_nat_or_neg
  · simp [hn]
  · simp [hn, div_eq_mul_inv]

theorem mod_eq_zero_of_div_eq {num den : Nat} (hden : 0 < den) {i : ℤ}
    (h : (num : ℚ) / den = i) : num % den = 0 := by
  have hne : (den : ℚ) ≠ 0 := by exact_mod_cast hden.ne'
  have hmul : (num : ℚ) = i * den := (div_eq_iff hne).1 h
  have hdvd : (den : ℤ) ∣ (num : ℤ) := ⟨i, by
    rw [mul_comm]
    exact_mod_cast hmul⟩
  exact Nat.mod_eq_zero_of_dvd (Int.natCast_dvd_natCast.1 hdvd)

theorem div_eq_of_mod_eq_zero {num den : Nat} (hden : 0 < den) (h : num % den = 0) :
    (num : ℚ) / den = ((num / den : Nat) : ℚ) := by
  have hne : (den : ℚ) ≠ 0 := by exact_mod_cast hden.ne'
  exact (Nat.cast_div (Nat.dvd_of_mod_eq_zero h) hne).symm

/-- A finite double is taken for an integer just if it stands for that integer. -/
theorem integer?_eq_some_iff {x : Binary64} (hx : x.isFinite = true) (i : ℤ) :
    x.integer? = some i ↔ x.toRat = i := by
  have hden := x.ratio_den_pos
  unfold integer? toRat
  rw [if_pos hx, magnitude_eq]
  simp only
  split
  · next hmod =>
    rw [div_eq_of_mod_eq_zero hden hmod]
    generalize x.ratio.1 / x.ratio.2 = k
    have hcast : (k : ℚ) = ((k : ℤ) : ℚ) := (Int.cast_natCast k).symm
    rw [Option.some_inj, hcast]
    cases x.negative with
    | false =>
      simp only [Bool.false_eq_true, if_false, one_mul]
      rw [Int.cast_inj]
    | true =>
      simp only [if_true, neg_mul, one_mul]
      rw [← Int.cast_neg, Int.cast_inj]
  · next hmod =>
    refine iff_of_false nofun fun h => hmod ?_
    cases hneg : x.negative with
    | false =>
      rw [hneg] at h
      simp only [Bool.false_eq_true, if_false, one_mul] at h
      exact mod_eq_zero_of_div_eq hden h
    | true =>
      rw [hneg] at h
      simp only [if_true, neg_mul, one_mul] at h
      refine mod_eq_zero_of_div_eq hden (i := -i) ?_
      rw [Int.cast_neg, ← h, neg_neg]

end DriverHub.Binary64
