import DriverHub.Number.Binary64
import Mathlib.Data.Nat.Log
import Mathlib.Tactic.Common

/-! Doubles near integers: an integer of 64 bits, signed or not, is near to a finite double. -/

namespace DriverHub.Binary64

theorem isFinite_ofMagnitude (negative : Bool) {magnitude : Nat}
    (h : magnitude < 2047 * 0x10000000000000) : (ofMagnitude negative magnitude).isFinite = true := by
  unfold isFinite exponentField ofMagnitude
  cases negative with
  | false =>
    have hbits : (UInt64.ofNat magnitude).toNat = magnitude := UInt64.toNat_ofNat_of_lt' (by
      show magnitude < 2 ^ 64
      omega)
    simp only [Bool.false_eq_true, if_false, hbits]
    exact decide_eq_true (by omega)
  | true =>
    have hbits : (UInt64.ofNat (0x8000000000000000 + magnitude)).toNat =
        0x8000000000000000 + magnitude := UInt64.toNat_ofNat_of_lt' (by
      show 0x8000000000000000 + magnitude < 2 ^ 64
      omega)
    simp only [if_true, hbits]
    exact decide_eq_true (by omega)

theorem divEven_le (num den : Nat) : divEven num den ≤ num / den + 1 := by
  unfold divEven
  simp only
  split
  · omega
  · split <;> omega

/-- Scaled down to 53 bits, or one more, a number is small. -/
theorem scaled_lt {num : Nat} {q : Int} (hq : (Nat.log2 num : Int) - 53 ≤ q) :
    num * Nat.pow 2 (-q).toNat / Nat.pow 2 q.toNat ≤ 0x40000000000000 := by
  change _ ≤ 2 ^ 54
  have hnum : num < 2 ^ (Nat.log2 num + 1) := Nat.lt_log2_self
  rw [Nat.pow_eq, Nat.pow_eq]
  rcases Int.le_total 0 q with hsign | hsign
  · have hneg : (-q).toNat = 0 := by omega
    rw [hneg, Nat.pow_zero, Nat.mul_one]
    refine Nat.div_le_of_le_mul ?_
    have hexp : Nat.log2 num + 1 ≤ q.toNat + 54 := by omega
    calc num ≤ 2 ^ (Nat.log2 num + 1) := hnum.le
      _ ≤ 2 ^ (q.toNat + 54) := Nat.pow_le_pow_right (by decide) hexp
      _ = 2 ^ q.toNat * 2 ^ 54 := Nat.pow_add ..
  · have hpos : q.toNat = 0 := by omega
    rw [hpos, Nat.pow_zero, Nat.div_one]
    have hexp : Nat.log2 num + 1 + (-q).toNat ≤ 54 := by omega
    calc num * 2 ^ (-q).toNat ≤ 2 ^ (Nat.log2 num + 1) * 2 ^ (-q).toNat :=
          Nat.mul_le_mul_right _ hnum.le
      _ = 2 ^ (Nat.log2 num + 1 + (-q).toNat) := (Nat.pow_add ..).symm
      _ ≤ 2 ^ 54 := Nat.pow_le_pow_right (by decide) hexp

theorem isFinite_ofRatio_one (negative : Bool) {num : Nat} (h : num ≤ 0x10000000000000000) :
    (ofRatio negative num 1).isFinite = true := by
  unfold ofRatio
  split
  · exact isFinite_ofMagnitude negative (by decide)
  · next hzero =>
    have hlog : Nat.log2 num < 65 := (Nat.log2_lt hzero).2 (h.trans_lt (by decide))
    simp only
    generalize hq : max (if num * Nat.pow 2 (-((Nat.log2 num : Int) - Nat.log2 1 - 53 + 53)).toNat <
      1 * Nat.pow 2 ((Nat.log2 num : Int) - Nat.log2 1 - 53 + 53).toNat
      then (Nat.log2 num : Int) - Nat.log2 1 - 53
      else (Nat.log2 num : Int) - Nat.log2 1 - 53 + 1) (-1074) = q
    have hone : Nat.log2 1 = 0 := by decide
    have hlower : (Nat.log2 num : Int) - 53 ≤ q := by
      rw [← hq, hone]
      refine le_trans ?_ (le_max_left _ _)
      split <;> omega
    have hupper : q ≤ 12 := by
      rw [← hq, hone]
      refine max_le ?_ (by decide)
      split <;> omega
    have hm := divEven_le (num * Nat.pow 2 (-q).toNat) (1 * Nat.pow 2 q.toNat)
    rw [Nat.one_mul] at hm ⊢
    have hsmall := scaled_lt hlower
    have hmagnitude : (q + 1074).toNat * 0x10000000000000 +
        divEven (num * Nat.pow 2 (-q).toNat) (Nat.pow 2 q.toNat) < 2047 * 0x10000000000000 := by
      have hexp : (q + 1074).toNat ≤ 1086 := by omega
      omega
    rw [if_pos (by omega)]
    exact isFinite_ofMagnitude negative hmagnitude

theorem isFinite_ofInt {i : Int} (h : i.natAbs ≤ 0x10000000000000000) : (ofInt i).isFinite = true :=
  isFinite_ofRatio_one _ h

/-! ### Zero -/

theorem ofMagnitude_ne_zero (negative : Bool) {magnitude : Nat} (hpos : 0 < magnitude)
    (h : magnitude < 0x8000000000000000) : ofMagnitude negative magnitude ≠ zero := by
  intro heq
  have hbits : (UInt64.ofNat (if negative then 0x8000000000000000 + magnitude else magnitude)).toNat = 0 :=
    congrArg (fun x : Binary64 => x.bits.toNat) heq
  rw [UInt64.toNat_ofNat_of_lt' (by
    show _ < 2 ^ 64
    split <;> omega)] at hbits
  split at hbits <;> omega

/-- A number of one or more is not rounded to zero. -/
theorem ofRatio_one_ne_zero (negative : Bool) {num : Nat} (h : num ≠ 0) : ofRatio negative num 1 ≠ zero := by
  unfold ofRatio
  rw [if_neg h]
  simp only
  generalize hq : max (if num * Nat.pow 2 (-((Nat.log2 num : Int) - Nat.log2 1 - 53 + 53)).toNat <
    1 * Nat.pow 2 ((Nat.log2 num : Int) - Nat.log2 1 - 53 + 53).toNat
    then (Nat.log2 num : Int) - Nat.log2 1 - 53
    else (Nat.log2 num : Int) - Nat.log2 1 - 53 + 1) (-1074) = q
  have hone : Nat.log2 1 = 0 := by decide
  have hlower : -53 ≤ q := by
    rw [← hq, hone]
    refine le_trans ?_ (le_max_left _ _)
    split <;> omega
  split
  · next hfits => exact ofMagnitude_ne_zero negative (by omega) (by omega)
  · exact ofMagnitude_ne_zero negative (by decide) (by decide)

theorem ofInt_eq_zero_iff (i : Int) : ofInt i = zero ↔ i = 0 := by
  constructor
  · intro h
    by_contra hi
    exact ofRatio_one_ne_zero _ (Int.natAbs_ne_zero.2 hi) h
  · rintro rfl
    rfl

end DriverHub.Binary64
