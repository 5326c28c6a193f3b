import FineTuning.Proofs.Double.Finite
import Mathlib.Algebra.Order.Field.Rat

/-!
# Whole doubles

A finite double stands for the rational number `toRat`, and is a whole number only if it is equal
to it (`toInt?_eq_some_iff`).

Where 64 bits have to do, large integers are rounded to doubles and large doubles cut to the range.
All of them end at the bounds of the range, so that every number between them is still exact.

* `two_pow_le_of_toInt?_ofInt`: rounding takes no whole number below a power of two.
* `toInt64?_eq_some_iff`: between the bounds nothing is cut.
* `toInt64?_ofInt_ne`: no integer out of range is taken for a number between the bounds.
-/

namespace FineTuning.Double

/-- The number that a finite double stands for. -/
def toRat (x : Double) : ℚ :=
  (if x.isNegative then -1 else 1) * x.significand * 2 ^ x.scale

theorem denominator_pos (x : Double) : 0 < x.denominator := by
  rw [denominator, Nat.one_shiftLeft]
  exact Nat.two_pow_pos _

/-- The fraction of the absolute value is the significand scaled up or down. -/
theorem significand_mul_zpow (x : Double) :
    x.significand * (2 : ℚ) ^ x.scale * x.denominator = x.numerator := by
  have hscale : (2 : ℚ) ^ x.scale * 2 ^ (-x.scale).toNat = 2 ^ x.scale.toNat := by
    rw [← zpow_natCast, ← zpow_natCast, ← zpow_add₀ (by decide)]
    congr 1
    omega
  rw [denominator, numerator, Nat.one_shiftLeft, Nat.shiftLeft_eq]
  push_cast
  rw [mul_assoc, hscale]

/-- A double is equal to a whole number just when its fraction is. -/
theorem toRat_eq_intCast_iff {x : Double} {n : Int} :
    x.toRat = n ↔
      n * x.denominator = if x.isNegative then -(x.numerator : Int) else x.numerator := by
  have hden : (x.denominator : ℚ) ≠ 0 := Nat.cast_ne_zero.mpr (Nat.ne_of_gt x.denominator_pos)
  have hfraction : x.toRat * x.denominator =
      ((if x.isNegative then -(x.numerator : Int) else x.numerator : Int) : ℚ) := by
    rw [toRat, mul_assoc, mul_assoc, ← mul_assoc (x.significand : ℚ), significand_mul_zpow]
    split <;> simp
  rw [← mul_left_inj' hden, hfraction, eq_comm]
  norm_cast

/-- **Only whole doubles are read as whole numbers,** and as no others. -/
theorem toInt?_eq_some_iff {x : Double} {n : Int} :
    x.toInt? = some n ↔ x.isFinite = true ∧ x.toRat = n := by
  rw [toRat_eq_intCast_iff, toInt?]
  by_cases hdvd : x.denominator ∣ x.numerator
  · obtain ⟨q, hq⟩ := hdvd
    have hden : (x.denominator : Int) ≠ 0 :=
      Int.natCast_ne_zero.mpr (Nat.ne_of_gt x.denominator_pos)
    have hwhole : (n * x.denominator =
        if x.isNegative then -(x.numerator : Int) else x.numerator) ↔
          (if x.isNegative then -(q : Int) else q) = n := by
      rw [hq, Nat.cast_mul, ← Int.mul_neg, ← mul_ite, mul_comm n, mul_right_inj' hden, eq_comm]
    rw [hwhole, hq, Nat.mul_mod_right, Nat.mul_div_cancel_left q x.denominator_pos]
    simp
  · have hrest : x.numerator % x.denominator ≠ 0 := fun h => hdvd (Nat.dvd_of_mod_eq_zero h)
    simp only [beq_eq_false_iff_ne.mpr hrest, Bool.and_false, Bool.false_eq_true, ↓reduceIte]
    refine iff_of_false nofun fun ⟨_, hn⟩ => hdvd (Int.natCast_dvd_natCast.mp ?_)
    split at hn
    · exact Int.dvd_neg.mp ⟨n, by rw [← hn, mul_comm]⟩
    · exact ⟨n, by rw [← hn, mul_comm]⟩

/-! ## Large numbers -/

/-- A whole number from `2 ^ 52` on is scaled to 53 bits. -/
theorem fittingScale_of_large {n : Nat} (h : 2 ^ 52 ≤ n) :
    fittingScale n 1 = (n.log2 - 52 : Nat) := by
  have hn : n ≠ 0 := Nat.ne_of_gt (Nat.lt_of_lt_of_le (by decide) h)
  have hlog : 52 ≤ n.log2 := (Nat.le_log2 hn).mpr h
  have hone : Nat.log2 1 = 0 := by decide
  have hleft : (-((n.log2 : Int) - (0 : Nat) - 52 + 52)).toNat = 0 := by omega
  have hright : ((n.log2 : Int) - (0 : Nat) - 52 + 52).toNat = n.log2 := by omega
  have hbelow : ¬n <<< 0 < 1 <<< n.log2 := by
    rw [Nat.shiftLeft_zero, Nat.one_shiftLeft]
    exact Nat.not_lt.mpr (Nat.log2_self_le hn)
  unfold fittingScale
  dsimp only
  rw [hone, hleft, hright, if_neg hbelow]
  omega

theorem div_le_roundDiv (n d : Nat) : n / d ≤ roundDiv n d := by
  unfold roundDiv
  dsimp only
  split
  · omega
  · split <;> omega

/-- The double nearest to a whole number from `2 ^ k` on has at least the exponent `k`. -/
theorem le_magnitude_ofInt {i : Int} {k : Nat} (hk : 52 ≤ k) (h : 2 ^ k ≤ i.natAbs) :
    min ((k + 1023) * exponentUnit) infiniteMagnitude ≤ (ofInt i).magnitude := by
  have hn : i.natAbs ≠ 0 := Nat.ne_of_gt (Nat.lt_of_lt_of_le (Nat.two_pow_pos k) h)
  have hlog : k ≤ i.natAbs.log2 := (Nat.le_log2 hn).mpr h
  have hlarge : 2 ^ 52 ≤ i.natAbs := Nat.le_trans (Nat.pow_le_pow_right (by decide) hk) h
  have hinfinite : infiniteMagnitude < signBit := by decide
  rw [ofInt, ofRatio, if_neg hn, fittingScale_of_large hlarge]
  generalize i.natAbs = n at hn hlog
  have hleft : (-((n.log2 - 52 : Nat) : Int)).toNat = 0 := by omega
  have hscale : (((n.log2 - 52 : Nat) : Int) + 1074).toNat = n.log2 + 1022 := by omega
  dsimp only
  rw [hleft, Int.toNat_natCast, hscale, Nat.shiftLeft_zero, Nat.one_shiftLeft]
  -- The leading bit of the significand stays where it is.
  have hsignificand : exponentUnit ≤ n / 2 ^ (n.log2 - 52) := by
    rw [Nat.le_div_iff_mul_le (Nat.two_pow_pos _)]
    calc exponentUnit * 2 ^ (n.log2 - 52)
        = 2 ^ (52 + (n.log2 - 52)) := (Nat.pow_add 2 52 _).symm
      _ = 2 ^ n.log2 := by rw [Nat.add_sub_cancel' (Nat.le_trans hk hlog)]
      _ ≤ n := Nat.log2_self_le hn
  have hrounded := Nat.le_trans hsignificand (div_le_roundDiv n (2 ^ (n.log2 - 52)))
  have hexponent : (k + 1022) * exponentUnit ≤ (n.log2 + 1022) * exponentUnit :=
    Nat.mul_le_mul_right _ (Nat.add_le_add_right hlog _)
  rw [magnitude_ofMagnitude _ (Nat.lt_of_le_of_lt (Nat.min_le_right _ _) hinfinite)]
  refine Nat.le_min.mpr ⟨Nat.le_trans (Nat.min_le_left _ _) ?_, Nat.min_le_right _ _⟩
  rw [show k + 1023 = k + 1022 + 1 from rfl, Nat.succ_mul]
  exact Nat.add_le_add hexponent hrounded

/-- A double with at least the exponent `k` is a whole number from `2 ^ k` on. -/
theorem two_pow_le_numerator {x : Double} {k : Nat} (hk : 52 ≤ k)
    (h : (k + 1023) * exponentUnit ≤ x.magnitude) :
    2 ^ k ≤ x.numerator ∧ x.denominator = 1 := by
  have hfield : k + 1023 ≤ x.exponentField := (Nat.le_div_iff_mul_le (by decide)).mpr h
  have hnormal : x.exponentField ≠ 0 := by omega
  have hscale : x.scale = ((x.exponentField - 1075 : Nat) : Int) := by
    rw [scale, if_neg hnormal]
    omega
  constructor
  · rw [numerator, hscale, Int.toNat_natCast, significand, if_neg hnormal, Nat.shiftLeft_eq]
    calc 2 ^ k = 2 ^ 52 * 2 ^ (k - 52) := by rw [← Nat.pow_add, Nat.add_sub_cancel' hk]
      _ ≤ (exponentUnit + x.fraction) * 2 ^ (x.exponentField - 1075) :=
        Nat.mul_le_mul (Nat.le_add_right _ _) (Nat.pow_le_pow_right (by decide) (by omega))
  · have hright : (-x.scale).toNat = 0 := by omega
    rw [denominator, hright, Nat.shiftLeft_zero]

/-- **Rounding takes no whole number below a power of two** that it is not below itself. -/
theorem two_pow_le_of_toInt?_ofInt {i n : Int} {k : Nat} (hk : 52 ≤ k) (h : 2 ^ k ≤ i.natAbs)
    (hn : (ofInt i).toInt? = some n) : 2 ^ k ≤ n.natAbs := by
  have hmagnitude := le_magnitude_ofInt hk h
  rw [toInt?] at hn
  split at hn
  · rename_i hwhole
    have hfinite : (ofInt i).magnitude < infiniteMagnitude :=
      of_decide_eq_true (Bool.and_eq_true_iff.mp hwhole).1
    obtain ⟨hnumerator, hdenominator⟩ := two_pow_le_numerator hk
      ((min_le_iff.mp hmagnitude).resolve_right (Nat.not_le.mpr hfinite))
    rw [hdenominator, Nat.div_one] at hn
    cases hn
    split
    · rwa [Int.natAbs_neg, Int.natAbs_natCast]
    · rwa [Int.natAbs_natCast]
  · cases hn

/-! ## Numbers of 64 bits -/

section Range

variable {n : Int64} (hlow : Int64.minValue < n) (hhigh : n < Int64.maxValue)
include hlow hhigh

/-- Numbers out of range are cut to its bounds. -/
theorem ofIntClamp_eq_iff {m : Int} : Int64.ofIntClamp m = n ↔ m = n.toInt := by
  constructor
  · intro h
    unfold Int64.ofIntClamp at h
    split at h
    · split at h
      · rw [← h, Int64.toInt_ofIntLE]
      · exact absurd (h ▸ hhigh) Int64.lt_irrefl
    · exact absurd (h ▸ hlow) Int64.lt_irrefl
  · rintro rfl
    exact n.ofIntClamp_toInt

/-- Between the bounds of the range nothing is cut. -/
theorem toInt64?_eq_some_iff {x : Double} :
    x.toInt64? = some n ↔ x.isFinite = true ∧ x.toRat = n.toInt := by
  simp [toInt64?, ofIntClamp_eq_iff hlow hhigh, toInt?_eq_some_iff]

/-- **No integer out of range is taken for a number between the bounds,** rounded or cut. -/
theorem toInt64?_ofInt_ne {i : Int} (h : 2 ^ 63 ≤ i.natAbs) : (ofInt i).toInt64? ≠ some n := by
  intro hn
  obtain ⟨m, hm, hclamp⟩ := Option.map_eq_some_iff.mp hn
  obtain rfl := (ofIntClamp_eq_iff hlow hhigh).mp hclamp
  have hlarge := two_pow_le_of_toInt?_ofInt (by decide) h hm
  have hlow := Int64.lt_iff_toInt_lt.mp hlow
  have hhigh := Int64.lt_iff_toInt_lt.mp hhigh
  rw [Int64.toInt_minValue] at hlow
  rw [Int64.toInt_maxValue] at hhigh
  omega

end Range

end FineTuning.Double
