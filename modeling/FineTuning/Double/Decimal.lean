import FineTuning.Double.Basic

/-!
# Numbers from decimal notation

A decimal is read as its significand, rounded to a `Double`, times or over a power of ten. This
is fast and exact for the numbers that people write, and for other ones it can be off the nearest
number in the last bit: the significand, the power and their product are each rounded.
-/

namespace FineTuning.Double

/-- The number nearest to a power of ten. -/
def powerOfTen (k : Nat) : Double :=
  ofRatio false (Nat.pow 10 k) 1

/-- The absolute value of `significand · 10 ^ exponent`, for significands of at most 64 bits. Two
divisions are needed below the smallest power of ten, and nothing is left after them. -/
def scaleByTen (significand : Nat) (exponent : Int) : Double :=
  let start := ofInt significand
  if 308 < exponent then if significand = 0 then zero else infinity
  else if 0 ≤ exponent then start.mul (powerOfTen exponent.toNat)
  else if -308 ≤ exponent then start.div (powerOfTen (-exponent).toNat)
  else if -616 ≤ exponent then
    (start.div (powerOfTen 308)).div (powerOfTen (-exponent - 308).toNat)
  else zero

/-- `± significand · 10 ^ exponent`, unless that is out of range. -/
def ofDecimal? (negative : Bool) (significand : Nat) (exponent : Int) : Option Double :=
  let value := scaleByTen significand exponent
  if value.isFinite then some (if negative then value.negate else value) else none

end FineTuning.Double
