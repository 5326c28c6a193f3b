/-!
# Binary floating-point numbers

A `Double` is a 64-bit floating-point number held as its bits, so that equality, order and
rounding can be computed and reasoned about exactly. A finite one stands for
`± significand · 2 ^ scale`.

* `ofRatio` is the number nearest to a fraction, a tie going to the even significand.
* `mul` and `div` round the exact product and quotient once.
* `orderKey` gives the total order in which `-0` comes before `0`.
-/

namespace FineTuning

/-- A 64-bit floating-point number: a sign bit, 11 bits of exponent and 52 bits of fraction. -/
structure Double where
  bits : UInt64
deriving DecidableEq

namespace Double

/-- The value of the sign bit, which is the highest of the 64. -/
def signBit : Nat := 0x8000000000000000

/-- The value of the lowest exponent bit, which stands above the 52 bits of the fraction. -/
def exponentUnit : Nat := 0x10000000000000

/-- Whether the sign bit is set; so it is for `-0`. -/
def isNegative (x : Double) : Bool :=
  signBit ≤ x.bits.toNat

/-- The bits of the number without its sign. -/
def magnitude (x : Double) : Nat :=
  x.bits.toNat % signBit

/-- The magnitude of the infinities; a NaN has a larger one. -/
def infiniteMagnitude : Nat :=
  2047 * exponentUnit

/-- The number with the given sign and magnitude. -/
def ofMagnitude (negative : Bool) (magnitude : Nat) : Double :=
  ⟨UInt64.ofNat (if negative then signBit + magnitude else magnitude)⟩

def zero : Double := ofMagnitude false 0

def infinity : Double := ofMagnitude false infiniteMagnitude

def nan : Double := ofMagnitude false (infiniteMagnitude + exponentUnit / 2)

instance : Inhabited Double := ⟨zero⟩

/-- The number with the opposite sign. -/
def negate (x : Double) : Double :=
  ofMagnitude (!x.isNegative) x.magnitude

/-- Whether the number is neither infinite nor a NaN. -/
def isFinite (x : Double) : Bool :=
  x.magnitude < infiniteMagnitude

/-- The exponent bits. -/
def exponentField (x : Double) : Nat :=
  x.magnitude / exponentUnit

/-- The fraction bits. -/
def fraction (x : Double) : Nat :=
  x.magnitude % exponentUnit

/-- The whole number that `2 ^ scale` multiplies. -/
def significand (x : Double) : Nat :=
  if x.exponentField = 0 then x.fraction else exponentUnit + x.fraction

/-- The power of two that multiplies the significand. -/
def scale (x : Double) : Int :=
  if x.exponentField = 0 then -1074 else x.exponentField - 1075

/-- Together with `denominator`, the absolute value as a fraction. -/
def numerator (x : Double) : Nat :=
  x.significand <<< x.scale.toNat

/-- Together with `numerator`, the absolute value as a fraction. -/
def denominator (x : Double) : Nat :=
  1 <<< (-x.scale).toNat

/-- The quotient rounded to the nearest whole number, a half going to the even one. -/
def roundDiv (n d : Nat) : Nat :=
  let q := n / d
  let r := n % d
  if 2 * r < d then q else if d < 2 * r then q + 1 else q + q % 2

/-- The least scale at which the fraction has at most 53 significant bits. -/
def fittingScale (num den : Nat) : Int :=
  let estimate : Int := num.log2 - den.log2 - 52
  let below := num <<< (-(estimate + 52)).toNat < den <<< (estimate + 52).toNat
  max (if below then estimate - 1 else estimate) (-1074)

/-- The number nearest to `± num / den`; infinite when that is out of range. -/
def ofRatio (negative : Bool) (num den : Nat) : Double :=
  if num = 0 then ofMagnitude negative 0
  else
    let scale := fittingScale num den
    let rounded := roundDiv (num <<< (-scale).toNat) (den <<< scale.toNat)
    ofMagnitude negative (min ((scale + 1074).toNat * exponentUnit + rounded) infiniteMagnitude)

/-- The number nearest to a whole number. -/
def ofInt (i : Int) : Double :=
  ofRatio (i < 0) i.natAbs 1

/-- The product of two finite numbers, rounded once. -/
def mul (x y : Double) : Double :=
  ofRatio (x.isNegative != y.isNegative) (x.numerator * y.numerator)
    (x.denominator * y.denominator)

/-- The quotient of two finite numbers, the second not zero, rounded once. -/
def div (x y : Double) : Double :=
  ofRatio (x.isNegative != y.isNegative) (x.numerator * y.denominator)
    (x.denominator * y.numerator)

/-- The whole number that a finite number is equal to, if it is one. -/
def toInt? (x : Double) : Option Int :=
  if x.isFinite && x.numerator % x.denominator == 0 then
    let n : Int := (x.numerator / x.denominator : Nat)
    some (if x.isNegative then -n else n)
  else none

/-- The whole number that a finite number is equal to, if it is one, as a number of 64 bits with a
sign. One that does not fit gives the nearest that does. -/
def toInt64? (x : Double) : Option Int64 :=
  x.toInt?.map .ofIntClamp

/-- Numbers in ascending order have ascending keys; `-0` comes before `0`. -/
def orderKey (x : Double) : Int :=
  if x.isNegative then -(x.magnitude : Int) - 1 else x.magnitude

end Double

end FineTuning
