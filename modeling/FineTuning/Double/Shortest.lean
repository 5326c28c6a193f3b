import FineTuning.Double.Basic

/-!
# The shortest decimal of a number

Of all decimals that round to a number, the one to show has the fewest digits, and of those it is
the nearest to the number; of two that are equally near, a `Tie` takes one. It is found with exact
arithmetic: for one, two, .. seventeen digits, the two neighbours of the number among the decimals
of so many digits are tried.
-/

namespace FineTuning.Double

/-- The decimal `0.d₁d₂.. · 10 ^ point`, with the digits `d₁`, `d₂`, .. -/
structure Digits where
  digits : List Char
  point : Int
deriving DecidableEq

/-- Which of two neighbouring decimals stands for a number halfway between them. -/
inductive Tie where
  /-- The one with an even last digit. -/
  | toEven
  /-- The one further from zero. -/
  | away
deriving DecidableEq

/-- The one of `a` and `a + 1` that a tie goes to. -/
def Tie.choose (tie : Tie) (a : Nat) : Nat :=
  match tie with
  | .toEven => a + a % 2
  | .away => a + 1

/-- Compares `a · 10 ^ i` with `b · 2 ^ j`. -/
def compareScaled (a : Nat) (i : Int) (b : Nat) (j : Int) : Ordering :=
  compare ((a * Nat.pow 10 i.toNat) <<< (-j).toNat) ((b * Nat.pow 10 (-i).toNat) <<< j.toNat)

/-- Whether `a · 10 ^ i` rounds to the absolute value of `x`. The ends of the interval that does
so lie halfway to the neighbours of `x`, and belong to it when the significand is even. Just above
a power of two the lower neighbour is only half as far. -/
def isRoundedFrom (x : Double) (a : Nat) (i : Int) : Bool :=
  let narrow := x.fraction == 0 && 1 < x.exponentField
  let low := 4 * x.significand - (if narrow then 1 else 2)
  let high := 4 * x.significand + 2
  let even := x.significand % 2 == 0
  let fromLow := compareScaled a i low (x.scale - 2)
  let fromHigh := compareScaled a i high (x.scale - 2)
  (fromLow == .gt || even && fromLow == .eq) && (fromHigh == .lt || even && fromHigh == .eq)

/-- The least `k`, from `low` on, for which the absolute value of `x` is below `10 ^ k`, or the
last one tried. -/
def pointFrom (x : Double) : Nat → Int → Int
  | 0, low => low
  | tries + 1, low =>
    if compareScaled 1 low x.significand x.scale == .gt then low else pointFrom x tries (low + 1)

/-- The least `k` for which the absolute value of `x`, not zero, is below `10 ^ k`. -/
def point (x : Double) : Int :=
  pointFrom x 4 ((x.significand.log2 + x.scale) * 30103 / 100000 - 1)

/-- The decimal `a · 10 ^ i` nearest to `x` among those that round to `x`, if there is one. -/
def nearest? (x : Double) (tie : Tie) (i : Int) : Option Nat :=
  let num := x.numerator * Nat.pow 10 (-i).toNat
  let den := x.denominator * Nat.pow 10 i.toNat
  let a := num / den
  match isRoundedFrom x a i, isRoundedFrom x (a + 1) i with
  | true, true =>
    match compare (2 * num) ((2 * a + 1) * den) with
    | .lt => some a
    | .gt => some (a + 1)
    | .eq => some (tie.choose a)
  | true, false => some a
  | false, true => some (a + 1)
  | false, false => none

/-- The digits without the zeros at their end. -/
def dropZeros (ds : List Char) : List Char :=
  (ds.reverse.dropWhile (· == '0')).reverse

/-- The digits of `a · 10 ^ i`, without zeros at their end. -/
def digitsOf (a : Nat) (i : Int) : Digits :=
  let ds := Nat.toDigits 10 a
  ⟨dropZeros ds, ds.length + i⟩

/-- Tries more and more digits after the decimal point of `0.d₁d₂..`. Seventeen always suffice;
the exact value stands behind them. -/
def searchDigits (x : Double) (tie : Tie) (point : Int) : List Nat → Digits
  | [] => digitsOf (x.numerator * Nat.pow 10 (-x.scale).toNat / x.denominator) (min x.scale 0)
  | n :: rest =>
    match nearest? x tie (point - n) with
    | some a => digitsOf a (point - n)
    | none => searchDigits x tie point rest

/-- The shortest decimal that rounds to the absolute value of a finite number. -/
def shortest (x : Double) (tie : Tie) : Digits :=
  if x.significand = 0 then ⟨['0'], 1⟩
  else searchDigits x tie x.point (List.range' 1 17)

end FineTuning.Double
