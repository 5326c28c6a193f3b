import FineTuning.Double.Shortest

/-!
# Written forms of a number

Two forms of the shortest decimal: `toText`, which always shows that the number is not an integer
type and turns to an exponent for very large and very small numbers, and `toPlainText`, which
writes out all places and shows a whole number without a point. They also differ for a number
halfway between two shortest decimals: the first takes the even one, the second the one further
from zero.
-/

namespace FineTuning.Double

/-- The digits with a point in them, all places written out; `tail` follows a whole number. -/
def Digits.positional (d : Digits) (tail : List Char) : List Char :=
  if d.point ≤ 0 then
    ['0', '.'] ++ List.replicate (-d.point).toNat '0' ++ d.digits
  else if d.digits.length ≤ d.point then
    d.digits ++ List.replicate (d.point.toNat - d.digits.length) '0' ++ tail
  else
    d.digits.take d.point.toNat ++ ['.'] ++ d.digits.drop d.point.toNat

/-- One digit, a point if more follow, and a signed exponent. -/
def Digits.scientific (d : Digits) : List Char :=
  let exponent := d.point - 1
  let sign := if exponent < 0 then '-' else '+'
  let mantissa := match d.digits with
    | [] => []
    | [first] => [first]
    | first :: rest => first :: '.' :: rest
  mantissa ++ ['e', sign] ++ Nat.toDigits 10 exponent.natAbs

/-- The sign of a number, as it stands before its digits. -/
def signText (x : Double) : List Char :=
  if x.isNegative then ['-'] else []

/-- The shortest decimal, with `.0` after a whole number. From `10 ^ 16` up, and below `10 ^ (-5)`,
it has an exponent. -/
def toText (x : Double) : List Char :=
  let d := x.shortest .toEven
  signText x ++
    if -5 < d.point && d.point ≤ 16 then d.positional ['.', '0'] else d.scientific

/-- The shortest decimal with all its places and without an exponent. -/
def toPlainText (x : Double) : List Char :=
  signText x ++ (x.shortest .away).positional []

end FineTuning.Double
