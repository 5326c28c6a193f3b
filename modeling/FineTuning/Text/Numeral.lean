/-!
# Decimal numerals

Reading whole numbers as people write them: decimal digits, leading zeros allowed, and a sign
where one is allowed. `Nat.repr` and `Int.repr` write the same form without leading zeros.
-/

namespace FineTuning.Text.Numeral

/-- The value of one or more decimal digits. -/
def digits? (cs : List Char) : Option Nat :=
  if cs.isEmpty || !cs.all Char.isDigit then none else some (Nat.ofDigitChars 10 cs 0)

/-- A numeral without sign or with a plus sign. -/
def nat? : List Char → Option Nat
  | '+' :: cs => digits? cs
  | cs => digits? cs

/-- A numeral with any sign or none. -/
def int? : List Char → Option Int
  | '-' :: cs => (digits? cs).map fun n => -(n : Int)
  | cs => (nat? cs).map Int.ofNat

/-- The text as a number of 32 bits without sign. -/
def uint32? (s : String) : Option UInt32 :=
  match nat? s.toList with
  | some n => if h : n < UInt32.size then some (UInt32.ofNatLT n h) else none
  | none => none

/-- Whether the number fits in 64 bits with a sign. -/
def fitsInt64 (i : Int) : Bool :=
  -0x8000000000000000 ≤ i && i < 0x8000000000000000

/-- The number in 64 bits with a sign, if it fits. -/
def toInt64? (i : Int) : Option Int64 :=
  if fitsInt64 i then some (.ofInt i) else none

/-- The text as a number of 64 bits with a sign. -/
def int64? (s : String) : Option Int64 :=
  (int? s.toList).bind toInt64?

end FineTuning.Text.Numeral
