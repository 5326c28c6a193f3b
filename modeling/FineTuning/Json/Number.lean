import FineTuning.Double.Decimal
import FineTuning.Double.Notation
import FineTuning.Json.Basic
import FineTuning.Text.Numeral

/-!
# Number texts

`Number.read` reads the characters of a JSON number: an optional minus sign, digits without a
leading zero, and optionally a fraction and an exponent. `Number.text` writes a number.

Whole numbers that fit in 64 bits, with or without sign, are read as integers, so `-0` is not one.
Of longer significands only the digits that fit in 64 bits count; the others scale the number.
-/

namespace FineTuning.Json.Number

/-- Why the characters have no number: they do not follow the grammar, or it is out of range. -/
inductive Fault where
  | malformed
  | outOfRange
deriving DecidableEq

/-- The value of a digit. -/
def digitValue (c : Char) : Nat :=
  c.toNat - '0'.toNat

/-- A number under construction: its first digits, and the power of ten that scales them. -/
structure Decimal where
  significand : Nat
  exponent : Int

/-- The significand with one more digit, if it still fits in 64 bits. -/
def grow? (significand : Nat) (c : Char) : Option Nat :=
  let grown := significand * 10 + digitValue c
  if grown < UInt64.size then some grown else none

/-- The digits before the point. Once a digit does not fit, it and all later ones only scale. -/
def integerPart (significand : Nat) : List Char → Decimal
  | [] => ⟨significand, 0⟩
  | c :: rest =>
    match grow? significand c with
    | some grown => integerPart grown rest
    | none => ⟨significand, rest.length + 1⟩

/-- The digits after the point. Once a digit does not fit, it and all later ones are dropped. -/
def fractionPart (d : Decimal) : List Char → Decimal
  | [] => d
  | c :: rest =>
    match grow? d.significand c with
    | some grown => fractionPart ⟨grown, d.exponent - 1⟩ rest
    | none => d

/-- Splits digits off the front. -/
def spanDigits (cs : List Char) : List Char × List Char :=
  (cs.takeWhile Char.isDigit, cs.dropWhile Char.isDigit)

/-- The digits before the point: a zero, or digits that do not begin with one. -/
def isIntegerPart : List Char → Bool
  | [] => false
  | ['0'] => true
  | c :: _ => c != '0'

/-- What may follow the integer part of a number. -/
structure Suffix where
  /-- The digits after the point. -/
  fraction : Option (List Char)
  /-- Whether the exponent is negative, and its digits. -/
  exponent : Option (Bool × List Char)

/-- The exponent after its letter. -/
def exponentSuffix? (cs : List Char) : Option (Bool × List Char) :=
  let (negative, digits) := match cs with
    | '+' :: ds => (false, ds)
    | '-' :: ds => (true, ds)
    | ds => (false, ds)
  if digits.isEmpty || !digits.all Char.isDigit then none else some (negative, digits)

/-- What follows the fraction, or the integer part if there is no fraction. -/
def afterFraction? (fraction : Option (List Char)) : List Char → Option Suffix
  | [] => some ⟨fraction, none⟩
  | c :: cs =>
    if c == 'e' || c == 'E' then (exponentSuffix? cs).map fun e => ⟨fraction, some e⟩ else none

/-- What follows the integer part. -/
def suffix? : List Char → Option Suffix
  | '.' :: cs =>
    let (digits, rest) := spanDigits cs
    if digits.isEmpty then none else afterFraction? (some digits) rest
  | cs => afterFraction? none cs

/-- The integer, if it fits in 64 bits; a minus sign goes only with a number below zero. -/
def integer? (negative : Bool) (d : Decimal) : Option Int :=
  if d.exponent ≠ 0 then none
  else if negative then
    let i := -(d.significand : Int)
    if i < 0 && Text.Numeral.fitsInt64 i then some i else none
  else some d.significand

/-- The double, with an exponent added to that of the decimal. -/
def scaled (negative : Bool) (d : Decimal) (exponent : Int) : Except Fault Number :=
  match Double.ofDecimal? negative d.significand (d.exponent + exponent) with
  | some x => .ok (.double x)
  | none => .error .outOfRange

/-- The number of an integer part and what follows it. -/
def assemble (negative : Bool) (digits : List Char) (suffix : Suffix) : Except Fault Number :=
  let whole := integerPart 0 digits
  let exponent : Int := match suffix.exponent with
    | some (true, ds) => -(Nat.ofDigitChars 10 ds 0 : Nat)
    | some (false, ds) => (Nat.ofDigitChars 10 ds 0 : Nat)
    | none => 0
  match suffix.fraction, suffix.exponent with
  | none, none =>
    match integer? negative whole with
    | some i => .ok (.integer i)
    | none => scaled negative whole 0
  | some fraction, _ => scaled negative (fractionPart whole fraction) exponent
  | none, some _ => scaled negative whole exponent

/-- The number that the characters stand for. -/
def read (cs : List Char) : Except Fault Number :=
  let (negative, cs) := match cs with
    | '-' :: rest => (true, rest)
    | rest => (false, rest)
  let (digits, rest) := spanDigits cs
  if isIntegerPart digits then
    match suffix? rest with
    | some suffix => assemble negative digits suffix
    | none => .error .malformed
  else .error .malformed

/-- The text of a number. -/
def text : Number → List Char
  | .integer i => i.repr.toList
  | .double d => d.toText

end FineTuning.Json.Number
