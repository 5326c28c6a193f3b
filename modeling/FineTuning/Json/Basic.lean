import FineTuning.Double.Basic
import FineTuning.Text.Numeral

/-!
# JSON values

A `Json` is the value that a JSON text stands for. Numbers keep the form they are written in: whole
numbers of up to 64 bits are integers, all others doubles. The fields of an object are an
association list; one that was built by `insertField` has its keys ascending and distinct.
-/

namespace FineTuning

/-- A number of a JSON text. -/
inductive Json.Number where
  | integer (value : Int)
  | double (value : Double)
deriving DecidableEq

/-- A JSON value. -/
inductive Json where
  | null
  | bool (value : Bool)
  | number (value : Json.Number)
  | string (value : String)
  | array (items : List Json)
  | object (fields : List (String × Json))

namespace Json

instance : Inhabited Json := ⟨.null⟩

/-- The double nearest to the number. -/
def Number.toDouble : Number → Double
  | .integer i => Double.ofInt i
  | .double d => d

/-- The integer, if it has 64 bits with a sign. -/
def Number.asInt64? : Number → Option Int64
  | .integer i => Text.Numeral.toInt64? i
  | .double _ => none

/-- The number as a whole number of 64 bits with a sign, if it is whole. A larger integer is first
rounded to a double, and what is out of range then gives the nearest number in range. -/
def Number.toInt64? (n : Number) : Option Int64 :=
  n.asInt64? <|> n.toDouble.toInt64?

def ofInt (i : Int) : Json :=
  .number (.integer i)

def ofNat (n : Nat) : Json :=
  ofInt n

/-- The number, or `null` for one that JSON has no form for. -/
def ofDouble (d : Double) : Json :=
  if d.isFinite then .number (.double d) else .null

/-- A field that is written only if it has a value. -/
def fieldIfSome (key : String) : Option Json → List (String × Json)
  | some value => [(key, value)]
  | none => []

/-- Fields with the key set to the value: in place of the earlier value, or else before the first
greater key. -/
def insertField {α : Type} (key : String) (value : α) : List (String × α) → List (String × α)
  | [] => [(key, value)]
  | (k, v) :: rest =>
    if key = k then (key, value) :: rest
    else if key < k then (key, value) :: (k, v) :: rest
    else (k, v) :: insertField key value rest

/-- The fields in ascending order of their keys; of fields with one key the last stays. -/
def sortFields {α : Type} (fields : List (String × α)) : List (String × α) :=
  fields.foldl (fun sorted field => insertField field.1 field.2 sorted) []

/-- The value of a key. -/
def field? {α : Type} (key : String) (fields : List (String × α)) : Option α :=
  (fields.find? (·.1 == key)).map (·.2)

end Json

end FineTuning
