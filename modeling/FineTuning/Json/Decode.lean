import FineTuning.Json.Reading
import FineTuning.Text.Quoted

/-!
# Decoding values

A decoder takes the reading of a JSON text, or a JSON value seen as a reading, to a value of the
domain, or says what is wrong with the first part that does not fit. Parts are looked at in the
order in which they stand.
-/

namespace FineTuning.Json

/-- What a decoder has met, as error messages name it. -/
inductive Found where
  | null
  | bool (value : Bool)
  | number (value : Number)
  | string (value : String)
  | sequence
  | map
deriving DecidableEq

/-- Why a reading cannot be decoded. -/
inductive DecodeError where
  /-- A value of another type. -/
  | invalidType (found : Found) (expected : String)
  /-- A value of the right type that is not allowed. -/
  | invalidValue (found : Found) (expected : String)
  /-- An array of the wrong length. -/
  | invalidLength (length : Nat) (expected : String)
  /-- A name that is none of those allowed. -/
  | unknownVariant (name : String) (allowed : List String)
  /-- An object without a field that it must have. -/
  | missingField (name : String)
  /-- An object with a field twice, perhaps under two of its names. -/
  | duplicateField (name : String)
  /-- A value that fits none of the forms of a type. -/
  | noForm (type : String)
  /-- An entry under a key that is not its own id. -/
  | keyMismatch (key : String) (id : String)
  /-- Text that is not JSON, or a part of it without a value. -/
  | malformed
deriving DecidableEq

/-- The words for what was met. -/
def Found.text : Found → String
  | .null => "null"
  | .bool true => "boolean `true`"
  | .bool false => "boolean `false`"
  | .number (.integer i) => "integer `" ++ i.repr ++ "`"
  | .number (.double d) => "floating point `" ++ String.ofList d.toText ++ "`"
  | .string s => "string " ++ Text.Quoted.encode s
  | .sequence => "sequence"
  | .map => "map"

/-- The names that are allowed, as a message lists them. -/
def allowedText : List String → String
  | [] => "there are no variants"
  | [a] => s!"expected `{a}`"
  | [a, b] => s!"expected `{a}` or `{b}`"
  | names => "expected one of " ++ ", ".intercalate (names.map fun name => s!"`{name}`")

/-- The text of the error. -/
def DecodeError.message : DecodeError → String
  | .invalidType found expected => s!"invalid type: {found.text}, expected {expected}"
  | .invalidValue found expected => s!"invalid value: {found.text}, expected {expected}"
  | .invalidLength length expected => s!"invalid length {length.repr}, expected {expected}"
  | .unknownVariant name allowed => s!"unknown variant `{name}`, {allowedText allowed}"
  | .missingField name => s!"missing field `{name}`"
  | .duplicateField name => s!"duplicate field `{name}`"
  | .noForm type => s!"data did not match any variant of untagged enum {type}"
  | .keyMismatch key id => s!"node key '{key}' does not match its id '{id}'"
  | .malformed => "malformed JSON"

/-- The error for a reading of a type that is not expected. -/
def Reading.mistyped (expected : String) : Reading → DecodeError
  | .null => .invalidType .null expected
  | .bool b => .invalidType (.bool b) expected
  | .number n => .invalidType (.number n) expected
  | .string s => .invalidType (.string s) expected
  | .array _ _ => .invalidType .sequence expected
  | .object _ _ => .invalidType .map expected
  | .unreadable | .broken => .malformed

/-- Decodes a reading, or says why it cannot. -/
abbrev Decoder (α : Type) := Reading → Except DecodeError α

namespace Decode

def string : Decoder String
  | .string s => .ok s
  | r => .error (r.mistyped "a string")

def bool : Decoder Bool
  | .bool b => .ok b
  | r => .error (r.mistyped "a boolean")

/-- A number, rounded to a double. -/
def double : Decoder Double
  | .number n => .ok n.toDouble
  | r => .error (r.mistyped "f64")

/-- A whole number without sign, below a bound; the type names its width in messages. -/
def natBelow (bound : Nat) (type : String) : Decoder Nat
  | .number (.integer i) =>
    if 0 ≤ i ∧ i < bound then .ok i.toNat else .error (.invalidValue (.number (.integer i)) type)
  | r => .error (r.mistyped type)

/-- A whole number of 64 bits without sign. -/
def nat64 (type : String) : Decoder Nat :=
  natBelow UInt64.size type

def uint32 : Decoder UInt32 := fun r =>
  (natBelow UInt32.size "u32" r).map UInt32.ofNat

/-- A value, or `null` for none. -/
def optional {α : Type} (decode : Decoder α) : Decoder (Option α)
  | .null => .ok none
  | r => (decode r).map some

/-- All items of a list, in order. -/
def items {α : Type} (decode : Decoder α) : List Reading → Except DecodeError (List α)
  | [] => .ok []
  | r :: rest => do
    let item ← decode r
    let others ← items decode rest
    return item :: others

/-- An array of any length. -/
def list {α : Type} (decode : Decoder α) : Decoder (List α)
  | .array rs closed => do
    let values ← items decode rs
    if closed then return values else throw .malformed
  | r => .error (r.mistyped "a sequence")

/-- Any value. -/
def json : Decoder Json := fun r =>
  match r.toJson? with
  | some value => .ok value
  | none => .error .malformed

/-- The fields of an object, with any values. -/
def fields : Decoder (List (String × Json)) := fun r =>
  match r with
  | .object _ _ =>
    match r.toJson? with
    | some (.object fields) => .ok fields
    | _ => .error .malformed
  | _ => .error (r.mistyped "a map")

/-- One of some names. -/
def name {α : Type} (names : List (String × α)) (s : String) : Except DecodeError α :=
  match names.find? (·.1 == s) with
  | some (_, value) => .ok value
  | none => .error (.unknownVariant s (names.map (·.1)))

/-- What may stand under the name of a variant that has no content. -/
def noContent (emptyObject : Bool) : Decoder Unit
  | .null => .ok ()
  | .object [] true => if emptyObject then .ok () else .error (.invalidType .map "unit")
  | r => .error (r.mistyped "unit")

/-- One of some names, either as a string or as the only key of an object without content. An empty
object may count as no content. -/
def variant {α : Type} (emptyObject : Bool) (names : List (String × α)) : Decoder α
  | .string s => name names s
  | .object [(some key, content)] true => do
    let value ← name names key
    noContent emptyObject content
    return value
  | .object _ true => .error (.invalidValue .map "map with a single key")
  | .object _ false => .error .malformed
  | r => .error (r.mistyped "string or map")

end Decode

/-- The value of a text: the decoded document, if nothing follows it. -/
def decodeText {α : Type} (decode : Decoder α) (text : String) : Except DecodeError α := do
  let document := Document.ofText text
  let value ← decode document.root
  if document.wellFormed then return value else throw .malformed

end FineTuning.Json
