import FineTuning.Json.Decode

/-!
# Records

A record is written as an object of its fields, in any order and perhaps under other names, or as
an array of its fields in order. `Fields` lists the fields of a record, each with the way to
decode it, and `Fields.record` decodes both forms.

In an object, fields are decoded in the order in which they stand. Other keys are passed over, a
field that is given twice is an error, and so is one that is missing and has no default; of
several missing fields the first is named. An array may end early only before fields that it may
leave out.
-/

namespace FineTuning.Json

/-- A field of a record. -/
structure Field (α : Type) where
  name : String
  aliases : List String
  decode : Decoder α
  /-- The value if an object does not have the field. -/
  absent : Option α
  /-- Whether an array may end before the field. -/
  mayEndBefore : Bool

namespace Field

variable {α : Type}

/-- Whether the key is a name of the field. -/
def isNamed (field : Field α) (key : Option String) : Bool :=
  match key with
  | some k => k == field.name || field.aliases.contains k
  | none => false

/-- A field that must be given. -/
def required (name : String) (decode : Decoder α) : Field α :=
  ⟨name, [], decode, none, false⟩

/-- A field with a default. -/
def withDefault (name : String) (decode : Decoder α) (default : α) : Field α :=
  ⟨name, [], decode, some default, true⟩

/-- A field that may be left out or `null`. -/
def optional (name : String) (decode : Decoder α) : Field (Option α) :=
  ⟨name, [], Decode.optional decode, some none, true⟩

/-- A field that an object may leave out, but an array has to give as `null`. -/
def nullable (name : String) (decode : Decoder α) : Field (Option α) :=
  ⟨name, [], Decode.optional decode, some none, false⟩

/-- The field under further names. -/
def orNamed (field : Field α) (aliases : List String) : Field α :=
  { field with aliases := aliases }

end Field

/-- The fields of a record, in order, with the types of their values. -/
inductive Fields : List Type → Type 1 where
  | nil : Fields []
  | cons {α : Type} {αs : List Type} (field : Field α) (rest : Fields αs) : Fields (α :: αs)

/-- What has been read of the fields so far. -/
abbrev Slots : List Type → Type
  | [] => Unit
  | α :: αs => Option α × Slots αs

/-- A function of the values of all fields. -/
abbrev Builder (τ : Type) : List Type → Type
  | [] => τ
  | α :: αs => α → Builder τ αs

/-- How long arrays are called that hold more than the fields of a record. -/
inductive Surplus where
  | fewer
  | counted
deriving DecidableEq

/-- A count of elements, in words. -/
def elementsText (n : Nat) : String :=
  if n = 1 then "1 element" else s!"{n.repr} elements"

/-- The length that an array should have had instead, for a record with so many fields. -/
def Surplus.expected (surplus : Surplus) (size : Nat) : String :=
  match surplus with
  | .fewer => "fewer elements in array"
  | .counted => elementsText size ++ " in sequence"

namespace Fields

variable {τ : Type}

/-- The number of fields. -/
def size : {αs : List Type} → Fields αs → Nat
  | _, .nil => 0
  | _, .cons _ rest => rest.size + 1

/-- Nothing read yet. -/
def unread : {αs : List Type} → Fields αs → Slots αs
  | _, .nil => ()
  | _, .cons _ rest => (none, rest.unread)

/-- Reads one field of an object. -/
def visit (key : Option String) (value : Reading) :
    {αs : List Type} → Fields αs → Slots αs → Except DecodeError (Slots αs)
  | _, .nil, slots => .ok slots
  | _, .cons field rest, (slot, slots) =>
    if field.isNamed key then
      match slot with
      | some _ => .error (.duplicateField field.name)
      | none => (field.decode value).map fun v => (some v, slots)
    else (rest.visit key value slots).map fun slots => (slot, slots)

/-- Reads the fields of an object in order. A key that is unreadable is an error. -/
def visitAll {αs : List Type} (fields : Fields αs) (slots : Slots αs) :
    Reading.Fields → Except DecodeError (Slots αs)
  | [] => .ok slots
  | (none, _) :: _ => .error .malformed
  | (some key, value) :: rest => do
    let slots ← fields.visit (some key) value slots
    fields.visitAll slots rest

/-- Builds the record from what has been read, with defaults for what is missing. -/
def build : {αs : List Type} → Fields αs → Builder τ αs → Slots αs → Except DecodeError τ
  | _, .nil, result, _ => .ok result
  | _, .cons field rest, builder, (slot, slots) =>
    match slot.or field.absent with
    | some v => rest.build (builder v) slots
    | none => .error (.missingField field.name)

/-- Builds the record from the items of an array, and gives the items that are left over. The
array is at `index`, and `expected` is what an array that is too short should have been. -/
def buildFromItems (expected : String) (index : Nat) :
    {αs : List Type} → Fields αs → Builder τ αs → List Reading →
      Except DecodeError (τ × List Reading)
  | _, .nil, result, items => .ok (result, items)
  | _, .cons field rest, builder, [] =>
    match if field.mayEndBefore then field.absent else none with
    | some v => rest.buildFromItems expected (index + 1) (builder v) []
    | none => .error (.invalidLength index expected)
  | _, .cons field rest, builder, item :: items => do
    let v ← field.decode item
    rest.buildFromItems expected (index + 1) (builder v) items

/-- Decodes a record with the given name from an object or an array of its fields. -/
def record {αs : List Type} (fields : Fields αs) (name : String) (surplus : Surplus)
    (builder : Builder τ αs) : Decoder τ
  | .object entries closed => do
    let slots ← fields.visitAll fields.unread entries
    if closed then fields.build builder slots else throw .malformed
  | .array items closed => do
    let expected := s!"struct {name} with {elementsText fields.size}"
    let (value, left) ← fields.buildFromItems expected 0 builder items
    if !closed then throw .malformed
    else if left.isEmpty then return value
    else throw (.invalidLength items.length (surplus.expected fields.size))
  | r => .error (r.mistyped s!"struct {name}")

end Fields

end FineTuning.Json
