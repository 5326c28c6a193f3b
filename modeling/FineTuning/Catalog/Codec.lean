import FineTuning.Catalog.Basic
import FineTuning.Json.Record
import FineTuning.Text.Lowercase

/-!
# Catalogs as JSON

A catalog file is an object with a description of a model under each id. The entries are taken in
the order of their ids, and of descriptions under one id the last counts. The family, if it is not
given, is the first word of the display name.
-/

namespace FineTuning

open Json

/-- Why a file gives no catalog. -/
inductive CatalogError where
  | noFile (path : String) (reason : String)
  | unreadable (cause : DecodeError)
deriving DecidableEq

/-- The text of the error. -/
def CatalogError.message : CatalogError → String
  | .noFile path reason => s!"Could not read model catalog '{path}': {reason}"
  | .unreadable cause => s!"Failed to parse model catalog: {cause.message}"

/-- The description of a model in a catalog file. -/
structure ModelDescription where
  displayName : String
  provider : String
  parameterCount : Double
  family : Option String
  aliases : List String
deriving DecidableEq

namespace ModelDescription

def decode : Decoder ModelDescription :=
  (Fields.cons (Field.required "displayName" Decode.string) <|
    .cons (Field.withDefault "provider" Decode.string "") <|
    .cons (Field.required "parameterCount" Decode.double) <|
    .cons (Field.optional "family" Decode.string) <|
    .cons ((Field.withDefault "aliasPatterns" (Decode.list Decode.string) []).orNamed
      ["aliases"]) .nil).record "ModelDescription" .fewer ModelDescription.mk

/-- The name of the family, in lower case. -/
def familyName (d : ModelDescription) : String :=
  Text.lower ((d.family.or (Text.firstWord? d.displayName)).getD "")

/-- The entry of the model with an id. -/
def toEntry (id : String) (d : ModelDescription) : CatalogEntry where
  id := id
  displayName := d.displayName
  provider := d.provider
  parameterCount := d.parameterCount
  family := d.familyName
  aliases := d.aliases

end ModelDescription

namespace Catalog

/-- The descriptions under all ids, in the order in which they stand. -/
def decodeFields : Reading.Fields → Except DecodeError (List (String × ModelDescription))
  | [] => .ok []
  | (none, _) :: _ => .error .malformed
  | (some id, value) :: rest => do
    let description ← ModelDescription.decode value
    let others ← decodeFields rest
    return (id, description) :: others

def decode : Decoder Catalog
  | .object fields closed => do
    let descriptions ← decodeFields fields
    if !closed then throw .malformed
    return ⟨(sortFields descriptions).map fun (id, d) => d.toEntry id⟩
  | r => .error (r.mistyped "a map")

/-- The catalog of a text. -/
def ofText (text : String) : Except CatalogError Catalog :=
  (decodeText decode text).mapError .unreadable

end Catalog

end FineTuning
