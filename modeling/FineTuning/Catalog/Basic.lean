import FineTuning.Graph.Node

/-!
# The model catalog

The base models that can be chosen on a model node, in a fixed order.
-/

namespace FineTuning

/-- A base model that can be chosen. -/
structure CatalogEntry where
  id : String
  displayName : String
  provider : String
  /-- In billions. -/
  parameterCount : Double
  /-- The lower-case name of the family, by which models are compared in size. -/
  family : String
  aliases : List String
deriving DecidableEq

/-- The model as the data of a node records it. -/
def CatalogEntry.toSelectedModel (entry : CatalogEntry) : SelectedModel where
  id := entry.id
  displayName := entry.displayName
  provider := entry.provider
  parameterCount := entry.parameterCount

/-- A list of base models. -/
structure Catalog where
  entries : List CatalogEntry
deriving DecidableEq

namespace Catalog

/-- The entry with an id. -/
def get? (catalog : Catalog) (id : String) : Option CatalogEntry :=
  catalog.entries.find? (·.id == id)

/-- The display names, in order. -/
def displayNames (catalog : Catalog) : List String :=
  catalog.entries.map (·.displayName)

end Catalog

end FineTuning
