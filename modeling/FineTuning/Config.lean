import FineTuning.Json.Record

/-!
# Configuration

Limits for assistants and defaults for jobs. A configuration file may leave out anything.
-/

namespace FineTuning

open Json

/-- Limits for assistants and defaults for jobs. -/
structure Config where
  /-- How many nodes a graph may have for an assistant to add another. -/
  maxNodes : Nat
  /-- How many edges a graph may have for an assistant to add another. -/
  maxEdges : Nat
  /-- Whether ends of connections that do not exist may be replaced by nodes of the right kind. -/
  endpointRecovery : Bool
  /-- What stands before a storage id in the URI of a dataset. -/
  storageUriPrefix : String
  /-- Who creates jobs. -/
  createdBy : String
deriving DecidableEq

/-- Why a file gives no configuration. -/
inductive ConfigError where
  | noFile (path : String) (reason : String)
  | unreadable (cause : DecodeError)
deriving DecidableEq

/-- The text of the error. -/
def ConfigError.message : ConfigError → String
  | .noFile path reason => s!"Could not read config file '{path}': {reason}"
  | .unreadable cause => s!"Failed to parse config: {cause.message}"

namespace Config

/-- What stands before a storage id unless something else is configured. -/
def defaultStoragePrefix : String := "storage://"

/-- The configuration without a file. -/
def default : Config where
  maxNodes := 50
  maxEdges := 100
  endpointRecovery := true
  storageUriPrefix := defaultStoragePrefix
  createdBy := "assistant"

instance : Inhabited Config := ⟨default⟩

def decode : Decoder Config :=
  (Fields.cons (Field.withDefault "maxNodes" (Decode.nat64 "usize") default.maxNodes) <|
    .cons (Field.withDefault "maxEdges" (Decode.nat64 "usize") default.maxEdges) <|
    .cons (Field.withDefault "endpointRecovery" Decode.bool default.endpointRecovery) <|
    .cons (Field.withDefault "storageUriPrefix" Decode.string default.storageUriPrefix) <|
    .cons (Field.withDefault "createdBy" Decode.string default.createdBy) .nil).record
      "Config" .fewer Config.mk

/-- The configuration of a text. -/
def ofText (text : String) : Except ConfigError Config :=
  (decodeText decode text).mapError .unreadable

end Config

end FineTuning
