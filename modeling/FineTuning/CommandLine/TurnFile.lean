import FineTuning.Assistant.Request

/-!
# Turns in files

A turn is written as an array of calls, or as an object that also lists the nodes created earlier
in the conversation. The whole file has to be readable, unknown fields included.
-/

namespace FineTuning.CommandLine

open Json

/-- A turn that is read from a file. -/
structure TurnFile where
  calls : List ToolCall
  created : List String

namespace TurnFile

/-- A turn with the nodes created earlier. -/
def decodeObject : Decoder TurnFile :=
  (Fields.cons (Field.required "invocations" (Decode.list ToolCall.decode)) <|
    .cons (Field.withDefault "createdNodeIds" (Decode.list Decode.string) []) .nil).record
      "TurnFile" .counted TurnFile.mk

def decode : Decoder TurnFile := fun r =>
  if !r.isReadable then .error .malformed
  else match r with
    | .array _ _ => (Decode.list ToolCall.decode r).map (⟨·, []⟩)
    | .object _ _ => decodeObject r
    | _ => .error (.noForm "TurnFile")

/-- The turn of a text. -/
def ofText (text : String) : Except DecodeError TurnFile :=
  decodeText decode text

end TurnFile

end FineTuning.CommandLine
