import FineTuning.Json.Token

/-!
# Reading a JSON text

`Reading.ofText` gives the structure of a text as far as it can be read. A text that follows the
grammar gives the whole structure; parts of it can still be `unreadable`, because they have no
value here: a number out of range, a string with half of a surrogate pair, or an array or object
inside of more than 126 others. They do no harm where nobody asks for them. A text that leaves the
grammar gives what stands before that point, with the arrays and objects that are open there
marked as not closed.

Tokens are consumed from left to right with a stack of the arrays and objects that are open.
-/

namespace FineTuning.Json

/-- The structure of a JSON text as far as it can be read. The key `none` stands for an
unreadable one, and `broken` for a text that does not even begin with a value. -/
inductive Reading where
  | null
  | bool (value : Bool)
  | number (value : Number)
  | string (value : String)
  | array (items : List Reading) (closed : Bool)
  | object (fields : List (Option String × Reading)) (closed : Bool)
  | unreadable
  | broken

namespace Reading

instance : Inhabited Reading := ⟨.null⟩

/-- The fields of an object. -/
abbrev Fields := List (Option String × Reading)

/-- An open array or object that waits for a value, with its parts so far in reverse order. -/
inductive Frame where
  | array (items : List Reading)
  | field (fields : Fields) (key : Option String)

/-- Where the reader is between two tokens. The frames are those around it, innermost first;
items and fields are those so far of the innermost array or object, in reverse order. -/
inductive State where
  /-- Before a value. -/
  | value (frames : List Frame)
  /-- After the opening bracket of an array. -/
  | firstItem (frames : List Frame)
  /-- After an item of an array. -/
  | afterItem (items : List Reading) (frames : List Frame)
  /-- After the opening brace of an object. -/
  | firstKey (frames : List Frame)
  /-- After a comma of an object. -/
  | key (fields : Fields) (frames : List Frame)
  /-- After a key. -/
  | colon (fields : Fields) (key : Option String) (frames : List Frame)
  /-- After a field of an object. -/
  | afterField (fields : Fields) (frames : List Frame)
  /-- After the whole value. -/
  | complete (value : Reading)
  /-- After the point where the text leaves the grammar. -/
  | failed (value : Reading)

/-- How many arrays and objects may be inside of one another. -/
def depthLimit : Nat := 127

/-- An array or object that has just been closed inside of `outer` others. -/
def closeAt (outer : Nat) (value : Reading) : Reading :=
  if outer < depthLimit then value else .unreadable

/-- The state after a value. -/
def place (value : Reading) : List Frame → State
  | [] => .complete value
  | .array items :: frames => .afterItem (value :: items) frames
  | .field fields key :: frames => .afterField ((key, value) :: fields) frames

/-- What a reading amounts to that ends inside of the frames; `inner` is the innermost part. -/
def unfinished (inner : Option Reading) : List Frame → Reading
  | [] => inner.getD .broken
  | .array items :: frames =>
    unfinished (some (.array (items.reverse ++ inner.toList) false)) frames
  | .field fields key :: frames =>
    unfinished (some (.object (fields.reverse ++ inner.toList.map (key, ·)) false)) frames

/-- What the reading amounts to if it ends here. -/
def State.soFar : State → Reading
  | .value frames => unfinished none frames
  | .firstItem frames => unfinished (some (.array [] false)) frames
  | .afterItem items frames => unfinished (some (.array items.reverse false)) frames
  | .firstKey frames => unfinished (some (.object [] false)) frames
  | .key fields frames | .colon fields _ frames | .afterField fields frames =>
    unfinished (some (.object fields.reverse false)) frames
  | .complete whole | .failed whole => whole

/-- The value of a word; a word that is none breaks the grammar. -/
def ofWord? (chars : List Char) : Option Reading :=
  if chars = ['n', 'u', 'l', 'l'] then some .null
  else if chars = ['t', 'r', 'u', 'e'] then some (.bool true)
  else if chars = ['f', 'a', 'l', 's', 'e'] then some (.bool false)
  else match Number.read chars with
    | .ok n => some (.number n)
    | .error .outOfRange => some .unreadable
    | .error .malformed => none

/-- The state after a token that is or begins a value. -/
def begin? (frames : List Frame) : Token → Option State
  | .string (some s) => some (place (.string s) frames)
  | .string none => some (place .unreadable frames)
  | .word chars => (ofWord? chars).map (place · frames)
  | .openArray => some (.firstItem frames)
  | .openObject => some (.firstKey frames)
  | _ => none

/-- The state after a token, if the grammar allows it here. -/
def next? : State → Token → Option State
  | .value frames, token => begin? frames token
  | .firstItem frames, .closeArray => some (place (closeAt frames.length (.array [] true)) frames)
  | .firstItem frames, token => begin? (.array [] :: frames) token
  | .afterItem items frames, .comma => some (.value (.array items :: frames))
  | .afterItem items frames, .closeArray =>
    some (place (closeAt frames.length (.array items.reverse true)) frames)
  | .firstKey frames, .closeObject => some (place (closeAt frames.length (.object [] true)) frames)
  | .firstKey frames, .string key => some (.colon [] key frames)
  | .key fields frames, .string key => some (.colon fields key frames)
  | .colon fields key frames, .colon => some (.value (.field fields key :: frames))
  | .afterField fields frames, .comma => some (.key fields frames)
  | .afterField fields frames, .closeObject =>
    some (place (closeAt frames.length (.object fields.reverse true)) frames)
  | .failed value, _ => some (.failed value)
  | _, _ => none

/-- The state after a token. -/
def step (state : State) (token : Token) : State :=
  (next? state token).getD (.failed state.soFar)

end Reading

/-- The reading of a text, and whether the text follows the grammar to its end. -/
structure Document where
  root : Reading
  wellFormed : Bool

namespace Document

/-- The document that ends in a state. -/
def ofState : Reading.State → Document
  | .complete value => ⟨value, true⟩
  | state => ⟨state.soFar, false⟩

/-- The document that the tokens spell. -/
def ofTokens (tokens : List Token) : Document :=
  ofState (tokens.foldl Reading.step (.value []))

/-- The document of a text. -/
def ofText (text : String) : Document :=
  ofTokens (Token.ofChars text.toList)

end Document

namespace Reading

mutual

/-- The value of a reading, if all of it is readable. Fields are put in the order of their keys,
and of fields with one key the last stays. -/
def toJson? : Reading → Option Json
  | .null => some .null
  | .bool b => some (.bool b)
  | .number n => some (.number n)
  | .string s => some (.string s)
  | .array items true => (itemsToJson? items).map .array
  | .object fields true => (fieldsToJson? fields).map fun fs => .object (sortFields fs)
  | .array _ false | .object _ false | .unreadable | .broken => none

/-- The values of all items. -/
def itemsToJson? : List Reading → Option (List Json)
  | [] => some []
  | item :: rest =>
    match toJson? item, itemsToJson? rest with
    | some value, some values => some (value :: values)
    | _, _ => none

/-- The keys and values of all fields. -/
def fieldsToJson? : Fields → Option (List (String × Json))
  | [] => some []
  | (key, reading) :: rest =>
    match key, toJson? reading, fieldsToJson? rest with
    | some key, some value, some fields => some ((key, value) :: fields)
    | _, _, _ => none

end

mutual

/-- A value as a reading. -/
def ofJson : Json → Reading
  | .null => .null
  | .bool b => .bool b
  | .number n => .number n
  | .string s => .string s
  | .array items => .array (ofItems items) true
  | .object fields => .object (ofFields fields) true

/-- Values as readings. -/
def ofItems : List Json → List Reading
  | [] => []
  | item :: rest => ofJson item :: ofItems rest

/-- Fields as readings. -/
def ofFields : List (String × Json) → Fields
  | [] => []
  | (key, value) :: rest => (some key, ofJson value) :: ofFields rest

end

/-- Whether the reading is whole: well-formed with no unreadable part. -/
def isReadable (r : Reading) : Bool :=
  r.toJson?.isSome

end Reading

end FineTuning.Json
