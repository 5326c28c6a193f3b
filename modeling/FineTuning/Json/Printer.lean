import FineTuning.Json.Number

/-!
# Writing JSON

`compact` writes a value without any space. `pretty` puts every item and every field on a line of
its own, indented by two spaces a level, except that an empty array or object stays in one piece.
Fields are written in the order in which they stand.
-/

namespace FineTuning.Json

/-- The escape of a control character by its code point. -/
def unitEscape (c : Char) : List Char :=
  ['\\', 'u', '0', '0', Nat.digitChar (c.toNat / 16), Nat.digitChar (c.toNat % 16)]

/-- One character of a string. Only quotes, backslashes and control characters are escaped. -/
def escapeChar (c : Char) : List Char :=
  match c with
  | '"' => ['\\', '"']
  | '\\' => ['\\', '\\']
  | '\x08' => ['\\', 'b']
  | '\x0c' => ['\\', 'f']
  | '\n' => ['\\', 'n']
  | '\r' => ['\\', 'r']
  | '\t' => ['\\', 't']
  | _ => if c.toNat < 0x20 then unitEscape c else [c]

/-- A string between its quotes. -/
def stringText (s : String) : List Char :=
  '"' :: s.toList.flatMap escapeChar ++ ['"']

/-- The text of a truth value. -/
def boolText (b : Bool) : List Char :=
  if b then ['t', 'r', 'u', 'e'] else ['f', 'a', 'l', 's', 'e']

/-- How a value is laid out: what stands after an opening bracket, before a closing one, between
items, and after a colon, at a given depth. -/
structure Layout where
  /-- What stands before each item, and at the end, of an array or object of the given depth. -/
  newline : Nat → List Char
  /-- What stands after a colon. -/
  afterColon : List Char

/-- No space anywhere. -/
def Layout.compact : Layout :=
  ⟨fun _ => [], []⟩

/-- A line for each item, indented by two spaces a level. -/
def Layout.indented : Layout :=
  ⟨fun depth => '\n' :: List.replicate (2 * depth) ' ', [' ']⟩

mutual

/-- The text of a value that stands at a depth. -/
def write (layout : Layout) (depth : Nat) : Json → List Char
  | .null => ['n', 'u', 'l', 'l']
  | .bool b => boolText b
  | .number n => n.text
  | .string s => stringText s
  | .array [] => ['[', ']']
  | .array (item :: rest) =>
    '[' :: layout.newline (depth + 1) ++ write layout (depth + 1) item ++
      writeItems layout depth rest
  | .object [] => ['{', '}']
  | .object ((key, value) :: rest) =>
    '{' :: layout.newline (depth + 1) ++ stringText key ++ ':' :: layout.afterColon ++
      write layout (depth + 1) value ++ writeFields layout depth rest

/-- The later items of an array, and its end. -/
def writeItems (layout : Layout) (depth : Nat) : List Json → List Char
  | [] => layout.newline depth ++ [']']
  | item :: rest =>
    ',' :: layout.newline (depth + 1) ++ write layout (depth + 1) item ++
      writeItems layout depth rest

/-- The later fields of an object, and its end. -/
def writeFields (layout : Layout) (depth : Nat) : List (String × Json) → List Char
  | [] => layout.newline depth ++ ['}']
  | (key, value) :: rest =>
    ',' :: layout.newline (depth + 1) ++ stringText key ++ ':' :: layout.afterColon ++
      write layout (depth + 1) value ++ writeFields layout depth rest

end

/-- The value on one line. -/
def compact (value : Json) : String :=
  String.ofList (write .compact 0 value)

/-- The value with a line for each item and field. -/
def pretty (value : Json) : String :=
  String.ofList (write .indented 0 value)

end FineTuning.Json
