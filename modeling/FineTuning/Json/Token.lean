import FineTuning.Json.Number

/-!
# Tokens of a JSON text

`Token.ofChars` splits a text into punctuation, strings and words; a word is a run of other
characters, such as a number or `true`. The scanner goes through the text once, character by
character. Where a string breaks the grammar, or has no end, it gives the token `broken` and stops.

Escapes of the form `\uXXXX` name 16-bit units. A unit of a surrogate pair that has lost its
partner is allowed by the grammar but names no character; a string with one is `string none`.
-/

namespace FineTuning.Json

/-- A token of a JSON text. -/
inductive Token where
  | openArray
  | closeArray
  | openObject
  | closeObject
  | comma
  | colon
  | string (text : Option String)
  | word (chars : List Char)
  | broken
deriving DecidableEq

/-- A piece of a string between its quotes: a character, or a unit in the surrogate range. -/
inductive Piece where
  | char (c : Char)
  | surrogate (unit : Nat)
deriving DecidableEq

/-- Whether the unit is the first of a pair. -/
def isHighSurrogate (unit : Nat) : Bool :=
  0xd800 ≤ unit && unit < 0xdc00

/-- Whether the unit is the second of a pair. -/
def isLowSurrogate (unit : Nat) : Bool :=
  0xdc00 ≤ unit && unit < 0xe000

/-- The piece that a unit names. -/
def Piece.ofUnit (unit : Nat) : Piece :=
  if isHighSurrogate unit || isLowSurrogate unit then .surrogate unit else .char (Char.ofNat unit)

/-- The character of a surrogate pair. -/
def pairChar (high low : Nat) : Char :=
  Char.ofNat (0x10000 + (high - 0xd800) * 0x400 + (low - 0xdc00))

/-- The characters that the pieces spell, if no surrogate stands alone. -/
def spell? : List Piece → Option (List Char)
  | [] => some []
  | .char c :: rest => (spell? rest).map (c :: ·)
  | .surrogate high :: .surrogate low :: rest =>
    if isHighSurrogate high && isLowSurrogate low then (spell? rest).map (pairChar high low :: ·)
    else none
  | .surrogate _ :: _ => none

/-- Space between tokens. -/
def isSpace (c : Char) : Bool :=
  c == ' ' || c == '\n' || c == '\t' || c == '\r'

/-- The token of a punctuation character. -/
def punctuation? : Char → Option Token
  | '[' => some .openArray
  | ']' => some .closeArray
  | '{' => some .openObject
  | '}' => some .closeObject
  | ',' => some .comma
  | ':' => some .colon
  | _ => none

/-- The value of a hexadecimal digit. -/
def hexValue? (c : Char) : Option Nat :=
  if '0' ≤ c && c ≤ '9' then some (c.toNat - '0'.toNat)
  else if 'a' ≤ c && c ≤ 'f' then some (c.toNat - 'a'.toNat + 10)
  else if 'A' ≤ c && c ≤ 'F' then some (c.toNat - 'A'.toNat + 10)
  else none

/-- The character that a one-letter escape stands for. -/
def escaped? : Char → Option Char
  | '"' => some '"'
  | '\\' => some '\\'
  | '/' => some '/'
  | 'b' => some '\x08'
  | 'f' => some '\x0c'
  | 'n' => some '\n'
  | 'r' => some '\r'
  | 't' => some '\t'
  | _ => none

/-- Where the scanner is: between tokens, in a word, in a string, after a backslash, or in the
four digits of a unit. What has been read so far is in reverse order. -/
inductive Scanner where
  | between
  | word (read : List Char)
  | string (read : List Piece)
  | escape (read : List Piece)
  | unit (read : List Piece) (value : Nat) (missing : Nat)

/-- The text of a string that has been read. -/
def stringText? (read : List Piece) : Option String :=
  (spell? read.reverse).map String.ofList

/-- The tokens of the characters that remain. -/
def scan : Scanner → List Char → List Token
  | .between, [] => []
  | .between, c :: rest =>
    if isSpace c then scan .between rest
    else if c = '"' then scan (.string []) rest
    else match punctuation? c with
      | some token => token :: scan .between rest
      | none => scan (.word [c]) rest
  | .word read, [] => [.word read.reverse]
  | .word read, c :: rest =>
    if isSpace c then .word read.reverse :: scan .between rest
    else if c = '"' then .word read.reverse :: scan (.string []) rest
    else match punctuation? c with
      | some token => .word read.reverse :: token :: scan .between rest
      | none => scan (.word (c :: read)) rest
  | .string _, [] => [.broken]
  | .string read, c :: rest =>
    if c = '"' then .string (stringText? read) :: scan .between rest
    else if c = '\\' then scan (.escape read) rest
    else if c.toNat < 0x20 then [.broken]
    else scan (.string (.char c :: read)) rest
  | .escape _, [] => [.broken]
  | .escape read, c :: rest =>
    if c = 'u' then scan (.unit read 0 3) rest
    else match escaped? c with
      | some char => scan (.string (.char char :: read)) rest
      | none => [.broken]
  | .unit _ _ _, [] => [.broken]
  | .unit read value missing, c :: rest =>
    match hexValue? c with
    | none => [.broken]
    | some digit =>
      match missing with
      | 0 => scan (.string (.ofUnit (value * 16 + digit) :: read)) rest
      | missing + 1 => scan (.unit read (value * 16 + digit) missing) rest

/-- The tokens of a text. -/
def Token.ofChars (cs : List Char) : List Token :=
  scan .between cs

end FineTuning.Json
