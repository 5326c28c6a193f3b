import FineTuning.Text.Printable

/-!
# Quoted text

A text that appears in an error message as a value is put between double quotes, with escapes for
everything that would not show: control characters, marks that attach to the character before,
fillers and other characters without a visible form.
-/

namespace FineTuning.Text.Quoted

/-- The escape of a character by its code point, such as `\u{200b}`. -/
def codePointEscape (c : Char) : List Char :=
  ['\\', 'u', '{'] ++ Nat.toDigits 16 c.toNat ++ ['}']

/-- Whether the character is one of the sound marks of halfwidth kana, which extend the character
before them and yet have a place of their own in the line. -/
def isHalfwidthSoundMark (c : Char) : Bool :=
  c == '\uff9e' || c == '\uff9f'

/-- Whether the character shows in a text, apart from the one before it. -/
def isShown (c : Char) : Bool :=
  isPrintable c && !isDefaultIgnorable c && (!isGraphemeExtend c || isHalfwidthSoundMark c)

/-- One character between quotes. -/
def encodeChar (c : Char) : List Char :=
  match c with
  | '\x00' => ['\\', '0']
  | '\t' => ['\\', 't']
  | '\r' => ['\\', 'r']
  | '\n' => ['\\', 'n']
  | '\\' => ['\\', '\\']
  | '"' => ['\\', '"']
  | _ => if isShown c then [c] else codePointEscape c

/-- The text between double quotes. -/
def encode (s : String) : String :=
  String.ofList ('"' :: s.toList.flatMap encodeChar ++ ['"'])

end FineTuning.Text.Quoted
