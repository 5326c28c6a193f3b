/-!
# Comparison without regard to ASCII case

Names of kinds and of states are recognised in any mix of upper and lower case. Only the letters
`A` to `Z` have a case here: `É` and `é` stay different.
-/

namespace FineTuning.Text

/-- The text with `A` to `Z` replaced by `a` to `z`. -/
def lowerAscii (s : String) : String :=
  String.ofList (s.toList.map Char.toLower)

/-- Whether two texts differ at most in the case of ASCII letters. -/
def sameIgnoringAsciiCase (s t : String) : Bool :=
  lowerAscii s == lowerAscii t

end FineTuning.Text
