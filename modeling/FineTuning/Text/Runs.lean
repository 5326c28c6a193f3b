/-!
# Runs of characters

The words of a text are its maximal runs of characters of some class.
-/

namespace FineTuning.Text

/-- The maximal runs of characters with the property; `run` is the beginning of the first, in
reverse order. -/
def runsFrom (p : Char → Bool) (run : List Char) : List Char → List String
  | [] => if run.isEmpty then [] else [String.ofList run.reverse]
  | c :: rest =>
    if p c then runsFrom p (c :: run) rest
    else if run.isEmpty then runsFrom p [] rest
    else String.ofList run.reverse :: runsFrom p [] rest

/-- The maximal runs of characters with the property. -/
def runs (p : Char → Bool) (s : String) : List String :=
  runsFrom p [] s.toList

end FineTuning.Text
