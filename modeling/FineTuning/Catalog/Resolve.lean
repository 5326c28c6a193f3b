import FineTuning.Catalog.Basic
import FineTuning.Text.Alphanumeric
import FineTuning.Text.Lowercase
import FineTuning.Text.Runs

/-!
# Finding a model by its name

People and assistants name models freely: `phi3`, `Phi-3`, `the smaller llama`. Names are compared
by their keys, which hold only the letters and digits, in lower case. `Catalog.resolve` tries, in
this order:

1. an entry whose id, short name or display name has the same key;
2. an entry with an alias that has the same key;
3. with a word such as `smaller` or `biggest`, the least or greatest model of a family that the
   name contains;
4. an entry whose display name contains the name, or is contained in it.
-/

namespace FineTuning

namespace Text

/-- The letters and digits of a text, each in lower case on its own. -/
def keyChars (cs : List Char) : List Char :=
  (cs.filter isAlphanumeric).flatMap lowerChar

/-- The key by which names are compared. -/
def key (s : String) : String :=
  String.ofList (keyChars s.toList)

/-- Whether the characters stand next to one another in the others. -/
def isInfix (inner : List Char) : List Char → Bool
  | [] => inner.isEmpty
  | c :: rest => inner.isPrefixOf (c :: rest) || isInfix inner rest

/-- Whether a text contains another. -/
def contains (s inner : String) : Bool :=
  isInfix inner.toList s.toList

/-- The words of a text: its maximal runs of letters and digits. -/
def words (s : String) : List String :=
  runs isAlphanumeric s

end Text

/-- Which model of a family is asked for. -/
inductive SizePreference where
  | smallest
  | largest
deriving DecidableEq

namespace SizePreference

def smallerWords : List String :=
  ["smaller", "smallest", "small", "tiny", "tinier", "tiniest", "lighter", "lightest", "mini"]

def largerWords : List String :=
  ["larger", "largest", "large", "bigger", "biggest", "big", "heavier", "heaviest"]

/-- The preference that a name expresses with one of its words. -/
def ofName? (name : String) : Option SizePreference :=
  let words := Text.words (Text.lower name)
  if words.any smallerWords.contains then some .smallest
  else if words.any largerWords.contains then some .largest
  else none

end SizePreference

/-- Why no model is found. -/
inductive ResolveError where
  | noMatch (name : String) (valid : List String)
  | emptyName
deriving DecidableEq

/-- The text of the error. -/
def ResolveError.message : ResolveError → String
  | .noMatch name valid =>
    s!"No model matches '{name}'. Valid models are: " ++ ", ".intercalate valid
  | .emptyName => "Model name is empty"

namespace CatalogEntry

/-- The part of the id after its last slash. -/
def shortName (entry : CatalogEntry) : String :=
  String.ofList (entry.id.toList.reverse.takeWhile (· != '/')).reverse

/-- Whether the id, short name or display name has the key. -/
def isNamed (entry : CatalogEntry) (key : String) : Bool :=
  Text.key entry.id == key || Text.key entry.shortName == key || Text.key entry.displayName == key

/-- Whether an alias has the key. -/
def hasAlias (entry : CatalogEntry) (key : String) : Bool :=
  entry.aliases.any (Text.key · == key)

/-- Whether the key contains that of the display name, or the other way round. -/
def overlaps (entry : CatalogEntry) (key : String) : Bool :=
  let display := Text.key entry.displayName
  Text.contains display key || Text.contains key display

/-- Whether the family has a name, and the key contains it. -/
def hasFamilyIn (entry : CatalogEntry) (key : String) : Bool :=
  !entry.family.isEmpty && Text.contains key (Text.key entry.family)

/-- The size by which the models of a family are compared. -/
def sizeKey (entry : CatalogEntry) : Int :=
  entry.parameterCount.orderKey

end CatalogEntry

namespace Catalog

/-- The least entry, the first among equals. -/
def smallest? : List CatalogEntry → Option CatalogEntry
  | [] => none
  | first :: rest =>
    some (rest.foldl (fun best entry => if entry.sizeKey < best.sizeKey then entry else best) first)

/-- The greatest entry, the last among equals. -/
def largest? : List CatalogEntry → Option CatalogEntry
  | [] => none
  | first :: rest =>
    some (rest.foldl (fun best entry => if entry.sizeKey < best.sizeKey then best else entry) first)

/-- The entry of the preferred size in a family. -/
def ofSize? (preference : SizePreference) (entries : List CatalogEntry) : Option CatalogEntry :=
  match preference with
  | .smallest => smallest? entries
  | .largest => largest? entries

/-- The shortest key, in bytes, that is looked for inside of display names. -/
def minOverlap : Nat := 3

def matchName? (catalog : Catalog) (key : String) : Option CatalogEntry :=
  catalog.entries.find? (·.isNamed key)

def matchAlias? (catalog : Catalog) (key : String) : Option CatalogEntry :=
  catalog.entries.find? (·.hasAlias key)

/-- The smallest or largest model of the first family that the key contains. -/
def matchSize? (catalog : Catalog) (name key : String) : Option CatalogEntry := do
  let preference ← SizePreference.ofName? name
  let first ← catalog.entries.find? (·.hasFamilyIn key)
  ofSize? preference (catalog.entries.filter (·.family == first.family))

def matchOverlap? (catalog : Catalog) (key : String) : Option CatalogEntry :=
  if key.utf8ByteSize < minOverlap then none else catalog.entries.find? (·.overlaps key)

/-- The entry that a name means, if it means one. -/
def find? (catalog : Catalog) (name : String) : Option CatalogEntry :=
  let key := Text.key name
  (catalog.matchName? key).or <| (catalog.matchAlias? key).or <|
    (catalog.matchSize? name key).or <| catalog.matchOverlap? key

/-- The entry that a name means. Without one, the error lists what could have been named. -/
def resolve (catalog : Catalog) (name : String) : Except ResolveError CatalogEntry :=
  if (Text.key name).isEmpty then .error .emptyName
  else match catalog.find? name with
    | some entry => .ok entry
    | none => .error (.noMatch name catalog.displayNames)

end Catalog

end FineTuning
