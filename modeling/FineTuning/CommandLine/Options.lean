/-!
# Command-line arguments

`Options.parse` understands the arguments of the program: a command, its arguments, and options
such as `--out FILE`, which may also be written `--out=FILE`, `-o FILE` and `-oFILE`. The options
`--config` and `--catalog` may stand anywhere, and after the command they replace those before it;
all others stand after the command. Everything after `--` is an argument.
-/

namespace FineTuning.CommandLine

/-- What the program is asked to do. -/
inductive Command where
  /-- Check the topology of a graph. -/
  | validate (graph : String) (canvas : Bool)
  /-- Compile the job of a graph. -/
  | compile (graph : String) (canvas : Bool) (trainingId : String) (projectName : String)
      (createdBy : Option String) (out : Option String)
  /-- Apply a turn of tool calls to a graph. -/
  | apply (graph : String) (calls : String) (canvas : Bool) (atomic : Bool) (out : Option String)
  /-- Find a model by its name. -/
  | resolveModel (name : String)
deriving DecidableEq

/-- A command, and the files that apply to every command. -/
structure Options where
  config : Option String
  catalog : Option String
  command : Command
deriving DecidableEq

/-- Why the arguments cannot be understood. -/
inductive UsageError where
  | unexpectedArgument (text : String)
  | missingValue (option : String)
  | repeatedOption (option : String)
  | missingArgument (name : String)
deriving DecidableEq

/-- The text of the error. -/
def UsageError.message : UsageError → String
  | .unexpectedArgument text => s!"error: unexpected argument '{text}' found"
  | .missingValue option => s!"error: a value is required for '{option}' but none was supplied"
  | .repeatedOption option => s!"error: the argument '{option}' cannot be used multiple times"
  | .missingArgument name => s!"error: the required argument '{name}' was not provided"

/-- Arguments sorted into options and the rest. Options and plain arguments are kept in order, a
switch being an option with an empty value. -/
structure SortedArguments where
  /-- Options before the command. -/
  leading : List (String × String) := []
  options : List (String × String) := []
  plain : List String := []

/-- Options that take a value. -/
def valueOptions : List String :=
  ["--config", "--catalog", "--training-id", "--project-name", "--created-by", "--out"]

/-- Options that are on or off. -/
def switches : List String :=
  ["--canvas", "--atomic"]

/-- Options that apply to every command. -/
def globalOptions : List String :=
  ["--config", "--catalog"]

namespace SortedArguments

/-- Records an option. -/
def addOption (sorted : SortedArguments) (name value : String) : SortedArguments :=
  if sorted.plain.isEmpty then { sorted with leading := sorted.leading ++ [(name, value)] }
  else { sorted with options := sorted.options ++ [(name, value)] }

/-- Records an argument that is no option. -/
def addPlain (sorted : SortedArguments) (text : String) : SortedArguments :=
  { sorted with plain := sorted.plain ++ [text] }

/-- Whether the text looks like an option, so that it cannot be a value. -/
def isOption (text : String) : Bool :=
  text.startsWith "-" && text != "-"

/-- The name of an option and the value that is written in one piece with it. -/
def splitOption (text : String) : String × Option String :=
  match text.toList with
  | '-' :: '-' :: _ =>
    let name := String.ofList (text.toList.takeWhile (· != '='))
    match text.toList.dropWhile (· != '=') with
    | _ :: value => (name, some (String.ofList value))
    | [] => (name, none)
  | '-' :: 'o' :: '=' :: value => ("--out", some (String.ofList value))
  | '-' :: 'o' :: c :: value => ("--out", some (String.ofList (c :: value)))
  | ['-', 'o'] => ("--out", none)
  | _ => (text, none)

/-- Sorts arguments; with `onlyPlain` all are plain, and none can be the command. -/
def sort (sorted : SortedArguments) (onlyPlain : Bool) :
    List String → Except UsageError SortedArguments
  | [] => .ok sorted
  | text :: rest =>
    if onlyPlain && sorted.plain.isEmpty then .error (.unexpectedArgument text)
    else if onlyPlain || !isOption text then (sorted.addPlain text).sort onlyPlain rest
    else if text = "--" then sorted.sort true rest
    else
      match splitOption text with
      | (name, some value) =>
        if valueOptions.contains name then (sorted.addOption name value).sort false rest
        else .error (.unexpectedArgument text)
      | (name, none) =>
        if switches.contains name then (sorted.addOption name "").sort false rest
        else if valueOptions.contains name then
          match rest with
          | value :: rest =>
            if isOption value then .error (.missingValue name)
            else (sorted.addOption name value).sort false rest
          | [] => .error (.missingValue name)
        else .error (.unexpectedArgument text)

/-- The value of an option; one after the command counts before one that leads. -/
def value? (sorted : SortedArguments) (name : String) : Option String :=
  ((sorted.options ++ sorted.leading).find? (·.1 == name)).map (·.2)

/-- The value of an option that must be given. -/
def value (sorted : SortedArguments) (name : String) : Except UsageError String :=
  match sorted.value? name with
  | some value => .ok value
  | none => .error (.missingArgument name)

/-- Whether a switch is on. -/
def isOn (sorted : SortedArguments) (name : String) : Bool :=
  (sorted.value? name).isSome

/-- Accepts options that are all allowed for the command, and given once before it and once
after it at most. -/
def checkOptions (sorted : SortedArguments) (allowed : List String) : Except UsageError Unit := do
  for (name, _) in sorted.leading do
    if !globalOptions.contains name then throw (.unexpectedArgument name)
  for (name, _) in sorted.options do
    if !(globalOptions ++ allowed).contains name then throw (.unexpectedArgument name)
  for name in valueOptions ++ switches do
    if 1 < sorted.leading.countP (·.1 == name) || 1 < sorted.options.countP (·.1 == name) then
      throw (.repeatedOption name)

end SortedArguments

/-- The command that sorted arguments ask for. -/
def Command.ofArguments (sorted : SortedArguments) : Except UsageError Command := do
  match sorted.plain with
  | ["validate", graph] =>
    sorted.checkOptions ["--canvas"]
    return .validate graph (sorted.isOn "--canvas")
  | ["compile", graph] =>
    sorted.checkOptions ["--canvas", "--training-id", "--project-name", "--created-by", "--out"]
    let trainingId ← sorted.value "--training-id"
    let projectName ← sorted.value "--project-name"
    return .compile graph (sorted.isOn "--canvas") trainingId projectName
      (sorted.value? "--created-by") (sorted.value? "--out")
  | ["apply", graph, calls] =>
    sorted.checkOptions ["--canvas", "--atomic", "--out"]
    return .apply graph calls (sorted.isOn "--canvas") (sorted.isOn "--atomic")
      (sorted.value? "--out")
  | ["resolve-model", name] =>
    sorted.checkOptions []
    return .resolveModel name
  | [] => throw (.missingArgument "COMMAND")
  | command :: _ =>
    if ["validate", "compile", "apply", "resolve-model"].contains command then
      throw (.missingArgument "PATH")
    else throw (.unexpectedArgument command)

/-- What the arguments ask for. -/
def Options.parse (args : List String) : Except UsageError Options := do
  let sorted ← SortedArguments.sort {} false args
  let command ← Command.ofArguments sorted
  return ⟨sorted.value? "--config", sorted.value? "--catalog", command⟩

end FineTuning.CommandLine
