import FineTuning.Assistant.Session
import FineTuning.Catalog.BuiltIn
import FineTuning.Catalog.Codec
import FineTuning.CommandLine.Files
import FineTuning.CommandLine.Options
import FineTuning.CommandLine.TurnFile
import FineTuning.Graph.Canvas
import FineTuning.Job.Codec

/-!
# The commands

`run` carries out a command on any file system and says what to print. The exit status is 0 if all
went well, 1 after an error, and 2 if a graph is invalid or a call of a turn failed.

The configuration is loaded first, then the catalog, then the files of the command.
-/

namespace FineTuning.CommandLine

/-- What the program prints, and its exit status. -/
structure Outcome where
  status : UInt8
  output : String
  errors : String
  /-- The last line of the errors, to which the time that the command took can be added. -/
  summary : Option String
deriving DecidableEq

/-- Lines, each with its end. -/
def linesText (lines : List String) : String :=
  String.join (lines.map (· ++ "\n"))

namespace Outcome

/-- Output without errors. -/
def success (lines : List String) : Outcome :=
  ⟨0, linesText lines, "", none⟩

/-- An error after other lines of errors. -/
def failure (lines : List String) (message : String) : Outcome :=
  ⟨1, "", linesText lines ++ s!"\nError: {message}\n", none⟩

end Outcome

/-- Items of a list, as messages show them. -/
def arrowLine (text : String) : String :=
  s!"  -> {text}"

variable {m : Type → Type} [Monad m] [FileAccess m]

/-- The configuration of a file, or the default one. -/
def loadConfig : Option String → m (Except ConfigError Config)
  | none => return .ok .default
  | some path => do
    match ← FileAccess.read path with
    | .ok text => return Config.ofText text
    | .error error => return .error (.noFile path error.message)

/-- The catalog of a file, or the built-in one. -/
def loadCatalog : Option String → m (Except CatalogError Catalog)
  | none => return .ok .builtIn
  | some path => do
    match ← FileAccess.read path with
    | .ok text => return Catalog.ofText text
    | .error error => return .error (.noFile path error.message)

/-- The graph of a text, which may be a canvas export. -/
def readGraph (canvas : Bool) (text : String) : Except GraphError Graph :=
  if canvas then do (← CanvasExport.ofText text).toGraph else Graph.ofText text

/-- The graph of a file, or what to say about it. -/
def loadGraph (path : String) (canvas : Bool) : m (Except String Graph) := do
  match ← FileAccess.read path with
  | .ok text => return (readGraph canvas text).mapError fun e => s!"Failed to load graph: {e.message}"
  | .error error => return .error s!"Failed to read graph file '{path}': {error.message}"

/-- The turn of a file, or what to say about it. -/
def loadTurn (path : String) : m (Except String TurnFile) := do
  match ← FileAccess.read path with
  | .ok text =>
    return (TurnFile.ofText text).mapError fun e => s!"Failed to parse invocations: {e.message}"
  | .error error =>
    return .error s!"Failed to read invocations file '{path}': {error.message}"

/-- Writes a text to a file, or else gives what to print. -/
def writeOutput (out : Option String) (text : String) : m (Except String String) := do
  match out with
  | none => return .ok (linesText [text])
  | some path =>
    match ← FileAccess.write path text with
    | .ok () => return .ok ""
    | .error error => return .error s!"Failed to write '{path}': {error.message}"

/-- What to print about a valid or invalid graph. -/
def topologyOutcome (report : TopologyReport) : Outcome :=
  if report.isValid then
    .success [
      "Graph is valid.",
      arrowLine ("Training: " ++ report.training.getD "-"),
      arrowLine ("Model: " ++ report.model.getD "-"),
      arrowLine ("Datasets: " ++ ", ".intercalate report.datasets)]
  else ⟨2, linesText ("Graph is invalid:" :: report.messages.map arrowLine), "", none⟩

/-- Checks the topology of a graph. -/
def runValidate (path : String) (canvas : Bool) : m Outcome := do
  match ← loadGraph path canvas with
  | .error message => return .failure [] message
  | .ok g => return topologyOutcome g.topology

/-- What a failed compilation is reported as. -/
def compileFailureText (failure : CompileFailure) : String :=
  "Compilation failed:" ++ String.join (failure.messages.map fun m => "\n" ++ arrowLine m)

/-- The last line after a compilation. -/
def compileSummary (description : JobDescription) : String :=
  s!"Compiled {description.schema.nodes.size.repr} nodes and " ++
    s!"{description.schema.edges.length.repr} edges"

/-- Compiles the job of a graph. -/
def runCompile (path : String) (canvas : Bool) (context : JobContext) (config : Config)
    (out : Option String) : m Outcome := do
  match ← loadGraph path canvas with
  | .error message => return .failure [] message
  | .ok g =>
    match g.compile context config.storageUriPrefix with
    | .error failure => return .failure [] (compileFailureText failure)
    | .ok job =>
      let warnings := job.warnings.map fun w => s!"Warning: {w.message}"
      match ← writeOutput out job.description.toPrettyText with
      | .error message => return .failure warnings message
      | .ok output =>
        return ⟨0, output, linesText warnings, some (compileSummary job.description)⟩

/-- The line about the reply to a call. -/
def replyLine (index : Nat) (reply : ToolReply) : String :=
  let status := if reply.success then "ok" else "failed"
  s!"#{(index + 1).repr} [{status}] {reply.message}"

/-- The lines about a turn of so many calls. -/
def turnLines (report : TurnReport) (calls : Nat) : List String :=
  report.replies.mapIdx replyLine ++
    [s!"{report.processed.repr}/{calls.repr} invocations applied; created nodes: [" ++
      ", ".intercalate report.created ++ "]"]

/-- Applies a turn to a graph. -/
def runApply (path callsPath : String) (canvas atomic : Bool) (catalog : Catalog)
    (config : Config) (out : Option String) : m Outcome := do
  match ← loadGraph path canvas with
  | .error message => return .failure [] message
  | .ok g =>
    match ← loadTurn callsPath with
    | .error message => return .failure [] message
    | .ok turn =>
      match Store.ofGraph g with
      | .error fault => return .failure [] s!"Invalid graph: {fault.message}"
      | .ok store =>
        let session : Session := ⟨store, catalog, config⟩
        let (report, session) :=
          if atomic then session.runTurnAtomic turn.calls turn.created
          else session.runTurn turn.calls turn.created
        let lines := turnLines report turn.calls.length
        match ← writeOutput out session.store.graph.toText with
        | .error message => return .failure lines message
        | .ok output =>
          return ⟨if report.success then 0 else 2, output, linesText lines, none⟩

/-- Finds a model by its name. -/
def runResolve (name : String) (catalog : Catalog) : Outcome :=
  match catalog.resolve name with
  | .ok entry =>
    let count := String.ofList entry.parameterCount.toPlainText
    .success [entry.id,
      arrowLine s!"{entry.displayName} ({entry.provider}, {count}B parameters)"]
  | .error error => .failure [] error.message

/-- Carries out a command. -/
def runCommand (command : Command) (catalog : Catalog) (config : Config) : m Outcome :=
  match command with
  | .validate path canvas => runValidate path canvas
  | .compile path canvas trainingId projectName createdBy out =>
    runCompile path canvas (.ofConfig config trainingId projectName createdBy) config out
  | .apply path calls canvas atomic out => runApply path calls canvas atomic catalog config out
  | .resolveModel name => return runResolve name catalog

/-- Carries out what the arguments ask for. -/
def run (args : List String) : m Outcome := do
  match Options.parse args with
  | .error error => return ⟨2, "", linesText [error.message], none⟩
  | .ok options =>
    match ← loadConfig options.config with
    | .error error => return .failure [] s!"Failed to load config: {error.message}"
    | .ok config =>
      match ← loadCatalog options.catalog with
      | .error error => return .failure [] s!"Failed to load catalog: {error.message}"
      | .ok catalog => runCommand options.command catalog config

end FineTuning.CommandLine
