import FineTuning.Assistant.Session
import FineTuning.Catalog.BuiltIn
import FineTuning.Catalog.Codec
import FineTuning.Catalog.Resolve
import FineTuning.CommandLine.Run
import FineTuning.Config
import FineTuning.Double.Decimal
import FineTuning.Double.Notation
import FineTuning.Graph.Canvas
import FineTuning.Graph.Store
import FineTuning.Graph.Topology
import FineTuning.Job.Codec
import FineTuning.Job.Compile
import FineTuning.Json.Printer
import FineTuning.Json.Reading
import FineTuning.Json.Record
import FineTuning.Main
import FineTuning.Text.Alphanumeric
import FineTuning.Text.AsciiCase
import FineTuning.Text.Blank
import FineTuning.Text.Lowercase
import FineTuning.Text.Numeral
import FineTuning.Text.Quoted
import FineTuning.Text.Runs
import FineTuning.Proofs.Graph.FreshIds
import FineTuning.Proofs.Graph.StoreEdits
import FineTuning.Proofs.Assistant.Calls
import FineTuning.Proofs.Assistant.Turns
import FineTuning.Proofs.StoreRuns
import FineTuning.Proofs.Except
import FineTuning.Proofs.Graph.TrainingPath
import FineTuning.Proofs.Job.Description
import FineTuning.Proofs.Job.Plan
import FineTuning.Proofs.Job.Outcome
import FineTuning.Proofs.Job.Symbols
import FineTuning.Proofs.Job.Reindexing
import FineTuning.Proofs.Job.Shape
import FineTuning.Proofs.Graph.Outline
import FineTuning.Proofs.Graph.Along
import FineTuning.Proofs.Job.Renaming
import FineTuning.Proofs.Job.OffPath
import FineTuning.Proofs.Job.WireFormat
import FineTuning.Proofs.StoreTexts
import FineTuning.Proofs.Assistant.AtomicTurns
import FineTuning.Proofs.Assistant.Reach
import FineTuning.Proofs.Assistant.Settings
import FineTuning.Proofs.Assistant.Connections
import FineTuning.Proofs.Assistant.References
import FineTuning.Proofs.EdgeIds
import FineTuning.Proofs.Assistant.SplitTurns
import FineTuning.Proofs.Job.Described
import FineTuning.Proofs.Assistant.Recovery
import FineTuning.Proofs.Graph.CanvasExports
import FineTuning.Proofs.StoreTopology
import FineTuning.Proofs.Assistant.Limits
import FineTuning.Proofs.Assistant.Redelivery
import FineTuning.Proofs.CreationOrder
import FineTuning.Proofs.Graph.EditOrder
import FineTuning.Proofs.UndoneAdditions
import FineTuning.Proofs.Job.EdgeOrder
import FineTuning.Proofs.Assistant.SpelledOut
import FineTuning.Proofs.Assistant.Refusals
import FineTuning.Proofs.Text.Lowercase
import FineTuning.Proofs.Text.Key
import FineTuning.Proofs.Catalog.Related
import FineTuning.Proofs.Catalog.ExactIds
import FineTuning.Proofs.Graph.FirstFault
import FineTuning.Proofs.Text.Words
import FineTuning.Proofs.Text.Variants
import FineTuning.Proofs.Catalog.Sizes
import FineTuning.Proofs.Catalog.Variants
import FineTuning.Proofs.Double.Whole
import FineTuning.Proofs.Json.ObjectFields
import FineTuning.Proofs.Assistant.TrainingProperties
import FineTuning.Proofs.Job.Describable
import FineTuning.Proofs.Graph.OmittedHandles
import FineTuning.Proofs.Json.FieldNames
import FineTuning.Proofs.Assistant.OtherNames
import FineTuning.Proofs.CreatedIds
import FineTuning.Proofs.Graph.IdSearches
