import MasterData.Main
import MasterData.CommandLine.Run
import MasterData.Record.Row
import MasterData.Store.Memory
import MasterData.Store.Slot
import MasterData.Proofs.SortedMap
import MasterData.Proofs.Path
import MasterData.Proofs.Sheet
import MasterData.Proofs.Index
import MasterData.Proofs.Json.RoundTrip
import MasterData.Proofs.Json.Shapes
import MasterData.Proofs.Config.Validation
import MasterData.Proofs.Schema.Extract
import MasterData.Proofs.Schema.HeaderBlock
import MasterData.Proofs.Schema.SchemaText
import MasterData.Proofs.Record.AssetText
import MasterData.Proofs.Record.Primitives
import MasterData.Proofs.Record.Keys
import MasterData.Proofs.Record.Materialize
import MasterData.Proofs.Record.RowType
import MasterData.Proofs.Record.Conformity
import MasterData.Proofs.Record.ShownCells
import MasterData.Proofs.Record.BlankCells
import MasterData.Proofs.Disk.Destination
import MasterData.Proofs.Disk.Frame
import MasterData.Proofs.Disk.Alike
import MasterData.Proofs.Disk.Listing
import MasterData.Proofs.Store.Folder
import MasterData.Proofs.Store.TemporaryFile
import MasterData.Proofs.Store.Refinement
import MasterData.Proofs.Workbook.Document
import MasterData.Proofs.Workbook.Opening
import MasterData.Proofs.Workbook.DocumentText
import MasterData.Proofs.Workbook.Scan
import MasterData.Proofs.Workbook.Editing
import MasterData.Proofs.Workbook.Grid
import MasterData.Proofs.Text.Characters
import MasterData.Proofs.Schema.TypeTable
import MasterData.Proofs.Config.TypeNames
import MasterData.Proofs.Code.Naming
import MasterData.Proofs.Code.Layout
import MasterData.Proofs.Code.Tokens
import MasterData.Proofs.Code.AggregateModule
import MasterData.Proofs.Code.Comments
import MasterData.Proofs.Code.RecordModule
import MasterData.Proofs.Code.Generated
import MasterData.Proofs.Project.Registry
import MasterData.Proofs.Project.TypeNamespace
import MasterData.Proofs.Project.Loader
import MasterData.Proofs.Project.ManifestText
import MasterData.Proofs.Project.Survey
import MasterData.Proofs.Project.Compile
import MasterData.Proofs.Project.Publishing
import MasterData.Proofs.Project.Leftovers
import MasterData.Proofs.Project.Outputs
import MasterData.Proofs.Project.Session
import MasterData.Proofs.Project.OneByOne
import MasterData.Proofs.Project.CheckMode
import MasterData.Proofs.Project.Pruning
import MasterData.Proofs.Project.Acceptance
import MasterData.Proofs.Project.Rerun
import MasterData.Proofs.Record.TypedIndex
import MasterData.Proofs.Record.TypedValues
import MasterData.Proofs.Project.Recompile
import MasterData.Proofs.Project.CarryForward
import MasterData.Proofs.Project.Confinement
import MasterData.Proofs.Project.SourceWorkbooks
import MasterData.Proofs.Project.FailedCompile
import MasterData.Proofs.Project.FailedMaterialize
import MasterData.Proofs.Project.Inspection
import MasterData.Proofs.Project.DataRows
import MasterData.Proofs.Workbook.Reopening
import MasterData.Proofs.Number.Rounding
import MasterData.Proofs.Record.IntegerCells
import MasterData.Proofs.Code.Identifiers
import MasterData.Proofs.Text.IdentifierChars
import MasterData.Proofs.Code.FieldNames
import MasterData.Proofs.Text.Trimming
import MasterData.Proofs.Schema.TypeGrammar
import MasterData.Proofs.Text.Literals
import MasterData.Proofs.Code.Blocks
import MasterData.Proofs.Code.MemberMatch
import MasterData.Proofs.Config.Members
import MasterData.Proofs.Project.FieldLists
import MasterData.Proofs.Project.ConfiguredEnums
import MasterData.Proofs.Project.ClosedModules
import MasterData.Hashing
import MasterData.Proofs.Record.ArrayCells
import MasterData.Proofs.Hashing
import MasterData.Proofs.Disk.Same
import MasterData.Proofs.Workbook.Listing
import MasterData.Proofs.Workbook.Backends
import MasterData.Proofs.Project.EnumerationOrder
import MasterData.Proofs.Project.WorkbookFailures
import MasterData.Proofs.Cell.Labels
import MasterData.Proofs.Code.SnakeCase
