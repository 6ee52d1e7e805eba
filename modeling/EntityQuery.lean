import EntityQuery.Comparison
import EntityQuery.Filter.Operator
import EntityQuery.Schema.Kind
import EntityQuery.Filter.Error
import EntityQuery.Decimal.Binary64
import EntityQuery.Decimal.Shortest
import EntityQuery.Decimal.Notation
import EntityQuery.Json.Basic
import EntityQuery.Json.Parser
import EntityQuery.Json.Printer
import EntityQuery.Binding.Scalar
import EntityQuery.Binding.Slots
import EntityQuery.Calendar.Date
import EntityQuery.Calendar.Instant
import EntityQuery.Calendar.Reading
import EntityQuery.CommandLine.Arguments
import EntityQuery.Sql.Quoted
import EntityQuery.Condition.Word
import EntityQuery.CommandLine.Run
import EntityQuery.Main
import EntityQuery.Statement.Update
import EntityQuery.Proofs.Masking.Shape
import EntityQuery.FileTree
import EntityQuery.Proofs.Masking.Reading
import EntityQuery.Proofs.Masking.Text
import EntityQuery.Proofs.Rendering.Numbering
import EntityQuery.Proofs.Reach.Discovery
import EntityQuery.Proofs.Rendering.Updates
import EntityQuery.Proofs.Reach.Chains
import EntityQuery.Proofs.Reach.SimplePaths
import EntityQuery.Proofs.Lowering.EmptyLists
import EntityQuery.Proofs.Rendering.Selects
import EntityQuery.Proofs.Lowering.Preorder
import EntityQuery.Proofs.Schema.WellFormed
import EntityQuery.Proofs.Json.Place
import EntityQuery.Proofs.Reading.Offence
import EntityQuery.Proofs.Json.Reporting
import EntityQuery.Proofs.Reading.FieldReports
import EntityQuery.Proofs.Reading.FirstOffence
import EntityQuery.Proofs.Rendering.Delimited
import EntityQuery.Proofs.Rendering.Unambiguous
import EntityQuery.Proofs.Rendering.Rejection
import EntityQuery.Proofs.Schema.Rearranged
import EntityQuery.Proofs.Lowering.Reordering
import EntityQuery.Proofs.Reading.NullReferences
import EntityQuery.Proofs.Decimal.Numerals
import EntityQuery.Proofs.Calendar.Days
import EntityQuery.Proofs.Calendar.Forms
import EntityQuery.Proofs.Calendar.Layout
import EntityQuery.Proofs.Calendar.Agreement
import EntityQuery.Proofs.Calendar.Normalized
import EntityQuery.Proofs.Calendar.Chronology
import EntityQuery.Proofs.Rendering.StepOrder
import EntityQuery.Proofs.Rendering.Literals
import EntityQuery.Proofs.Settings.Substitution
import EntityQuery.Proofs.CommandLine.Endings
import EntityQuery.Proofs.CommandLine.Sources
