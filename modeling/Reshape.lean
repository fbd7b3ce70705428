import Reshape.Main
import Reshape.Disk.Tree
import Reshape.Text.Utf8
import Reshape.Proofs.Keyed
import Reshape.Proofs.Latest
import Reshape.Proofs.DottedPath
import Reshape.Proofs.Record.Lookup
import Reshape.Proofs.Record.Assign
import Reshape.Proofs.Record.Draft
import Reshape.Proofs.Record.Everywhere
import Reshape.Proofs.Record.Same
import Reshape.Proofs.Conversion.Outputs
import Reshape.Proofs.Conversion.Inverse
import Reshape.Proofs.Conversion.RoundTrip
import Reshape.Proofs.Text.Trim
import Reshape.Proofs.Text.Cut
import Reshape.Proofs.Schema.Grammar
import Reshape.Proofs.Schema.Sections
import Reshape.Proofs.Schema.Positions
import Reshape.Proofs.Schema.Reading
import Reshape.Proofs.Text.Lines
import Reshape.Proofs.Schema.Layout
import Reshape.Proofs.Schema.Refusal
import Reshape.Proofs.Conversion.PairOrder
import Reshape.Proofs.Conversion.Involution
import Reshape.Proofs.Words
import Reshape.Proofs.TypeScript.Literal
import Reshape.Proofs.Schema.Origin
import Reshape.Proofs.TypeScript.MapperModule
import Reshape.Proofs.Generation.Binding
import Reshape.Proofs.TypeScript.Interface
import Reshape.Proofs.TypeScript.Declarations
import Reshape.Proofs.Conversion.Shape
import Reshape.Proofs.Generation.Interface
import Reshape.Proofs.Disk.Path
import Reshape.Proofs.Disk.Tree
import Reshape.Proofs.Disk.Command
import Reshape.Proofs.CommandLine.Reading
import Reshape.Proofs.Generation.Frame
import Reshape.Proofs.Generation.Failure
import Reshape.Proofs.Generation.Clearing
import Reshape.Proofs.Record.Json
import Reshape.Proofs.Disk.Rooted
import Reshape.Proofs.Disk.Vacancy
import Reshape.Proofs.Disk.History
import Reshape.Proofs.Generation.Places
import Reshape.Proofs.Generation.Sparing
import Reshape.Proofs.Disk.Map
import Reshape.Proofs.CommandLine.Agreement
import Reshape.Proofs.CommandLine.Preservation
import Reshape.Proofs.Record.Leaves
import Reshape.Proofs.Conversion.Leaves
import Reshape.Proofs.Conversion.KeyOrder
import Reshape.Proofs.TypeScript.Levels
import Reshape.Proofs.TypeScript.Nesting
import Reshape.Proofs.Generation.Collision
import Reshape.Proofs.Generation.Members
import Reshape.Proofs.Text.Bicameral
import Reshape.Proofs.Words.Fusion
import Reshape.Proofs.Words.Boundaries
import Reshape.Proofs.Generation.Naming
import Reshape.Proofs.Disk.Parent
import Reshape.Proofs.Disk.Removal
import Reshape.Proofs.Generation.Outcome
import Reshape.Proofs.Schema.Run
import Reshape.Proofs.Schema.Spacing
import Reshape.Proofs.Schema.FirstError
import Reshape.Proofs.Generation.Confinement
import Reshape.Text.Identifier
import Reshape.Proofs.Text.Identifier
import Reshape.Proofs.Words.Letters
import Reshape.Proofs.TypeScript.BoundNames
import Reshape.Proofs.Generation.Identifiers
import Reshape.Proofs.Conversion.Ledger
import Reshape.Proofs.Schema.Bookkeeping
import Reshape.Proofs.TypeScript.StringLiteral
import Reshape.Proofs.TypeScript.Fragments
import Reshape.Proofs.Generation.Literals
import Reshape.Proofs.Double.Digits
import Reshape.Proofs.Double.Nearest
import Reshape.Proofs.Double.Shortest
import Reshape.Proofs.Double.Text
import Reshape.Proofs.Json.Number
import Reshape.Proofs.Json.Printer
import Reshape.Proofs.CommandLine.Conversion
