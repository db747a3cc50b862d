import CqlSchema.Column
import CqlSchema.Command.Arguments
import CqlSchema.Command.Files
import CqlSchema.Command.Load
import CqlSchema.Command.Run
import CqlSchema.DataType.Basic
import CqlSchema.DataType.Parser
import CqlSchema.DataType.Printer
import CqlSchema.Decimal.Layout
import CqlSchema.Decimal.Nearest
import CqlSchema.Decimal.Read
import CqlSchema.Decimal.Shortest
import CqlSchema.DefinitionError
import CqlSchema.Document.Declaration
import CqlSchema.Document.Json
import CqlSchema.Document.Path
import CqlSchema.Document.Record
import CqlSchema.Document.Source
import CqlSchema.Document.Written
import CqlSchema.Document.Yaml
import CqlSchema.Index
import CqlSchema.Json.Basic
import CqlSchema.Json.Reader
import CqlSchema.Json.Writer
import CqlSchema.Keyspace
import CqlSchema.Literal
import CqlSchema.Main
import CqlSchema.Name
import CqlSchema.Options.Basic
import CqlSchema.Options.Check
import CqlSchema.Options.Clause
import CqlSchema.Options.Known
import CqlSchema.Proofs.DataType.Grammar
import CqlSchema.Proofs.DataType.Reading
import CqlSchema.Proofs.DataType.RoundTrip
import CqlSchema.Proofs.Decimal.Characters
import CqlSchema.Proofs.Name
import CqlSchema.Proofs.Options.Setting
import CqlSchema.Proofs.Statement.Bodies
import CqlSchema.Proofs.Statement.Clauses
import CqlSchema.Proofs.Statement.Containment
import CqlSchema.Proofs.Statement.Description
import CqlSchema.Proofs.Statement.Rendering
import CqlSchema.Proofs.Statement.Unambiguous
import CqlSchema.Proofs.Table.Changes
import CqlSchema.Proofs.Table.Columns
import CqlSchema.Proofs.Text.Following
import CqlSchema.Proofs.Text.Scan
import CqlSchema.Proofs.Text.Settled
import CqlSchema.Removal
import CqlSchema.Replication
import CqlSchema.Schema
import CqlSchema.Script
import CqlSchema.Statement.Basic
import CqlSchema.Statement.Kind
import CqlSchema.Table.Alteration
import CqlSchema.Table.Basic
import CqlSchema.Table.Check
import CqlSchema.Table.Key
import CqlSchema.Table.Printer
import CqlSchema.Text.Basic
import CqlSchema.Text.Blank
import CqlSchema.Text.Escaped
import CqlSchema.Text.LetterCase
import CqlSchema.Text.Lowercase
import CqlSchema.Text.Quoted
import CqlSchema.Text.Ranges
import CqlSchema.Text.Sorted
import CqlSchema.Text.Unprintable
import CqlSchema.Yaml.Node
import CqlSchema.Yaml.Node.Reader
import CqlSchema.Yaml.Place
import CqlSchema.Yaml.Resolution
import CqlSchema.Yaml.Token
import CqlSchema.Yaml.Token.Property
import CqlSchema.Yaml.Token.Reader
import CqlSchema.Yaml.Token.Scalar
import CqlSchema.Proofs.Options.Depth
import CqlSchema.Proofs.Statement.WrittenOptions
import CqlSchema.Proofs.Statement.Buffer
import CqlSchema.Proofs.Script
import CqlSchema.Proofs.Decimal.Digits
import CqlSchema.Proofs.Json.Number
import CqlSchema.Proofs.Decimal.Bits
import CqlSchema.Proofs.Decimal.Nearest
import CqlSchema.Proofs.Decimal.Shortest
import CqlSchema.Proofs.Json.Floats
import CqlSchema.Proofs.Json.Output
import CqlSchema.Proofs.Document.Members
import CqlSchema.Proofs.Document.Options
import CqlSchema.Proofs.Document.Records
import CqlSchema.Proofs.Document.RoundTrip
import CqlSchema.Proofs.Options.Refusal
import CqlSchema.Proofs.Table.KeyOrder
import CqlSchema.Proofs.Table.Refusal
import CqlSchema.Proofs.Plan
import CqlSchema.Proofs.Table.Reordering
import CqlSchema.Proofs.Name.Meaning
import CqlSchema.Proofs.Text.Kept
import CqlSchema.Proofs.Text.Pieces
import CqlSchema.Proofs.DataType.Quoting
import CqlSchema.Proofs.Table.Items
import CqlSchema.Proofs.Statement.ClauseCuts
import CqlSchema.Proofs.Statement.Lists
import CqlSchema.Proofs.Table.KeyClauses
import CqlSchema.Proofs.Options.Lookup
import CqlSchema.Proofs.Removal
import CqlSchema.Proofs.Index.DefaultName
import CqlSchema.Proofs.Files
import CqlSchema.Proofs.Statement.LineBreaks
import CqlSchema.Proofs.Lines
import CqlSchema.Proofs.Text.Sorted
import CqlSchema.Proofs.Name.Delimited
import CqlSchema.Proofs.Options.Alike
import CqlSchema.Proofs.Replication
import CqlSchema.Proofs.Steps
import CqlSchema.Proofs.DataType.Walk
import CqlSchema.Proofs.DataType.Tracking
import CqlSchema.Proofs.DataType.Tracking.Names
import CqlSchema.Proofs.DataType.Tracking.Types
import CqlSchema.Proofs.DataType.Progress
