import AccessModel.Command.Directory
import AccessModel.Command.Report
import AccessModel.Command.Run
import AccessModel.Compile
import AccessModel.Document
import AccessModel.Error
import AccessModel.Event
import AccessModel.Expression
import AccessModel.Json
import AccessModel.Json.Layout
import AccessModel.Json.Literal
import AccessModel.Line
import AccessModel.Log.Level
import AccessModel.Log.Record
import AccessModel.Main
import AccessModel.Mode
import AccessModel.Model
import AccessModel.Name
import AccessModel.Number.Double
import AccessModel.Number.Whole
import AccessModel.Proofs.Command.Run
import AccessModel.Proofs.Compile
import AccessModel.Proofs.Concatenation
import AccessModel.Proofs.Document
import AccessModel.Proofs.Events
import AccessModel.Proofs.Expression.Calls
import AccessModel.Proofs.Expression.FirstRejected
import AccessModel.Proofs.Expression.Grammar
import AccessModel.Proofs.Expression.Operands
import AccessModel.Proofs.Expression.Passes
import AccessModel.Proofs.Expression.Row
import AccessModel.Proofs.Expression.Rules
import AccessModel.Proofs.Expression.Strict
import AccessModel.Proofs.Expression.Trace
import AccessModel.Proofs.FirstList
import AccessModel.Proofs.Growth
import AccessModel.Proofs.Invariant
import AccessModel.Proofs.Json.Layout
import AccessModel.Proofs.Json.Literal
import AccessModel.Proofs.Json.Reader
import AccessModel.Proofs.Json.Squeeze
import AccessModel.Proofs.Layout
import AccessModel.Proofs.Line
import AccessModel.Proofs.Line.Comment
import AccessModel.Proofs.Lines
import AccessModel.Proofs.Model
import AccessModel.Proofs.Modes
import AccessModel.Proofs.Name
import AccessModel.Proofs.Name.Uses
import AccessModel.Proofs.Order
import AccessModel.Proofs.Outline
import AccessModel.Proofs.Reading
import AccessModel.Proofs.Reference
import AccessModel.Proofs.Render
import AccessModel.Proofs.Repetition
import AccessModel.Proofs.Roundtrip
import AccessModel.Proofs.Scan
import AccessModel.Proofs.Settings.Alike
import AccessModel.Proofs.Settings.Document
import AccessModel.Proofs.Settings.Laws
import AccessModel.Proofs.Settings.Resolve
import AccessModel.Proofs.Settings.Values
import AccessModel.Proofs.Standard.Document
import AccessModel.Proofs.Standard.Layers
import AccessModel.Proofs.Standard.Library
import AccessModel.Proofs.Subjects
import AccessModel.Proofs.Subjects.Texts
import AccessModel.Proofs.Table
import AccessModel.Proofs.Text.Blank
import AccessModel.Proofs.Text.Cut
import AccessModel.Proofs.Text.Lowercase
import AccessModel.Proofs.Traced
import AccessModel.Proofs.Userset
import AccessModel.Proofs.WellFormed
import AccessModel.Reference
import AccessModel.Settings.Basic
import AccessModel.Settings.Document
import AccessModel.Settings.Error
import AccessModel.Settings.Load
import AccessModel.Standard
import AccessModel.Standard.Arguments
import AccessModel.Standard.Document
import AccessModel.Standard.Environment
import AccessModel.Standard.Filter
import AccessModel.Standard.Json
import AccessModel.Standard.Layers
import AccessModel.Standard.Library
import AccessModel.Standard.Line
import AccessModel.Standard.Value
import AccessModel.Standard.Yaml.Lexer
import AccessModel.Standard.Yaml.Lexer.Basic
import AccessModel.Standard.Yaml.Lexer.Block
import AccessModel.Standard.Yaml.Lexer.BlockScalar
import AccessModel.Standard.Yaml.Lexer.Property
import AccessModel.Standard.Yaml.Lexer.Scalar
import AccessModel.Standard.Yaml.Node
import AccessModel.Standard.Yaml.Reader
import AccessModel.Standard.Yaml.Token
import AccessModel.Subjects
import AccessModel.Table
import AccessModel.Text.Alphanumeric
import AccessModel.Text.Blank
import AccessModel.Text.Cut
import AccessModel.Text.Lowercase
import AccessModel.Text.Quoted
import AccessModel.Text.Ranges
import AccessModel.Traced
import AccessModel.Userset
