import JsonWorkbench.Batch
import JsonWorkbench.Command.Arguments
import JsonWorkbench.Command.Basic
import JsonWorkbench.Command.Failure
import JsonWorkbench.Command.Reader
import JsonWorkbench.Command.Run
import JsonWorkbench.Command.Terminal
import JsonWorkbench.Condition.Basic
import JsonWorkbench.Condition.Parser
import JsonWorkbench.Convert
import JsonWorkbench.Csv
import JsonWorkbench.Decimal.Layout
import JsonWorkbench.Decimal.Numeral
import JsonWorkbench.Decimal.Power
import JsonWorkbench.Declaration.Basic
import JsonWorkbench.Declaration.Identifier
import JsonWorkbench.Declaration.Inference
import JsonWorkbench.Declaration.Printer
import JsonWorkbench.Diff.Basic
import JsonWorkbench.Diff.Patch
import JsonWorkbench.Error
import JsonWorkbench.ErrorText
import JsonWorkbench.Files.Access
import JsonWorkbench.Files.Folder
import JsonWorkbench.Files.Name
import JsonWorkbench.Files.Selection
import JsonWorkbench.Files.Wildcard
import JsonWorkbench.Format
import JsonWorkbench.Json.Printer
import JsonWorkbench.Json.Reader
import JsonWorkbench.Json.Skip
import JsonWorkbench.Json.TrailingComma
import JsonWorkbench.Keyed
import JsonWorkbench.Main
import JsonWorkbench.Path
import JsonWorkbench.Path.Update
import JsonWorkbench.Proofs.Batch
import JsonWorkbench.Proofs.Census
import JsonWorkbench.Proofs.Condition.Clause
import JsonWorkbench.Proofs.Condition.Conjunction
import JsonWorkbench.Proofs.Condition.Literal
import JsonWorkbench.Proofs.Condition.Match
import JsonWorkbench.Proofs.Csv.Record
import JsonWorkbench.Proofs.Csv.RoundTrip
import JsonWorkbench.Proofs.Csv.RowCount
import JsonWorkbench.Proofs.Declaration
import JsonWorkbench.Proofs.Declaration.Closure
import JsonWorkbench.Proofs.Declaration.FieldName
import JsonWorkbench.Proofs.Declaration.Identifier
import JsonWorkbench.Proofs.Declaration.Rename
import JsonWorkbench.Proofs.Difference
import JsonWorkbench.Proofs.Difference.Ignored
import JsonWorkbench.Proofs.Difference.Mirror
import JsonWorkbench.Proofs.Difference.Place
import JsonWorkbench.Proofs.Difference.Recovery
import JsonWorkbench.Proofs.Equality
import JsonWorkbench.Proofs.Equality.Equivalence
import JsonWorkbench.Proofs.Files.Folder
import JsonWorkbench.Proofs.FlatKey
import JsonWorkbench.Proofs.Flatten
import JsonWorkbench.Proofs.Flatten.Conflict
import JsonWorkbench.Proofs.Flatten.Inverse
import JsonWorkbench.Proofs.Hexadecimal
import JsonWorkbench.Proofs.Inference
import JsonWorkbench.Proofs.Inference.Alike
import JsonWorkbench.Proofs.Inference.Reordering
import JsonWorkbench.Proofs.Inference.SampleOrder
import JsonWorkbench.Proofs.Json.RoundTrip
import JsonWorkbench.Proofs.Json.TrailingComma
import JsonWorkbench.Proofs.KeyOrder
import JsonWorkbench.Proofs.Keyed
import JsonWorkbench.Proofs.Merge
import JsonWorkbench.Proofs.Numeral
import JsonWorkbench.Proofs.Numeral.Double
import JsonWorkbench.Proofs.Numeral.Exact
import JsonWorkbench.Proofs.Patch
import JsonWorkbench.Proofs.PathFilter
import JsonWorkbench.Proofs.PathText
import JsonWorkbench.Proofs.PathText.Normal
import JsonWorkbench.Proofs.PathText.Prefix
import JsonWorkbench.Proofs.Pointer.Resolution
import JsonWorkbench.Proofs.Query
import JsonWorkbench.Proofs.Query.Descent
import JsonWorkbench.Proofs.Query.Slice
import JsonWorkbench.Proofs.Schema.Reader
import JsonWorkbench.Proofs.Schema.RoundTrip
import JsonWorkbench.Proofs.Sorting
import JsonWorkbench.Proofs.Text.Position
import JsonWorkbench.Proofs.Toml.Document
import JsonWorkbench.Proofs.Toml.Line
import JsonWorkbench.Proofs.Toml.Number
import JsonWorkbench.Proofs.Toml.Quoted
import JsonWorkbench.Proofs.Toml.RoundTrip
import JsonWorkbench.Proofs.Toml.Table
import JsonWorkbench.Proofs.Toml.Tree
import JsonWorkbench.Proofs.Toml.Value
import JsonWorkbench.Proofs.Validation
import JsonWorkbench.Proofs.Validation.Place
import JsonWorkbench.Proofs.Value
import JsonWorkbench.Proofs.Write
import JsonWorkbench.Proofs.Write.Agreement
import JsonWorkbench.Proofs.Write.Frame
import JsonWorkbench.Proofs.Xml.Element
import JsonWorkbench.Proofs.Xml.FixedPoint
import JsonWorkbench.Proofs.Xml.Markup
import JsonWorkbench.Proofs.Xml.RoundTrip
import JsonWorkbench.Proofs.Xml.Skipping
import JsonWorkbench.Proofs.Xml.Text
import JsonWorkbench.Proofs.Xml.Transparency
import JsonWorkbench.Proofs.Yaml.Block
import JsonWorkbench.Proofs.Yaml.CoreScalar
import JsonWorkbench.Proofs.Yaml.Cursor
import JsonWorkbench.Proofs.Yaml.Event
import JsonWorkbench.Proofs.Yaml.Key
import JsonWorkbench.Proofs.Yaml.Layout
import JsonWorkbench.Proofs.Yaml.Plain
import JsonWorkbench.Proofs.Yaml.Printed
import JsonWorkbench.Proofs.Yaml.Quoted
import JsonWorkbench.Proofs.Yaml.Reader
import JsonWorkbench.Proofs.Yaml.RoundTrip
import JsonWorkbench.Proofs.Yaml.Scalar
import JsonWorkbench.Proofs.Yaml.State
import JsonWorkbench.Query
import JsonWorkbench.Regex.Basic
import JsonWorkbench.Regex.Parser
import JsonWorkbench.Report.Listing
import JsonWorkbench.Report.Quantity
import JsonWorkbench.Schema.Basic
import JsonWorkbench.Schema.Inference
import JsonWorkbench.Schema.LoadError
import JsonWorkbench.Schema.Printer
import JsonWorkbench.Schema.Reader
import JsonWorkbench.Schema.TextFormat
import JsonWorkbench.Schema.Validation
import JsonWorkbench.Text.Blank
import JsonWorkbench.Text.CaseMapping
import JsonWorkbench.Text.Category
import JsonWorkbench.Text.Hexadecimal
import JsonWorkbench.Text.Letter
import JsonWorkbench.Text.Lines
import JsonWorkbench.Text.Quoted
import JsonWorkbench.Text.Search
import JsonWorkbench.Text.Utf8
import JsonWorkbench.Toml
import JsonWorkbench.Transform.Census
import JsonWorkbench.Transform.Flatten
import JsonWorkbench.Transform.KeyOrder
import JsonWorkbench.Transform.Merge
import JsonWorkbench.Transform.Selection
import JsonWorkbench.Transform.Sorting
import JsonWorkbench.Value.Basic
import JsonWorkbench.Value.Equality
import JsonWorkbench.Value.Numeral
import JsonWorkbench.Xml.Printer
import JsonWorkbench.Xml.Reader
import JsonWorkbench.Yaml
