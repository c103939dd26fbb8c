import MarkTex.Body.Block
import MarkTex.Table.Layout
import MarkTex.Value
import MarkTex.Text.Digit
import MarkTex.Text.Symbol
import MarkTex.Text.Case
import MarkTex.Text.Marker
import MarkTex.Tex.Markup
import MarkTex.Tex.Language
import MarkTex.Options.Component
import MarkTex.Document
import MarkTex.WordCount
import MarkTex.Config.Json
import MarkTex.Markdown.Line
import MarkTex.Markdown.CharacterReference
import MarkTex.Markdown.Address.Normal
import MarkTex.Markdown.Link
import MarkTex.Markdown.Markup
import MarkTex.Markdown.Emphasis
import MarkTex.Markdown.Scan
import MarkTex.Markdown.Inline
import MarkTex.Markdown.Tree
import MarkTex.Markdown.Grid
import MarkTex.Markdown.Blocks
import MarkTex.Markdown.Tokenize
import MarkTex.Conversion
import MarkTex.Text.Utf8
import MarkTex.Config.Toml.Read
import MarkTex.Config.Yaml.Read
import MarkTex.Files.Tree
import MarkTex.Config.Discover
import MarkTex.Config.Flatten
import MarkTex.CommandLine.Arguments
import MarkTex.CommandLine.Defaults
import MarkTex.CommandLine.Usage
import MarkTex.Log.Setup
import MarkTex.Report
import MarkTex.Engine.Compile
import MarkTex.Program.Failure
import MarkTex.Program.Files
import MarkTex.Program.Records
import MarkTex.Program.Convert
import MarkTex.Program.Run
import MarkTex.Program.Reach
import MarkTex.Main
import MarkTex.Proofs.Math.Segment
import MarkTex.Proofs.Body.Forest
import MarkTex.Proofs.Tex.Decode
import MarkTex.Proofs.Body.Cells
import MarkTex.Proofs.Body.Phrase
import MarkTex.Proofs.Body.Construct
import MarkTex.Proofs.Tex.Nesting
import MarkTex.Proofs.Tex.Neutral
import MarkTex.Proofs.Table.Nesting
import MarkTex.Proofs.Body.Nesting
import MarkTex.Proofs.Document.Packages
import MarkTex.Proofs.Body.Rows
import MarkTex.Proofs.Body.Marker
import MarkTex.Proofs.WordCount.Cover
import MarkTex.Proofs.Tex.Reading
import MarkTex.Proofs.Table.Reading
import MarkTex.Proofs.Body.Reading
import MarkTex.Proofs.Math.Span
import MarkTex.Proofs.Number.Double
import MarkTex.Proofs.Table.Columns
import MarkTex.Proofs.Body.HardBreaks
import MarkTex.Proofs.Body.Walk
import MarkTex.Proofs.CommandLine.Precedence
import MarkTex.Proofs.WordCount.Agreement
import MarkTex.Proofs.CommandLine.Refusal
import MarkTex.Proofs.Engine.Passes
import MarkTex.Proofs.Files.Tree
import MarkTex.Proofs.Options.Rule
import MarkTex.Proofs.Options.Update
import MarkTex.Proofs.Program.Carry
import MarkTex.Proofs.Program.Delivery
import MarkTex.Proofs.Options.Engine
import MarkTex.Proofs.Table.Share
import MarkTex.Proofs.Table.Allocation
import MarkTex.Proofs.Table.Fairness
import MarkTex.Proofs.Table.Decode
import MarkTex.Proofs.Body.BreakKind
import MarkTex.Proofs.Config.Discover
import MarkTex.Proofs.Math.Segmentation
import MarkTex.Proofs.Tex.MathMode
import MarkTex.Proofs.Body.Listing
import MarkTex.Proofs.Tex.Address
import MarkTex.Proofs.Body.Address
import MarkTex.Proofs.Body.Paragraph
import MarkTex.Proofs.Body.Optional
import MarkTex.Proofs.Body.Recut
import MarkTex.Proofs.Table.Measure
import MarkTex.Proofs.Config.Flat
import MarkTex.Proofs.Program.Selection
import MarkTex.Proofs.Markdown.Balance
import MarkTex.Proofs.Body.Group
import MarkTex.Proofs.Text.Marker
import MarkTex.Proofs.Table.Stripping
