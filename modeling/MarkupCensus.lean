import MarkupCensus.Command.Arguments
import MarkupCensus.Command.Options
import MarkupCensus.Command.Run
import MarkupCensus.Config.Basic
import MarkupCensus.Config.EnvFile
import MarkupCensus.Config.Environment
import MarkupCensus.Config.Filter
import MarkupCensus.Config.NameList
import MarkupCensus.Document
import MarkupCensus.Grammar.Binding
import MarkupCensus.Grammar.Class
import MarkupCensus.Grammar.Expression
import MarkupCensus.Grammar.Goal
import MarkupCensus.Grammar.Markup
import MarkupCensus.Grammar.Module
import MarkupCensus.Grammar.Program
import MarkupCensus.Grammar.Reader
import MarkupCensus.Grammar.Statement
import MarkupCensus.Grammar.Token
import MarkupCensus.Grammar.Type
import MarkupCensus.Literal.CharRef
import MarkupCensus.Literal.CharRefNames
import MarkupCensus.Literal.Escape
import MarkupCensus.Literal.Fault
import MarkupCensus.Main
import MarkupCensus.Number.Binary64
import MarkupCensus.Number.Numeral
import MarkupCensus.Number.Shortest
import MarkupCensus.OrderedMap
import MarkupCensus.Pattern.Basic
import MarkupCensus.Pattern.Fault
import MarkupCensus.Pattern.Match
import MarkupCensus.Pattern.Reader
import MarkupCensus.Project.Discovery
import MarkupCensus.Project.Files
import MarkupCensus.Project.Path
import MarkupCensus.Proofs.Batch
import MarkupCensus.Proofs.Counts
import MarkupCensus.Proofs.Entries
import MarkupCensus.Proofs.Escapes
import MarkupCensus.Proofs.Faults
import MarkupCensus.Proofs.History
import MarkupCensus.Proofs.Locations
import MarkupCensus.Proofs.Merge
import MarkupCensus.Proofs.OrderedMap
import MarkupCensus.Proofs.Padding
import MarkupCensus.Proofs.Precedence
import MarkupCensus.Proofs.ReportTree
import MarkupCensus.Proofs.Segments
import MarkupCensus.Proofs.SourceOrder
import MarkupCensus.Proofs.Trivia
import MarkupCensus.Proofs.Results
import MarkupCensus.Proofs.Usages
import MarkupCensus.Proofs.Widening
import MarkupCensus.Report.Basic
import MarkupCensus.Report.Processor
import MarkupCensus.Report.Value
import MarkupCensus.Scan.Basic
import MarkupCensus.Scan.Batch
import MarkupCensus.Terminal.Cells
import MarkupCensus.Terminal.Console
import MarkupCensus.Terminal.Glyph
import MarkupCensus.Terminal.Markup
import MarkupCensus.Terminal.Table
import MarkupCensus.Terminal.Wrap
import MarkupCensus.Text.Blank
import MarkupCensus.Text.Case
import MarkupCensus.Text.CharacterName
import MarkupCensus.Text.CodePoint
import MarkupCensus.Text.Digit
import MarkupCensus.Text.Printable
import MarkupCensus.Text.Quoted
import MarkupCensus.Text.Range
import MarkupCensus.Text.Split
import MarkupCensus.Text.Utf8
import MarkupCensus.Text.WordChar
import MarkupCensus.Tree.Check
import MarkupCensus.Tree.Fault
import MarkupCensus.Tree.Imports
import MarkupCensus.Tree.Kind
import MarkupCensus.Tree.Literal
import MarkupCensus.Tree.Name
import MarkupCensus.Tree.Node
import MarkupCensus.Tree.Usage
import MarkupCensus.Tree.Walk
import MarkupCensus.Proofs.Files
import MarkupCensus.Proofs.Output
import MarkupCensus.Proofs.Rounding
import MarkupCensus.Proofs.ShortestDigits
import MarkupCensus.Proofs.JsonReader
import MarkupCensus.Proofs.JsonStrings
import MarkupCensus.Proofs.JsonNumbers
import MarkupCensus.Proofs.JsonText
import MarkupCensus.Proofs.Printed
import MarkupCensus.Proofs.Positions
import MarkupCensus.Proofs.Mentions
import MarkupCensus.Proofs.Walk
import MarkupCensus.Proofs.TagNames
import MarkupCensus.Proofs.Positional
import MarkupCensus.Proofs.Encoding
import MarkupCensus.Proofs.NameLeaves
import MarkupCensus.Proofs.Spellings
import MarkupCensus.Proofs.NumberValues
import MarkupCensus.Proofs.Attributes
import MarkupCensus.Proofs.NameLocations
import MarkupCensus.Proofs.ImportBindings
import MarkupCensus.Proofs.OptionalChains
import MarkupCensus.Proofs.Search
import MarkupCensus.Proofs.RawReport
import MarkupCensus.Proofs.FileNames
import MarkupCensus.Proofs.Discovery
import MarkupCensus.Proofs.ReferenceForms
import MarkupCensus.Proofs.CharacterReferences
import MarkupCensus.Proofs.Unescaping
import MarkupCensus.Proofs.NameLists
import MarkupCensus.Proofs.Glyphs
