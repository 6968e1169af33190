import Waymark.Canonical.Graph
import Waymark.Canonical.Index
import Waymark.Check.Collect
import Waymark.Check.Issue
import Waymark.Check.Rules
import Waymark.Check.Run
import Waymark.Command.Basic
import Waymark.Command.Check
import Waymark.Command.Init
import Waymark.Command.Inspect
import Waymark.Command.Options
import Waymark.Command.Run
import Waymark.Command.World
import Waymark.Config.Basic
import Waymark.Config.Load
import Waymark.Config.Parse
import Waymark.Config.Template
import Waymark.Doc.Basic
import Waymark.Doc.Block
import Waymark.Doc.Extract
import Waymark.Doc.Hash
import Waymark.Doc.Literal
import Waymark.Doc.Slash
import Waymark.FileTree.Access
import Waymark.FileTree.Basic
import Waymark.FileTree.Walk
import Waymark.FileTree.Wire
import Waymark.Glob.Basic
import Waymark.Glob.Parse
import Waymark.Grammar.Basic
import Waymark.Grammar.Inline
import Waymark.Grouped
import Waymark.Insertion
import Waymark.Json.Basic
import Waymark.Json.Decode
import Waymark.Json.Parse
import Waymark.Json.Print
import Waymark.Json.Token
import Waymark.Language
import Waymark.Main
import Waymark.Path
import Waymark.Preamble.Attribute
import Waymark.Preamble.Basic
import Waymark.Preamble.Directive
import Waymark.Preamble.FrontMatter
import Waymark.Program.Basic
import Waymark.Program.Ending
import Waymark.Program.Standard
import Waymark.Record.Basic
import Waymark.Record.Properties
import Waymark.Record.Wire
import Waymark.Report.Document
import Waymark.Report.Pretty
import Waymark.Report.Style
import Waymark.Shell.Lexeme
import Waymark.Shell.Run
import Waymark.Shell.Script
import Waymark.Sigil
import Waymark.SystemError
import Waymark.Text.Blank
import Waymark.Text.Bytes
import Waymark.Text.Hex
import Waymark.Text.Lines
import Waymark.Text.Lowercase
import Waymark.Text.Offset
import Waymark.Text.Property
import Waymark.Text.Quoted
import Waymark.Text.Search
import Waymark.Text.Word
import Waymark.Yaml.Character
import Waymark.Yaml.Decode
import Waymark.Yaml.Layout
import Waymark.Yaml.Node
import Waymark.Yaml.Property
import Waymark.Yaml.Scalar
import Waymark.Yaml.Token
import Waymark.Proofs.Canonical
import Waymark.Proofs.Check.Declare
import Waymark.Proofs.Check.Isolation
import Waymark.Proofs.Check.Order
import Waymark.Proofs.Check.Verdict
import Waymark.Proofs.Doc.Basic
import Waymark.Proofs.Doc.Block
import Waymark.Proofs.Doc.Hash
import Waymark.Proofs.Doc.Insertion
import Waymark.Proofs.Doc.Literal
import Waymark.Proofs.Doc.Place
import Waymark.Proofs.Doc.Return
import Waymark.Proofs.Doc.RoundTrip
import Waymark.Proofs.Doc.Slash
import Waymark.Proofs.Doc.Stability
import Waymark.Proofs.Grouped
import Waymark.Proofs.Json.RoundTrip
import Waymark.Proofs.Json.Token
import Waymark.Proofs.Preamble.Attribute
import Waymark.Proofs.Preamble.Directive
import Waymark.Proofs.Preamble.Header
import Waymark.Proofs.Preamble.Stop
import Waymark.Proofs.Record.Wire
import Waymark.Proofs.Text.Blank
import Waymark.Proofs.Text.Insert
import Waymark.Proofs.Text.Lines
import Waymark.Proofs.Text.Lowercase
import Waymark.Proofs.Text.Offset
import Waymark.Proofs.Text.Return
import Waymark.Proofs.Text.Search
import Waymark.Proofs.Path
import Waymark.Proofs.Report.Document
import Waymark.Proofs.Check.Collect
import Waymark.Proofs.Check.Label
import Waymark.Proofs.Command.Check
import Waymark.Proofs.Check.Duplicate
import Waymark.Proofs.Check.Dangling
import Waymark.Proofs.Check.Placement
import Waymark.Proofs.Preamble.AttributeText
import Waymark.Proofs.Preamble.RawString
import Waymark.Proofs.Preamble.Encoding
import Waymark.Proofs.Doc.Indentation
import Waymark.Proofs.Doc.Summary
import Waymark.Proofs.Preamble.FrontMatter
import Waymark.Proofs.Doc.Erasure
import Waymark.Proofs.Text.Span
import Waymark.Proofs.Doc.Opening
import Waymark.Proofs.Doc.CodeLine
