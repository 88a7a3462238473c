import ScriptLex.CommandLine.Basic
import ScriptLex.CommandLine.Help
import ScriptLex.Config.Basic
import ScriptLex.Config.Load
import ScriptLex.Diagnostic.Basic
import ScriptLex.Diagnostic.Code
import ScriptLex.Diagnostic.Draft
import ScriptLex.Diagnostic.Report
import ScriptLex.Diagnostic.Snippet
import ScriptLex.Failure
import ScriptLex.FileTree
import ScriptLex.Files
import ScriptLex.Json.Basic
import ScriptLex.Json.Reading
import ScriptLex.Listing
import ScriptLex.Main
import ScriptLex.Program
import ScriptLex.Proofs.CharClass
import ScriptLex.Proofs.Cursor
import ScriptLex.Proofs.Piece
import ScriptLex.Proofs.Rule
import ScriptLex.Proofs.Text
import ScriptLex.Scanner.Basic
import ScriptLex.Scanner.CharClass
import ScriptLex.Scanner.Cursor
import ScriptLex.Scanner.Diagnosis
import ScriptLex.Scanner.Error
import ScriptLex.Scanner.Progress
import ScriptLex.Scanner.Rule
import ScriptLex.Scanner.Vocabulary
import ScriptLex.Source.Encoding
import ScriptLex.Source.Span
import ScriptLex.Text.Bytes
import ScriptLex.Text.Escape
import ScriptLex.Text.Hex
import ScriptLex.Text.Lines
import ScriptLex.Text.Reader
import ScriptLex.Text.Unprintable
import ScriptLex.Text.Utf8
import ScriptLex.Token.Basic
import ScriptLex.Token.Json
import ScriptLex.Token.Kind
import ScriptLex.Toml.Basic
import ScriptLex.Toml.Document
import ScriptLex.Toml.Lexical
import ScriptLex.Proofs.Reading
import ScriptLex.Proofs.Grammar
import ScriptLex.Proofs.Acceptance
import ScriptLex.Proofs.Lookahead
import ScriptLex.Proofs.FirstError
import ScriptLex.Proofs.LineJoin
import ScriptLex.Proofs.Highlight
import ScriptLex.Proofs.Diagnosis
import ScriptLex.Proofs.Canonical
import ScriptLex.Proofs.Taking
import ScriptLex.Proofs.Coverage
import ScriptLex.Proofs.LineCount
import ScriptLex.Proofs.StepSafety
import ScriptLex.Proofs.LineEnding
import ScriptLex.Proofs.Likeness
import ScriptLex.Proofs.Stages
import ScriptLex.Proofs.TextListing
import ScriptLex.Proofs.Comment
import ScriptLex.Proofs.LongestMatch
import ScriptLex.Proofs.Logging
import ScriptLex.Proofs.Reader
import ScriptLex.Proofs.JsonReading
import ScriptLex.Proofs.JsonListing
import ScriptLex.Proofs.RuleOrder
import ScriptLex.Proofs.Resumption
import ScriptLex.Proofs.Consumption
import ScriptLex.Proofs.LineColumn
import ScriptLex.Proofs.SpanSnippet
import ScriptLex.Proofs.StrayError
import ScriptLex.Proofs.Utf8Character
import ScriptLex.Proofs.Utf8
import ScriptLex.Proofs.Decoding
import ScriptLex.Proofs.ConfigTable
import ScriptLex.Proofs.ConfigSource
import ScriptLex.Proofs.Additions
import ScriptLex.Proofs.SpanText
import ScriptLex.Proofs.ByteCursor
import ScriptLex.Proofs.TomlSpelling
import ScriptLex.Proofs.TomlDocument
import ScriptLex.Proofs.TomlTable
import ScriptLex.Proofs.ConfigParse
import ScriptLex.Proofs.ConfigLayout
import ScriptLex.Proofs.Separators
