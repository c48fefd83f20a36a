import SymbolIndex.Bisect
import SymbolIndex.Channel
import SymbolIndex.Command.Grammar
import SymbolIndex.Command.Request
import SymbolIndex.Command.Run
import SymbolIndex.Completion.Config
import SymbolIndex.Completion.Provider
import SymbolIndex.Completion.Rank
import SymbolIndex.Completion.SymbolTable
import SymbolIndex.Completion.Template
import SymbolIndex.Decimal.Reading
import SymbolIndex.Decimal.Shortest
import SymbolIndex.Dictionary
import SymbolIndex.Extraction
import SymbolIndex.Extraction.Names
import SymbolIndex.Extraction.Positions
import SymbolIndex.Findings
import SymbolIndex.FirstOccurrence
import SymbolIndex.Glob
import SymbolIndex.Host.Basic
import SymbolIndex.Host.Failure
import SymbolIndex.Host.Platform
import SymbolIndex.Host.Tree
import SymbolIndex.Ignore.Line
import SymbolIndex.Ignore.Matcher
import SymbolIndex.Ignore.Package
import SymbolIndex.Ignore.Rule
import SymbolIndex.Index.Artifact
import SymbolIndex.Index.Record
import SymbolIndex.Index.Validate
import SymbolIndex.Index.Write
import SymbolIndex.Json.Library
import SymbolIndex.Json.Narrow
import SymbolIndex.Json.Number
import SymbolIndex.Json.Package
import SymbolIndex.Json.Printer
import SymbolIndex.Json.Reader
import SymbolIndex.Json.Token
import SymbolIndex.Language
import SymbolIndex.LineIndex
import SymbolIndex.Locate.Definition
import SymbolIndex.Locate.Word
import SymbolIndex.Log
import SymbolIndex.Main
import SymbolIndex.Path
import SymbolIndex.Pattern
import SymbolIndex.Pattern.Assignment
import SymbolIndex.Pattern.Cursor
import SymbolIndex.Pattern.Header
import SymbolIndex.Pattern.Import
import SymbolIndex.Pattern.Keyword
import SymbolIndex.Pattern.Occurrence
import SymbolIndex.Proofs.Bisect
import SymbolIndex.Proofs.Command.Arguments
import SymbolIndex.Proofs.Command.Symbols
import SymbolIndex.Proofs.Completion.Provider
import SymbolIndex.Proofs.Dictionary
import SymbolIndex.Proofs.Extraction.LineEnding
import SymbolIndex.Proofs.Extraction.Members
import SymbolIndex.Proofs.Extraction.Spans
import SymbolIndex.Proofs.Extraction.Symbols
import SymbolIndex.Proofs.Host.Directory
import SymbolIndex.Proofs.Host.Overwrite
import SymbolIndex.Proofs.Host.Resolve
import SymbolIndex.Proofs.Host.Sound
import SymbolIndex.Proofs.Host.Tree
import SymbolIndex.Proofs.Host.Vacant
import SymbolIndex.Proofs.Index.Collect
import SymbolIndex.Proofs.Index.Lines
import SymbolIndex.Proofs.Index.Output
import SymbolIndex.Proofs.Index.Record
import SymbolIndex.Proofs.Index.Rerun
import SymbolIndex.Proofs.Index.RoundTrip
import SymbolIndex.Proofs.Job
import SymbolIndex.Proofs.Json.RoundTrip
import SymbolIndex.Proofs.Json.Token
import SymbolIndex.Proofs.Json.Written
import SymbolIndex.Proofs.LineIndex
import SymbolIndex.Proofs.Locate.Queries
import SymbolIndex.Proofs.Locate.Word
import SymbolIndex.Proofs.Pattern.Cursor
import SymbolIndex.Proofs.Pattern.Excerpt
import SymbolIndex.Proofs.Pattern.Grounded
import SymbolIndex.Proofs.Pattern.LineEnding
import SymbolIndex.Proofs.Pattern.Occurrence
import SymbolIndex.Proofs.Pattern.Spelling
import SymbolIndex.Proofs.Pattern.Steps
import SymbolIndex.Proofs.Schema.Symbol
import SymbolIndex.Proofs.Scope.LineEnding
import SymbolIndex.Proofs.Scope.Nesting
import SymbolIndex.Proofs.Scope.Ranges
import SymbolIndex.Proofs.Sources.Listed
import SymbolIndex.Proofs.Text.LineEnding
import SymbolIndex.Proofs.Text.Lines
import SymbolIndex.Proofs.Text.NameRun
import SymbolIndex.Proofs.Text.Order
import SymbolIndex.Proofs.Text.Utf8
import SymbolIndex.Proofs.Verify.Determinism
import SymbolIndex.Proofs.Workspace.Atomic
import SymbolIndex.Proofs.Workspace.Delivery
import SymbolIndex.Proofs.Workspace.Locators
import SymbolIndex.Proofs.Workspace.Providers
import SymbolIndex.Proofs.Workspace.Run
import SymbolIndex.Registry
import SymbolIndex.Schema.Checked
import SymbolIndex.Schema.Fault
import SymbolIndex.Schema.Field
import SymbolIndex.Schema.Lax
import SymbolIndex.Schema.Package
import SymbolIndex.Schema.Symbol
import SymbolIndex.Scope
import SymbolIndex.Settings.Basic
import SymbolIndex.Settings.Load
import SymbolIndex.Snapshot
import SymbolIndex.Sources.Find
import SymbolIndex.Symbol
import SymbolIndex.Text.Basic
import SymbolIndex.Text.CaseMap
import SymbolIndex.Text.CharClass
import SymbolIndex.Text.Digit
import SymbolIndex.Text.Fold
import SymbolIndex.Text.FoldTable
import SymbolIndex.Text.Lower
import SymbolIndex.Text.LowerTable
import SymbolIndex.Text.Order
import SymbolIndex.Text.Quoted
import SymbolIndex.Text.UnprintableTable
import SymbolIndex.Text.Utf8
import SymbolIndex.Text.Word
import SymbolIndex.Text.WordTable
import SymbolIndex.Toml.Document
import SymbolIndex.Toml.Scalar
import SymbolIndex.Toml.Text
import SymbolIndex.Value
import SymbolIndex.Verify.Determinism
import SymbolIndex.Verify.Idempotence
import SymbolIndex.Vocabulary
import SymbolIndex.Workspace.Attachment
import SymbolIndex.Workspace.Basic
import SymbolIndex.Workspace.Delivery
import SymbolIndex.Proofs.Extraction.Enclosure
import SymbolIndex.Proofs.Workspace.BaseModel
import SymbolIndex.Proofs.Host.Clean
import SymbolIndex.Proofs.Command.Reported
import SymbolIndex.Proofs.Command.Exit
import SymbolIndex.Proofs.Registry
import SymbolIndex.Proofs.Exchange
import SymbolIndex.Proofs.Index.Footprint
import SymbolIndex.Proofs.Host.Rewrite
import SymbolIndex.Proofs.Sources.Ordered
import SymbolIndex.Proofs.Sources.Unwatched
import SymbolIndex.Proofs.Index.Gathered
import SymbolIndex.Proofs.Index.Composition
import SymbolIndex.Proofs.Scope.BodyEnd
import SymbolIndex.Proofs.Extraction.Groups
import SymbolIndex.Proofs.Extraction.Parameters
import SymbolIndex.Proofs.Extraction.MemberLookup
import SymbolIndex.Proofs.Extraction.Headers
import SymbolIndex.Proofs.Pattern.Overlap
import SymbolIndex.Proofs.Extraction.ClassHeaders
import SymbolIndex.Proofs.Completion.Candidates
import SymbolIndex.Proofs.Workspace.Completion
import SymbolIndex.Proofs.Index.Validation
import SymbolIndex.Proofs.Index.Skipped
import SymbolIndex.Proofs.Settings.Load
import SymbolIndex.Proofs.Index.Failed
import SymbolIndex.Proofs.Pattern.AssignedLine
import SymbolIndex.Proofs.Extraction.PlainVariables
import SymbolIndex.Proofs.Pattern.WholeWord
import SymbolIndex.Proofs.Extraction.Keywords
import SymbolIndex.Proofs.Schema.Field
import SymbolIndex.Proofs.Workspace.Templates
import SymbolIndex.Proofs.Settings.NormalForm
import SymbolIndex.Proofs.LineIndex.Inverse
import SymbolIndex.Proofs.Locate.Caret
import SymbolIndex.Proofs.Text.Strip
import SymbolIndex.Proofs.Text.Rows
import SymbolIndex.Proofs.Text.Blocks
import SymbolIndex.Proofs.Completion.SymbolTable
