import ImportAtlas.Command.Plan
import ImportAtlas.Command.Report
import ImportAtlas.Command.Request
import ImportAtlas.Command.Run
import ImportAtlas.CommandLine.Argument
import ImportAtlas.CommandLine.Draft
import ImportAtlas.CommandLine.Reader
import ImportAtlas.Complaint
import ImportAtlas.Discovery
import ImportAtlas.Drawing.Image
import ImportAtlas.Drawing.Options
import ImportAtlas.Drawing.Writer
import ImportAtlas.FileTree.Access
import ImportAtlas.FileTree.Basic
import ImportAtlas.Graph.Basic
import ImportAtlas.Graph.Builder
import ImportAtlas.Graph.Document
import ImportAtlas.Graph.File
import ImportAtlas.Header.Imports
import ImportAtlas.Header.Line
import ImportAtlas.Ignore.Glob
import ImportAtlas.Ignore.Rules
import ImportAtlas.Json.Decode
import ImportAtlas.Json.Printer
import ImportAtlas.Json.Reader
import ImportAtlas.Json.Value
import ImportAtlas.Launcher
import ImportAtlas.LogFilter
import ImportAtlas.Main
import ImportAtlas.Module.Kind
import ImportAtlas.Path.Basic
import ImportAtlas.Proofs.Command.Outputs
import ImportAtlas.Proofs.Command.Patterns
import ImportAtlas.Proofs.Command.Precedence
import ImportAtlas.Proofs.Command.Refusal
import ImportAtlas.Proofs.Command.Repetition
import ImportAtlas.Proofs.Discovery.Exact
import ImportAtlas.Proofs.Discovery.Frame
import ImportAtlas.Proofs.Drawing.Dot
import ImportAtlas.Proofs.Drawing.Endpoints
import ImportAtlas.Proofs.Drawing.Identifiers
import ImportAtlas.Proofs.Drawing.Image
import ImportAtlas.Proofs.Drawing.PlatformModules
import ImportAtlas.Proofs.Drawing.ReadBack
import ImportAtlas.Proofs.FileTree.WellFormed
import ImportAtlas.Proofs.FileTree.Writing
import ImportAtlas.Proofs.Graph.Builder
import ImportAtlas.Proofs.Graph.Document
import ImportAtlas.Proofs.Graph.Log
import ImportAtlas.Proofs.Graph.Neighbours
import ImportAtlas.Proofs.Graph.Ranking
import ImportAtlas.Proofs.Header.Agreement
import ImportAtlas.Proofs.Header.Composition
import ImportAtlas.Proofs.Header.Formatting
import ImportAtlas.Proofs.Header.Grammar
import ImportAtlas.Proofs.Header.Imports
import ImportAtlas.Proofs.Header.KindWord
import ImportAtlas.Proofs.Header.Layout
import ImportAtlas.Proofs.Header.Pattern
import ImportAtlas.Proofs.Header.Reading
import ImportAtlas.Proofs.Json.Decode
import ImportAtlas.Proofs.Json.RoundTrip
import ImportAtlas.Proofs.Path.Extension
import ImportAtlas.Proofs.Path.Names
import ImportAtlas.Proofs.Path.Relative
import ImportAtlas.Proofs.Regex.Attempt
import ImportAtlas.Proofs.Regex.Backtracking
import ImportAtlas.Proofs.Regex.Groups
import ImportAtlas.Proofs.Regex.Matching
import ImportAtlas.Proofs.Regex.Program
import ImportAtlas.Proofs.Regex.Reading
import ImportAtlas.Proofs.Regex.Search
import ImportAtlas.Proofs.Regex.Size
import ImportAtlas.Proofs.Rules.Exclude
import ImportAtlas.Proofs.Rules.Patterns
import ImportAtlas.Proofs.Rules.Validity
import ImportAtlas.Proofs.Rules.Wildcard
import ImportAtlas.Proofs.Scan.CommentBytes
import ImportAtlas.Proofs.Scan.Conservation
import ImportAtlas.Proofs.Scan.Consistency
import ImportAtlas.Proofs.Scan.Endings
import ImportAtlas.Proofs.Scan.Events
import ImportAtlas.Proofs.Scan.Exclusion
import ImportAtlas.Proofs.Scan.Ledger
import ImportAtlas.Proofs.Scan.PlatformModules
import ImportAtlas.Proofs.Scan.Reference
import ImportAtlas.Proofs.Scan.Resolution
import ImportAtlas.Proofs.Scan.Schedule
import ImportAtlas.Proofs.Sorted.Map
import ImportAtlas.Proofs.Sorted.Set
import ImportAtlas.Proofs.Steps
import ImportAtlas.Proofs.Table.Grid
import ImportAtlas.Proofs.Text.Numeral
import ImportAtlas.Regex.Basic
import ImportAtlas.Regex.Error
import ImportAtlas.Regex.Expr
import ImportAtlas.Regex.Footprint
import ImportAtlas.Regex.Meaning
import ImportAtlas.Regex.Pattern.Basic
import ImportAtlas.Regex.Pattern.Class
import ImportAtlas.Regex.Pattern.Cursor
import ImportAtlas.Regex.Pattern.Escape
import ImportAtlas.Regex.Pattern.Parser
import ImportAtlas.Regex.Program
import ImportAtlas.Regex.Search
import ImportAtlas.Rules.Basic
import ImportAtlas.Rules.Wildcard
import ImportAtlas.Scan.Decision
import ImportAtlas.Scan.Event
import ImportAtlas.Scan.Resolution
import ImportAtlas.Scan.Run
import ImportAtlas.Scan.Statistics
import ImportAtlas.Scan.Tally
import ImportAtlas.Settings.Basic
import ImportAtlas.Settings.Decode
import ImportAtlas.Settings.File
import ImportAtlas.Sorted.Map
import ImportAtlas.Sorted.Set
import ImportAtlas.Table
import ImportAtlas.Text.Blank
import ImportAtlas.Text.Lines
import ImportAtlas.Text.Numeral
import ImportAtlas.Text.Utf8
import ImportAtlas.Toml.Node
import ImportAtlas.Toml.Reader
import ImportAtlas.Unicode.CaseData
import ImportAtlas.Unicode.CategoryData
import ImportAtlas.Unicode.CharSet
import ImportAtlas.Unicode.Identifier
import ImportAtlas.Unicode.Property
import ImportAtlas.Unicode.PropertyData
import ImportAtlas.Unicode.RangeTable
import ImportAtlas.Unicode.ScriptData
import ImportAtlas.Unicode.ScriptExtensionData
