import ModuleDocs.Assembly
import ModuleDocs.Assembly.Draft
import ModuleDocs.Assembly.Extension
import ModuleDocs.Assembly.Registry
import ModuleDocs.Assembly.Role
import ModuleDocs.Assembly.Table
import ModuleDocs.Batch
import ModuleDocs.Build
import ModuleDocs.CommandLine
import ModuleDocs.CommandLine.Action
import ModuleDocs.CommandLine.Options
import ModuleDocs.Comment
import ModuleDocs.Comment.Json
import ModuleDocs.Comment.Resolve
import ModuleDocs.Datum
import ModuleDocs.Decimal.Layout
import ModuleDocs.Decimal.Nearest
import ModuleDocs.Decimal.Shortest
import ModuleDocs.Dependency
import ModuleDocs.Description
import ModuleDocs.Duration
import ModuleDocs.Event
import ModuleDocs.Failure
import ModuleDocs.Files.Disk
import ModuleDocs.Files.Path
import ModuleDocs.Glob
import ModuleDocs.Ignore
import ModuleDocs.Ignore.Pattern
import ModuleDocs.Json.Fault
import ModuleDocs.Json.Printer
import ModuleDocs.Json.Reader
import ModuleDocs.Json.Skip
import ModuleDocs.Json.Token
import ModuleDocs.Main
import ModuleDocs.Markdown
import ModuleDocs.Markdown.Autolink
import ModuleDocs.Markdown.Document
import ModuleDocs.Markdown.Emphasis
import ModuleDocs.Markdown.Entity
import ModuleDocs.Markdown.EntityTable
import ModuleDocs.Markdown.Html
import ModuleDocs.Markdown.Lexeme
import ModuleDocs.Markdown.Line
import ModuleDocs.Markdown.Running
import ModuleDocs.Markdown.Structure
import ModuleDocs.Markdown.Table
import ModuleDocs.Output
import ModuleDocs.Record
import ModuleDocs.Record.Json
import ModuleDocs.Scan
import ModuleDocs.Session
import ModuleDocs.Settings
import ModuleDocs.Settings.Decode
import ModuleDocs.Settings.Environment
import ModuleDocs.Settings.Load
import ModuleDocs.Shell
import ModuleDocs.Shell.Program
import ModuleDocs.Shell.Script
import ModuleDocs.Source
import ModuleDocs.Text.Blank
import ModuleDocs.Text.Case
import ModuleDocs.Text.Digits
import ModuleDocs.Text.Printable
import ModuleDocs.Text.Punctuation
import ModuleDocs.Text.Quoted
import ModuleDocs.Text.Ranges
import ModuleDocs.Text.Split
import ModuleDocs.Text.Utf8
import ModuleDocs.Toml.Printer
import ModuleDocs.Toml.Reader
import ModuleDocs.Toml.Scalar
import ModuleDocs.Value
import ModuleDocs.Yaml.Number
import ModuleDocs.Yaml.Printer
import ModuleDocs.Yaml.Scalar
import ModuleDocs.Proofs.Blanks
import ModuleDocs.Proofs.OrderedMap
import ModuleDocs.Proofs.Paths
import ModuleDocs.Proofs.Tree
import ModuleDocs.Proofs.Directories
import ModuleDocs.Proofs.Targets
import ModuleDocs.Proofs.Writing
import ModuleDocs.Proofs.Placement
import ModuleDocs.Proofs.IndexFiles
import ModuleDocs.Proofs.Owners
import ModuleDocs.Proofs.Ownership
import ModuleDocs.Proofs.Buckets
import ModuleDocs.Proofs.Reading
import ModuleDocs.Proofs.Sorting
import ModuleDocs.Proofs.Resolution
import ModuleDocs.Proofs.Silence
import ModuleDocs.Proofs.Header
import ModuleDocs.Proofs.Reports
import ModuleDocs.Proofs.Spelling
import ModuleDocs.Proofs.Grammar
import ModuleDocs.Proofs.Skipping
import ModuleDocs.Proofs.Forms
import ModuleDocs.Proofs.RecordForms
import ModuleDocs.Proofs.CommentForms
import ModuleDocs.Proofs.RoundTrip
import ModuleDocs.Proofs.FileStems
import ModuleDocs.Proofs.Builtins
import ModuleDocs.Proofs.Determinism
import ModuleDocs.Proofs.Policies
import ModuleDocs.Proofs.Stream
import ModuleDocs.Proofs.Visible
import ModuleDocs.Proofs.Filling
import ModuleDocs.Proofs.Scanning
import ModuleDocs.Proofs.SteadyScans
import ModuleDocs.Proofs.Collecting
import ModuleDocs.Proofs.Rebuild
import ModuleDocs.Proofs.Finishing
import ModuleDocs.Proofs.Confinement
import ModuleDocs.Proofs.Placing
import ModuleDocs.Proofs.UsableSettings
import ModuleDocs.Proofs.SingleRoot
import ModuleDocs.Proofs.Merging
import ModuleDocs.Proofs.SortedTables
import ModuleDocs.Proofs.Leaves
import ModuleDocs.Proofs.Precedence
import ModuleDocs.Proofs.Requirements
import ModuleDocs.Proofs.NameOrder
import ModuleDocs.Proofs.Guarded
import ModuleDocs.Proofs.Spans
import ModuleDocs.Proofs.RunningText
import ModuleDocs.Proofs.BlockLines
import ModuleDocs.Proofs.Documents
import ModuleDocs.Proofs.SafeMarkup
import ModuleDocs.Proofs.QuotedTexts
import ModuleDocs.Proofs.Sections
import ModuleDocs.Proofs.ShownSettings
