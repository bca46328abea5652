import ScriptCheck.Json.Reader
import ScriptCheck.Json.Writer
import ScriptCheck.Text.Blank
import ScriptCheck.Text.Cells
import ScriptCheck.Text.Digit
import ScriptCheck.Text.Lines
import ScriptCheck.Text.Quoted
import ScriptCheck.Text.Units
import ScriptCheck.Diagnostic.Data
import ScriptCheck.Diagnostic.Line
import ScriptCheck.Diagnostic.Sarif
import ScriptCheck.Editor.Range
import ScriptCheck.Listing
import ScriptCheck.Table
import ScriptCheck.Uri.File
import ScriptCheck.Uri.Parse
import ScriptCheck.Toml.Document
import ScriptCheck.Settings.Load
import ScriptCheck.Report.Basic
import ScriptCheck.Host.Basic
import ScriptCheck.Duration
import ScriptCheck.Tool.Registry
import ScriptCheck.Server.Session
import ScriptCheck.Command.Run
import ScriptCheck.Main
import ScriptCheck.Proofs.Host.Offering
import ScriptCheck.Proofs.Server.Run
import ScriptCheck.Proofs.Server.History
import ScriptCheck.Proofs.Server.Operations
import ScriptCheck.Proofs.Server.Publication
import ScriptCheck.Proofs.Server.Snapshot
import ScriptCheck.Proofs.Server.Formatting
import ScriptCheck.Proofs.Listing.Diagnostics
import ScriptCheck.Proofs.Listing.Span
import ScriptCheck.Proofs.Editor.Range
import ScriptCheck.Proofs.Server.Session
import ScriptCheck.Proofs.Editor.Replacement
import ScriptCheck.Proofs.Server.Generation
import ScriptCheck.Proofs.Server.Ticket
import ScriptCheck.Proofs.Host.Tree
import ScriptCheck.Proofs.Host.Process
import ScriptCheck.Proofs.Host.File
import ScriptCheck.Proofs.Host.Action
import ScriptCheck.Proofs.Settings.Load
import ScriptCheck.Proofs.Tool.Registry
import ScriptCheck.Proofs.Tool.Linter
import ScriptCheck.Proofs.Tool.Formatter
import ScriptCheck.Proofs.Tool.Rewriting
import ScriptCheck.Proofs.Command.Basic
import ScriptCheck.Proofs.Command.Lint
import ScriptCheck.Proofs.Command.Format
import ScriptCheck.Proofs.Command.Run
import ScriptCheck.Proofs.Command.Formatted
import ScriptCheck.Proofs.Host.Output
import ScriptCheck.Proofs.Command.Output
import ScriptCheck.Proofs.Host.Resolution
import ScriptCheck.Proofs.Tool.Resolution
import ScriptCheck.Proofs.Host.Relative
import ScriptCheck.Proofs.Settings.Layers
import ScriptCheck.Proofs.Server.Configuration
import ScriptCheck.Proofs.Listing.Lookahead
import ScriptCheck.Proofs.Text.Units
import ScriptCheck.Proofs.Editor.Extent
import ScriptCheck.Proofs.Server.Contents
import ScriptCheck.Proofs.Server.Linting
import ScriptCheck.Proofs.Tool.Batch
import ScriptCheck.Proofs.Text.Order
import ScriptCheck.Proofs.Tool.Scripts
import ScriptCheck.Proofs.Json.Record
import ScriptCheck.Proofs.Settings.Decode
import ScriptCheck.Proofs.Listing.Blocks
import ScriptCheck.Proofs.Diagnostic.Sarif
import ScriptCheck.Proofs.Json.Reading
import ScriptCheck.Proofs.Diagnostic.Data
import ScriptCheck.Proofs.Report.Styles
import ScriptCheck.Proofs.Report.Forms
import ScriptCheck.Proofs.Text.Difference
import ScriptCheck.Proofs.Host.Disk
import ScriptCheck.Proofs.Host.Growth
import ScriptCheck.Proofs.Host.Directory
import ScriptCheck.Proofs.Settings.Unset
import ScriptCheck.Proofs.Command.Init
