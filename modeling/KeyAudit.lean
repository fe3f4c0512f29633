import KeyAudit.Decimal.Fixed
import KeyAudit.Decimal.Shortest
import KeyAudit.Ascending
import KeyAudit.KeySet
import KeyAudit.Reference
import KeyAudit.SourceFile
import KeyAudit.Text.Blank
import KeyAudit.Text.Quoted
import KeyAudit.Text.Utf8
import KeyAudit.Json.Basic
import KeyAudit.Json.Failure
import KeyAudit.Json.Numeral
import KeyAudit.Json.Reader
import KeyAudit.Json.Skip
import KeyAudit.Json.Writer
import KeyAudit.Analysis
import KeyAudit.Messages
import KeyAudit.Audit.Basic
import KeyAudit.Console
import KeyAudit.Config.Basic
import KeyAudit.Config.Text
import KeyAudit.Cli.Arguments
import KeyAudit.Cli.Parse
import KeyAudit.Audit.Perform
import KeyAudit.Config.Discovery
import KeyAudit.Cli.Run
import KeyAudit.Main
import KeyAudit.Sandbox.Content
import KeyAudit.Sandbox.FileTree
import KeyAudit.Sandbox.World
import KeyAudit.Sandbox.System
import KeyAudit.Proofs.Path.Child
import KeyAudit.Proofs.Reference.Occurrence
import KeyAudit.Proofs.Reference.Positions
import KeyAudit.Proofs.Text.Lines
import KeyAudit.Proofs.Reference.Lines
import KeyAudit.Proofs.Messages.LeafPaths
import KeyAudit.Proofs.Messages.Entries
import KeyAudit.Proofs.Messages.Unambiguous
import KeyAudit.Proofs.Messages.Lossless
import KeyAudit.Proofs.Messages.LastLeaf
import KeyAudit.Proofs.Messages.Subtrees
import KeyAudit.Proofs.Scan.WalkedKeys
import KeyAudit.Proofs.Audit.Parts
import KeyAudit.Proofs.Audit.UnusedKeys
import KeyAudit.Proofs.Ripgrep.Regex
import KeyAudit.Proofs.Ripgrep.CallPattern
import KeyAudit.Proofs.Ripgrep.Query
import KeyAudit.Proofs.Ripgrep.ErrorLines
import KeyAudit.Proofs.Ripgrep.SearchOutcome
import KeyAudit.Proofs.Ripgrep.Complaints
import KeyAudit.Proofs.Scan.Agreement
import KeyAudit.Proofs.Scan.Fallback
import KeyAudit.Proofs.Path.Components
import KeyAudit.Proofs.Path.Order
import KeyAudit.Proofs.Scan.SourceFiles
import KeyAudit.Proofs.Scan.Collected
import KeyAudit.Proofs.Audit.AddedCode
import KeyAudit.Proofs.Report.Characters
import KeyAudit.Proofs.Report.Rebuilt
import KeyAudit.Proofs.Host.Asking
import KeyAudit.Proofs.Host.Storage
import KeyAudit.Proofs.Cli.Analyze
import KeyAudit.Proofs.Host.Memory
import KeyAudit.Proofs.Json.Numeral
import KeyAudit.Proofs.Config.Written
import KeyAudit.Proofs.Config.Discovery
import KeyAudit.Proofs.Cli.Init
import KeyAudit.Proofs.Cli.Precedence
import KeyAudit.Proofs.Console.Truncation
import KeyAudit.Proofs.Audit.Interleaved
import KeyAudit.Proofs.Audit.Locales
import KeyAudit.Proofs.Audit.Reconciliation
import KeyAudit.Proofs.Config.Boundary
import KeyAudit.Proofs.Config.Partial
import KeyAudit.Proofs.Scan.Accounted
import KeyAudit.Proofs.Config.Resolution
import KeyAudit.Proofs.Scan.Merged
import KeyAudit.Proofs.Console.Colours
import KeyAudit.Proofs.Cli.OptionOrder
