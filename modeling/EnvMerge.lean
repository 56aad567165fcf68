import EnvMerge.Command.Arguments
import EnvMerge.Command.Given
import EnvMerge.Command.Help
import EnvMerge.Command.Report
import EnvMerge.Command.Run
import EnvMerge.Command.Words
import EnvMerge.Datum
import EnvMerge.Decision
import EnvMerge.Document
import EnvMerge.Failure
import EnvMerge.Files.Error
import EnvMerge.Files.Host
import EnvMerge.Files.Merge
import EnvMerge.Files.Path
import EnvMerge.Files.Scan
import EnvMerge.Files.System
import EnvMerge.Freeze.Block
import EnvMerge.Freeze.Marker
import EnvMerge.Line.Basic
import EnvMerge.Line.Value
import EnvMerge.Log
import EnvMerge.Main
import EnvMerge.Merge
import EnvMerge.Options
import EnvMerge.Pairing
import EnvMerge.Preference
import EnvMerge.Proofs.Document.Echo
import EnvMerge.Proofs.Document.Identity
import EnvMerge.Proofs.Document.Layout
import EnvMerge.Proofs.Draft
import EnvMerge.Proofs.Freeze.Marker
import EnvMerge.Proofs.Line.Split
import EnvMerge.Proofs.List
import EnvMerge.Proofs.Merge.Additions
import EnvMerge.Proofs.Merge.Frozen
import EnvMerge.Proofs.Merge.LineByLine
import EnvMerge.Proofs.Merge.Matching
import EnvMerge.Proofs.Merge.Rereading
import EnvMerge.Proofs.Merge.Resolution
import EnvMerge.Proofs.Merge.Run
import EnvMerge.Proofs.Options
import EnvMerge.Proofs.Pairing.Arrangement
import EnvMerge.Proofs.Pairing.Partners
import EnvMerge.Proofs.Pairing.Walk
import EnvMerge.Proofs.Text.Trim
import EnvMerge.Rules
import EnvMerge.Side
import EnvMerge.Signature
import EnvMerge.Statement
import EnvMerge.Text.Basic
import EnvMerge.Text.Blank
import EnvMerge.Text.Digest
import EnvMerge.Text.Digit
import EnvMerge.Text.Glob
import EnvMerge.Text.Printable
import EnvMerge.Text.Quoted
import EnvMerge.Text.Utf8
import EnvMerge.Text.Word
import EnvMerge.Proofs.Document.Span
import EnvMerge.Proofs.Merge.Record
import EnvMerge.Proofs.Merge.Environment
import EnvMerge.Proofs.Merge.Idempotence
import EnvMerge.Proofs.Document.Ranges
import EnvMerge.Proofs.Document.Partition
import EnvMerge.Proofs.Merge.Unchanged
import EnvMerge.Proofs.Merge.Extension
import EnvMerge.Proofs.Line.Grammar
import EnvMerge.Proofs.Line.Rendering
import EnvMerge.Proofs.Merge.Text
import EnvMerge.Proofs.Files.Path
import EnvMerge.Proofs.Files.Walk
import EnvMerge.Proofs.Files.Growth
import EnvMerge.Proofs.Files.Job
import EnvMerge.Proofs.Files.Merge
import EnvMerge.Proofs.Files.Below
import EnvMerge.Proofs.Files.Scan
import EnvMerge.Proofs.Files.Progress
import EnvMerge.Proofs.Files.Trees
import EnvMerge.Proofs.Document.Markers
import EnvMerge.Proofs.Preference
import EnvMerge.Proofs.Merge.Preference
import EnvMerge.Proofs.Classification
import EnvMerge.Proofs.Command.Preference
import EnvMerge.Proofs.Files.Query
import EnvMerge.Proofs.Files.Schedule
import EnvMerge.Proofs.Files.Verdict
import EnvMerge.Proofs.Files.Course
import EnvMerge.Proofs.Files.Check
import EnvMerge.Proofs.Files.Rerun
import EnvMerge.Proofs.Line.Escapes
import EnvMerge.Proofs.Line.Comment
import EnvMerge.Proofs.Line.Quotes
import EnvMerge.Proofs.Line.Quoting
import EnvMerge.Proofs.Text.Utf8
import EnvMerge.Proofs.Document.Composition
import EnvMerge.Proofs.Document.Assignments
import EnvMerge.Proofs.Merge.History
import EnvMerge.Proofs.Files.Links
import EnvMerge.Proofs.Files.Delivery
import EnvMerge.Proofs.Files.Loops
import EnvMerge.Proofs.Files.Failures
import EnvMerge.Proofs.Files.Ledger
import EnvMerge.Proofs.Files.Account
import EnvMerge.Proofs.Freeze.Signature
import EnvMerge.Proofs.Files.Tour
import EnvMerge.Proofs.Files.Coverage
import EnvMerge.Proofs.Command.Consent
import EnvMerge.Proofs.Command.Run
