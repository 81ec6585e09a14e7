import LintReview.Calendar
import LintReview.Checker.Analyzer
import LintReview.Checker.Basic
import LintReview.Checker.Formatter
import LintReview.Checker.Options
import LintReview.Checker.Report
import LintReview.Checker.Scan
import LintReview.CommandLine.Arguments
import LintReview.CommandLine.Basic
import LintReview.CommandLine.Ending
import LintReview.CommandLine.Help
import LintReview.CommandLine.Parameter
import LintReview.CommandLine.Request
import LintReview.CommandLine.Similar
import LintReview.Config
import LintReview.Console.Cell
import LintReview.Console.Line
import LintReview.Console.Message
import LintReview.Console.Style
import LintReview.Console.Styled
import LintReview.Console.Symbol
import LintReview.Console.Table
import LintReview.Context
import LintReview.Diagnostic
import LintReview.Diff.Document
import LintReview.Diff.Hunk
import LintReview.Diff.Patch
import LintReview.Diff.Path
import LintReview.Diff.Position
import LintReview.Diff.Row
import LintReview.Entries
import LintReview.Environment
import LintReview.Failure
import LintReview.FileTree
import LintReview.Host.Git
import LintReview.Host.Github
import LintReview.Host.Process
import LintReview.Host.Session
import LintReview.LogLevel
import LintReview.Main
import LintReview.Markup.Aside
import LintReview.Markup.Character
import LintReview.Markup.Content
import LintReview.Markup.Definitions
import LintReview.Markup.Document
import LintReview.Markup.Element
import LintReview.Markup.Encoding
import LintReview.Markup.Error
import LintReview.Markup.Namespace
import LintReview.Markup.Prolog.Grammar
import LintReview.Markup.Prolog.Token
import LintReview.Markup.Prolog.Version
import LintReview.Markup.Reference
import LintReview.Markup.Tag
import LintReview.Markup.Token
import LintReview.Number.Binary
import LintReview.Number.Shortest
import LintReview.Pattern.Basic
import LintReview.Pattern.CharacterSet
import LintReview.Pattern.Match
import LintReview.Pattern.Read
import LintReview.Pattern.Token
import LintReview.Proofs.Checker.AnalyzerVerdict
import LintReview.Proofs.Checker.FormatterFindings
import LintReview.Proofs.Checker.FormatterLineEndings
import LintReview.Proofs.Checker.FormatterRows
import LintReview.Proofs.Checker.FormatterRun
import LintReview.Proofs.Checker.FormatterVerdict
import LintReview.Proofs.Checker.Launches
import LintReview.Proofs.Checker.LongNumbers
import LintReview.Proofs.Checker.ScanPartition
import LintReview.Proofs.Checker.ScanVerdict
import LintReview.Proofs.Checker.SourceFiles
import LintReview.Proofs.Checker.Totals
import LintReview.Proofs.CommandLine.Requests
import LintReview.Proofs.CommandLine.Validation
import LintReview.Proofs.Config.Documents
import LintReview.Proofs.Config.Keys
import LintReview.Proofs.Config.Overlay
import LintReview.Proofs.Config.Precedence
import LintReview.Proofs.Config.Tables
import LintReview.Proofs.Console.Passages
import LintReview.Proofs.Context.Accepted
import LintReview.Proofs.Diagnostic.Grouping
import LintReview.Proofs.Diagnostic.HeaderGrammar
import LintReview.Proofs.Diagnostic.Headers
import LintReview.Proofs.Diff.FileHeaders
import LintReview.Proofs.Diff.FileVerdicts
import LintReview.Proofs.Diff.HunkBodies
import LintReview.Proofs.Diff.HunkLengths
import LintReview.Proofs.Diff.LongNumbers
import LintReview.Proofs.Diff.OctalChanges
import LintReview.Proofs.Diff.OctalNames
import LintReview.Proofs.Diff.Patches
import LintReview.Proofs.Diff.PositionOrder
import LintReview.Proofs.Diff.Positions
import LintReview.Proofs.Diff.QuotedNames
import LintReview.Proofs.Diff.ReadWritten
import LintReview.Proofs.Diff.RoundTrip
import LintReview.Proofs.Diff.Written
import LintReview.Proofs.Host.Traces
import LintReview.Proofs.Markup.Asides
import LintReview.Proofs.Markup.Fronts
import LintReview.Proofs.Markup.Places
import LintReview.Proofs.Markup.PrologFronts
import LintReview.Proofs.Markup.WrittenContent
import LintReview.Proofs.Markup.WrittenTags
import LintReview.Proofs.Pattern.Extensions
import LintReview.Proofs.Pattern.Language
import LintReview.Proofs.PullRequest.Attempts
import LintReview.Proofs.PullRequest.Dialogue
import LintReview.Proofs.PullRequest.HeldComment
import LintReview.Proofs.PullRequest.Interleaving
import LintReview.Proofs.PullRequest.Upkeep
import LintReview.Proofs.Replacement.Reports
import LintReview.Proofs.Replacement.RoundTrip
import LintReview.Proofs.Review.Anchors
import LintReview.Proofs.Review.Batches
import LintReview.Proofs.Review.MissingPatches
import LintReview.Proofs.Review.OfferedSuggestions
import LintReview.Proofs.Review.OtherFiles
import LintReview.Proofs.Run.Allowed
import LintReview.Proofs.Run.Course
import LintReview.Proofs.Run.Examination
import LintReview.Proofs.Run.ExitCode
import LintReview.Proofs.Run.Figures
import LintReview.Proofs.Run.Patched
import LintReview.Proofs.Run.Posting
import LintReview.Proofs.Run.Reviews
import LintReview.Proofs.Source.Components
import LintReview.Proofs.Source.LineEndings
import LintReview.Proofs.Source.Offsets
import LintReview.Proofs.Source.Suggestions
import LintReview.Proofs.Source.TouchedRows
import LintReview.Proofs.Statistics.Counts
import LintReview.Proofs.Statistics.Forms
import LintReview.Proofs.Statistics.LastAssignment
import LintReview.Proofs.Statistics.SummaryLines
import LintReview.Proofs.Summary.Renderings
import LintReview.Proofs.Text.DecodedLines
import LintReview.Proofs.Text.LetterCase
import LintReview.Proofs.Text.Limits
import LintReview.Proofs.Text.Lines
import LintReview.Proofs.Text.Numerals
import LintReview.Proofs.Text.Parts
import LintReview.Proofs.Text.Returns
import LintReview.Proofs.Text.Utf8
import LintReview.PullRequest
import LintReview.PullRequest.BotComment
import LintReview.Replacement
import LintReview.Review
import LintReview.Run.Basic
import LintReview.Run.Checkers
import LintReview.Run.Posting
import LintReview.RunOptions
import LintReview.Setting
import LintReview.Source.Alignment
import LintReview.Source.FileName
import LintReview.Source.Offset
import LintReview.Source.Suggestion
import LintReview.Source.Touched
import LintReview.Statistics
import LintReview.Summary
import LintReview.Text.Blank
import LintReview.Text.Casing
import LintReview.Text.CharacterName
import LintReview.Text.Digit
import LintReview.Text.Lead
import LintReview.Text.Lines
import LintReview.Text.Numeral
import LintReview.Text.OneOf
import LintReview.Text.Printable
import LintReview.Text.Quoted
import LintReview.Text.Utf8
import LintReview.Text.Word
import LintReview.Token
import LintReview.Yaml.Block
import LintReview.Yaml.Cursor
import LintReview.Yaml.Node
import LintReview.Yaml.Plain
import LintReview.Yaml.Quoted
import LintReview.Yaml.Resolution
import LintReview.Yaml.Tag
import LintReview.Yaml.Token
import LintReview.Yaml.Value
