import SecScan.Text.Ranges
import SecScan.Text.WordChar
import SecScan.Text.Blank
import SecScan.Text.NameTable
import SecScan.Text.CasedTable
import SecScan.Text.CaseTable
import SecScan.Text.Case
import SecScan.Text.DigitTable
import SecScan.Text.Digit
import SecScan.Regex.Basic
import SecScan.Regex.Match
import SecScan.Regex.Replace
import SecScan.Rule.EnvName
import SecScan.Rule.Basic
import SecScan.Detector.Injection
import SecScan.Detector.Markup
import SecScan.Detector.Secret
import SecScan.Detector.Crypto
import SecScan.Detector.Transport
import SecScan.Detector.Deserialization
import SecScan.Catalog.Rules
import SecScan.Catalog.Basic
import SecScan.Number.Binary64
import SecScan.Number.Shortest
import SecScan.Number.Read
import SecScan.Json.Basic
import SecScan.Json.Reader
import SecScan.Json.Printer
import SecScan.Text.Printable
import SecScan.Text.Surrogate
import SecScan.Json.Literal
import SecScan.Finding
import SecScan.Scan
import SecScan.Fix.Result
import SecScan.Fix.Gate
import SecScan.Fix.Apply
import SecScan.Json.Lax
import SecScan.Json.Bytes
import SecScan.Analysis.Reply
import SecScan.Analysis.Prompt
import SecScan.Data.Time
import SecScan.Data.Value
import SecScan.Data.SetOrder
import SecScan.Yaml.Source
import SecScan.Yaml.Token
import SecScan.Yaml.Scalars
import SecScan.Yaml.Scanner
import SecScan.Yaml.Parser
import SecScan.Yaml.Resolve
import SecScan.Yaml.Compose
import SecScan.Yaml.Construct
import SecScan.Yaml.Load
import SecScan.Config.Address
import SecScan.Config.Settings
import SecScan.Http.Url
import SecScan.Http.Request
import SecScan.Completion.Client
import SecScan.Sonar
import SecScan.Analysis.Bridge
import SecScan.Pipeline
import SecScan.Session.Store
import SecScan.Web.Schema
import SecScan.Web.Server
import SecScan.Terminal.Width
import SecScan.Terminal.Style
import SecScan.Terminal.Emoji
import SecScan.Terminal.Handler
import SecScan.Terminal.Markup
import SecScan.Terminal.Wrap
import SecScan.Terminal.Table
import SecScan.Terminal.Console
import SecScan.Diff.Matcher
import SecScan.Diff.Unified
import SecScan.Text.Utf8
import SecScan.Files.Tree
import SecScan.Cli.Params
import SecScan.Cli.Effects
import SecScan.Cli.ScanCommand
import SecScan.Cli.FixCommand
import SecScan.Cli.InfoCommands
import SecScan.Cli.Interface
import SecScan.Cli.Run
import SecScan.Main
import SecScan.Proofs.LineSplit
import SecScan.Proofs.FixOutcome
import SecScan.Proofs.Batch
import SecScan.Proofs.PerLine
import SecScan.Proofs.FixLine
import SecScan.Proofs.Detect
import SecScan.Proofs.Needles
import SecScan.Proofs.Marker
import SecScan.Proofs.Rescan
import SecScan.Proofs.FixScope
import SecScan.Proofs.Enrichment
import SecScan.Proofs.FixSource
import SecScan.Proofs.Runs
import SecScan.Proofs.FindingIds
import SecScan.Proofs.ConfidentFix
import SecScan.Proofs.Cancellation
import SecScan.Proofs.ReplyContent
import SecScan.Proofs.SessionStore
import SecScan.Proofs.FixFrame
import SecScan.Proofs.PipelineFix
import SecScan.Proofs.PatternEnd
import SecScan.Proofs.LineEnding
import SecScan.Proofs.ScanMerge
import SecScan.Proofs.SonarFetch
import SecScan.Proofs.JsonRoundTrip
import SecScan.Proofs.ReplyExtract
import SecScan.Proofs.PromptContext
import SecScan.Proofs.EnvName
import SecScan.Proofs.ConfigLayers
import SecScan.Proofs.DirectoryWalk
