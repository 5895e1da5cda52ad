import ContractAudit.Advisor.Answer
import ContractAudit.Advisor.Prompt
import ContractAudit.Analyzer
import ContractAudit.Audit
import ContractAudit.Calendar
import ContractAudit.Catalogue
import ContractAudit.CommandLine.Arguments
import ContractAudit.CommandLine.Options
import ContractAudit.CommandLine.Run
import ContractAudit.CommandLine.Session
import ContractAudit.CommandLine.Show
import ContractAudit.Comment
import ContractAudit.Console.Layout
import ContractAudit.Console.Literal
import ContractAudit.Console.Markup
import ContractAudit.Console.Pictograph
import ContractAudit.Console.Style
import ContractAudit.Console.Table
import ContractAudit.Disk
import ContractAudit.Fault
import ContractAudit.Finding
import ContractAudit.Fingerprint
import ContractAudit.Json.Reader
import ContractAudit.Json.Writer
import ContractAudit.Library
import ContractAudit.Library.Standard
import ContractAudit.Main
import ContractAudit.Metadata
import ContractAudit.Number.Binary
import ContractAudit.Number.Notation
import ContractAudit.Number.Read
import ContractAudit.Number.Shortest
import ContractAudit.Outcome
import ContractAudit.Outline
import ContractAudit.Outline.Rust
import ContractAudit.Outline.Solidity
import ContractAudit.Outline.Vyper
import ContractAudit.Path
import ContractAudit.Pattern
import ContractAudit.Pattern.Vocabulary
import ContractAudit.Proofs.AuditReturns
import ContractAudit.Proofs.AuditSteps
import ContractAudit.Proofs.CatalogueLayout
import ContractAudit.Proofs.CodeOnly
import ContractAudit.Proofs.CommentScan
import ContractAudit.Proofs.ConsistentReport
import ContractAudit.Proofs.FaultIsolation
import ContractAudit.Proofs.FindingKey
import ContractAudit.Proofs.FirstPerKey
import ContractAudit.Proofs.KeyCollision
import ContractAudit.Proofs.Layout
import ContractAudit.Proofs.LineComment
import ContractAudit.Proofs.LosslessMerge
import ContractAudit.Proofs.Merging
import ContractAudit.Proofs.ModelInfluence
import ContractAudit.Proofs.Positions
import ContractAudit.Proofs.RegistryOrder
import ContractAudit.Proofs.Rendering
import ContractAudit.Proofs.RepeatedMerge
import ContractAudit.Proofs.Returns
import ContractAudit.Proofs.RuleLayout
import ContractAudit.Proofs.Scoring
import ContractAudit.Registry
import ContractAudit.Report
import ContractAudit.Report.Format
import ContractAudit.Report.Html
import ContractAudit.Report.Location
import ContractAudit.Report.Markdown
import ContractAudit.Report.Render
import ContractAudit.Rule.AccessControl
import ContractAudit.Rule.Gas
import ContractAudit.Rule.Overflow
import ContractAudit.Rule.Reentrancy
import ContractAudit.Rule.SelfDestruct
import ContractAudit.Rule.Timestamp
import ContractAudit.Rule.TxOrigin
import ContractAudit.Rule.UncheckedCall
import ContractAudit.Scope
import ContractAudit.Score
import ContractAudit.Settings
import ContractAudit.Settings.Auditor
import ContractAudit.Settings.Configuration
import ContractAudit.Settings.File
import ContractAudit.Settings.Validation
import ContractAudit.Severity
import ContractAudit.Sheet
import ContractAudit.Tally
import ContractAudit.Text.Base64
import ContractAudit.Text.Blank
import ContractAudit.Text.Cased
import ContractAudit.Text.CellWidth
import ContractAudit.Text.CodeRange
import ContractAudit.Text.Digit
import ContractAudit.Text.LetterCase
import ContractAudit.Text.Lines
import ContractAudit.Text.Printable
import ContractAudit.Text.Quoted
import ContractAudit.Text.Slice
import ContractAudit.Text.Utf8
import ContractAudit.Text.WordCharacter
import ContractAudit.Value
import ContractAudit.Window
import ContractAudit.Yaml.Character
import ContractAudit.Yaml.Cursor
import ContractAudit.Yaml.Error
import ContractAudit.Yaml.Graph
import ContractAudit.Yaml.Graph.Grammar
import ContractAudit.Yaml.Graph.Value
import ContractAudit.Yaml.Reader
import ContractAudit.Yaml.Scalar
import ContractAudit.Yaml.Spelling
import ContractAudit.Yaml.Token
import ContractAudit.Yaml.Token.Block
import ContractAudit.Yaml.Token.Lexer
import ContractAudit.Yaml.Token.Plain
import ContractAudit.Yaml.Token.Quoted
import ContractAudit.Yaml.Token.Tag
import ContractAudit.Yaml.Writer
import ContractAudit.Proofs.Degradation
import ContractAudit.Proofs.KnownLanguages
import ContractAudit.Proofs.Tags
import ContractAudit.Proofs.HtmlShape
import ContractAudit.Proofs.JsonData
import ContractAudit.Proofs.JsonTokens
import ContractAudit.Proofs.JsonRoundTrip
import ContractAudit.Proofs.CanonicalReport
import ContractAudit.Proofs.ReportedSettings
import ContractAudit.Proofs.ConfiguredAuditor
import ContractAudit.Proofs.SameData
import ContractAudit.Proofs.SettingsChecks
import ContractAudit.Proofs.StoredFile
import ContractAudit.Proofs.StoredSettings
import ContractAudit.Proofs.CommentLexer
import ContractAudit.Proofs.CodeLines
import ContractAudit.Proofs.OpenBraces
import ContractAudit.Proofs.BlockReach
import ContractAudit.Proofs.PatternMatch
import ContractAudit.Proofs.GuardLocality
import ContractAudit.Proofs.ExposedCalls
import ContractAudit.Proofs.IntegerWindows
import ContractAudit.Proofs.AccessVerdicts
import ContractAudit.Proofs.AnswerFindings
import ContractAudit.Proofs.CodeFences
import ContractAudit.Proofs.FirstMatch
import ContractAudit.Proofs.FunctionNames
import ContractAudit.Proofs.AnalyzerFaults
import ContractAudit.Proofs.OverflowVerdicts
import ContractAudit.Proofs.VersionNumbers
import ContractAudit.Proofs.WholeWords
import ContractAudit.Proofs.UnusedVariables
import ContractAudit.Proofs.ClosingLines
import ContractAudit.Proofs.StorageReads
import ContractAudit.Proofs.FunctionLines
