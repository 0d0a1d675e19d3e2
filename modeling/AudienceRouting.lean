import AudienceRouting.Ascending
import AudienceRouting.Binary64
import AudienceRouting.Binary64.Text
import AudienceRouting.CommandLine
import AudienceRouting.CommandLine.Arguments
import AudienceRouting.CommandLine.Run
import AudienceRouting.Config
import AudienceRouting.Config.Json
import AudienceRouting.Config.Load
import AudienceRouting.Config.Shape
import AudienceRouting.Engine
import AudienceRouting.Evaluation
import AudienceRouting.Event
import AudienceRouting.Explanation
import AudienceRouting.Explanation.Encoding
import AudienceRouting.Expr
import AudienceRouting.Expr.Descent
import AudienceRouting.Expr.Encoding
import AudienceRouting.Expr.Grammar
import AudienceRouting.Expr.Kind
import AudienceRouting.Expr.Reader
import AudienceRouting.Expr.SyntaxError
import AudienceRouting.Expr.Text
import AudienceRouting.Expr.Walk
import AudienceRouting.ExpressionCache
import AudienceRouting.Files
import AudienceRouting.Glob
import AudienceRouting.Json
import AudienceRouting.Json.Dialect
import AudienceRouting.Json.Mismatch
import AudienceRouting.Json.Number
import AudienceRouting.Json.Printer
import AudienceRouting.Json.Reader
import AudienceRouting.Main
import AudienceRouting.Matching
import AudienceRouting.Record
import AudienceRouting.Registry
import AudienceRouting.Registry.Encoding
import AudienceRouting.RoutingTable
import AudienceRouting.Settings
import AudienceRouting.Settings.Dialect
import AudienceRouting.Settings.Environment
import AudienceRouting.Settings.Error
import AudienceRouting.Settings.FileFormat
import AudienceRouting.Settings.Json
import AudienceRouting.Settings.Toml
import AudienceRouting.Settings.Yaml
import AudienceRouting.Severity
import AudienceRouting.TagSet
import AudienceRouting.Text.Hidden
import AudienceRouting.Text.Lowercase
import AudienceRouting.Text.Lowercase.Cased
import AudienceRouting.Text.Lowercase.Table
import AudienceRouting.Text.Numeral
import AudienceRouting.Text.Quoted
import AudienceRouting.Text.Ranges
import AudienceRouting.Text.Whitespace
import AudienceRouting.Token
import AudienceRouting.Toml
import AudienceRouting.Toml.Moment
import AudienceRouting.Toml.Reader
import AudienceRouting.Toml.Table
import AudienceRouting.Toml.Text
import AudienceRouting.Toml.Value
import AudienceRouting.Yaml
import AudienceRouting.Yaml.BlockText
import AudienceRouting.Yaml.Cursor
import AudienceRouting.Yaml.Document
import AudienceRouting.Yaml.Edition
import AudienceRouting.Yaml.Event
import AudienceRouting.Yaml.Layout
import AudienceRouting.Yaml.Meaning
import AudienceRouting.Yaml.Property
import AudienceRouting.Yaml.Scalar
import AudienceRouting.Yaml.Token
import AudienceRouting.Yaml.Tokens
import AudienceRouting.Proofs.FlatTree
import AudienceRouting.Proofs.Outcome
import AudienceRouting.Proofs.Scanning
import AudienceRouting.Proofs.Unambiguity
import AudienceRouting.Proofs.Limits
import AudienceRouting.Proofs.Reading
import AudienceRouting.Proofs.Completion
import AudienceRouting.Proofs.Language
import AudienceRouting.Proofs.CanonicalText
import AudienceRouting.Proofs.JsonScanning
import AudienceRouting.Proofs.JsonReading
import AudienceRouting.Proofs.TreeEncoding
import AudienceRouting.Proofs.Decisive
import AudienceRouting.Proofs.Resolution
import AudienceRouting.Proofs.Routing
import AudienceRouting.Proofs.SeverityOrder
import AudienceRouting.Proofs.Validation
import AudienceRouting.Proofs.Positions
import AudienceRouting.Proofs.Tracking
import AudienceRouting.Proofs.Diagnosis
import AudienceRouting.Proofs.TextEnd
import AudienceRouting.Proofs.Continuing
import AudienceRouting.Proofs.CorrectPrefix
import AudienceRouting.Proofs.Moving
import AudienceRouting.Proofs.Blanks
import AudienceRouting.Proofs.TokensOfText
import AudienceRouting.Proofs.MinusFree
import AudienceRouting.Proofs.Nesting
import AudienceRouting.Proofs.Merging
import AudienceRouting.Proofs.Joining
import AudienceRouting.Proofs.Occurrence
import AudienceRouting.Proofs.Descent
import AudienceRouting.Proofs.Agreement
import AudienceRouting.Proofs.Caching
import AudienceRouting.Proofs.CacheRuns
import AudienceRouting.Proofs.Sugar
import AudienceRouting.Proofs.Composition
import AudienceRouting.Proofs.Explaining
import AudienceRouting.Proofs.Commands
import AudienceRouting.Proofs.Failing
import AudienceRouting.Proofs.Wildcards
import AudienceRouting.Proofs.Satisfaction
import AudienceRouting.Proofs.Lowercasing
import AudienceRouting.Proofs.Folding
import AudienceRouting.Proofs.FinalSigma
import AudienceRouting.Proofs.Modes
import AudienceRouting.Proofs.Polarity
import AudienceRouting.Proofs.Compilation
import AudienceRouting.Proofs.Queries
import AudienceRouting.Proofs.SourceOrder
import AudienceRouting.Proofs.Gathering
import AudienceRouting.Proofs.EvalArguments
import AudienceRouting.Proofs.Layering
import AudienceRouting.Proofs.Configuration
import AudienceRouting.Proofs.Undelivered
import AudienceRouting.Proofs.Pointing
import AudienceRouting.Proofs.Splitting
