import IngressMeter.AccessLog.Common
import IngressMeter.AccessLog.Format
import IngressMeter.AccessLog.Line
import IngressMeter.AccessLog.PodTag
import IngressMeter.AccessLog.Record
import IngressMeter.AccessLog.Structured
import IngressMeter.Backoff
import IngressMeter.Cluster.Answer
import IngressMeter.Cluster.Client
import IngressMeter.Cluster.Lease
import IngressMeter.Cluster.Pod
import IngressMeter.Cluster.Request
import IngressMeter.Cluster.RetryQueue
import IngressMeter.Cluster.Watch
import IngressMeter.CommandLine.Argument
import IngressMeter.CommandLine.Options
import IngressMeter.CommandLine.Parse
import IngressMeter.CommandLine.Value
import IngressMeter.Controller
import IngressMeter.ControllerLoop
import IngressMeter.Decimal.Binary
import IngressMeter.Decimal.Power
import IngressMeter.Decimal.Shortest
import IngressMeter.Decimal.Text
import IngressMeter.Failure
import IngressMeter.FileTree
import IngressMeter.Health
import IngressMeter.Json.Basic
import IngressMeter.Json.Decode
import IngressMeter.Json.Form
import IngressMeter.Json.Number
import IngressMeter.Json.Printer
import IngressMeter.Json.Reader
import IngressMeter.Kubeconfig
import IngressMeter.Main
import IngressMeter.Metrics.Endpoint
import IngressMeter.Metrics.Engine
import IngressMeter.Metrics.Exposition
import IngressMeter.Metrics.Families
import IngressMeter.Metrics.Schedule
import IngressMeter.Metrics.Series
import IngressMeter.Metrics.TopSet
import IngressMeter.Path.Normalize
import IngressMeter.Path.Segment
import IngressMeter.Pattern.Basic
import IngressMeter.Pattern.Bracket
import IngressMeter.Pattern.CharClass
import IngressMeter.Pattern.Escape
import IngressMeter.Pattern.Expression
import IngressMeter.Pattern.Flags
import IngressMeter.Pattern.Match
import IngressMeter.Pattern.Node
import IngressMeter.Pattern.Program
import IngressMeter.Pattern.Template
import IngressMeter.Program
import IngressMeter.Proofs.Entries
import IngressMeter.Proofs.Metrics.Bookkeeping
import IngressMeter.Proofs.Metrics.Endpoint
import IngressMeter.Proofs.Metrics.Freshness
import IngressMeter.Proofs.Metrics.Isolation
import IngressMeter.Proofs.Metrics.Latency
import IngressMeter.Proofs.Metrics.Measures
import IngressMeter.Proofs.Metrics.Ranking
import IngressMeter.Proofs.Metrics.Series
import IngressMeter.Proofs.Metrics.Shares
import IngressMeter.Proofs.Metrics.Steps
import IngressMeter.Proofs.Metrics.TopSet
import IngressMeter.Proofs.Reconcile.Measured
import IngressMeter.Proofs.Reconcile.Steps
import IngressMeter.Proofs.Reconcile.Withdrawal
import IngressMeter.Proofs.Rules.Store
import IngressMeter.Proofs.Service.Line
import IngressMeter.Proofs.Service.Tally
import IngressMeter.Proofs.Target
import IngressMeter.Reconcile
import IngressMeter.Resource.Codec
import IngressMeter.Resource.Condition
import IngressMeter.Resource.Definition
import IngressMeter.Resource.Metadata
import IngressMeter.Resource.UrlPerformance
import IngressMeter.Rotation
import IngressMeter.RouterName
import IngressMeter.Routes
import IngressMeter.Rules.AllowList
import IngressMeter.Rules.Basic
import IngressMeter.Rules.ConfigFile
import IngressMeter.Rules.Store
import IngressMeter.Service
import IngressMeter.Source.Disk
import IngressMeter.Source.FileTail
import IngressMeter.Source.PodSource
import IngressMeter.Source.PodStreams
import IngressMeter.Startup
import IngressMeter.Target
import IngressMeter.Text.Blank
import IngressMeter.Text.CaseFold
import IngressMeter.Text.Category
import IngressMeter.Text.Digit
import IngressMeter.Text.Hex
import IngressMeter.Text.Lines
import IngressMeter.Text.Property
import IngressMeter.Text.Quoted
import IngressMeter.Text.Ranges
import IngressMeter.Text.Script
import IngressMeter.Text.Utf8
import IngressMeter.Text.Word
import IngressMeter.Time.Calendar
import IngressMeter.Time.Timestamp
import IngressMeter.View.Basic
import IngressMeter.View.Cluster
import IngressMeter.View.Files
import IngressMeter.View.Lines
import IngressMeter.View.Measurement
import IngressMeter.View.Options
import IngressMeter.View.Record
import IngressMeter.View.Rules
import IngressMeter.View.Service
import IngressMeter.Yaml.Block
import IngressMeter.Yaml.Cursor
import IngressMeter.Yaml.Node
import IngressMeter.Yaml.Reader
import IngressMeter.Yaml.Scalar
import IngressMeter.Proofs.Resource.Condition
import IngressMeter.Proofs.Rules.Contents
import IngressMeter.Proofs.Rules.History
import IngressMeter.Proofs.Reconcile.Idempotence
import IngressMeter.Proofs.Controller.Steps
import IngressMeter.Proofs.Rules.Relist
import IngressMeter.Proofs.Controller.Relist
import IngressMeter.Proofs.Path.DefaultRules
import IngressMeter.Proofs.AccessLog.Fields
import IngressMeter.Proofs.AccessLog.Line
import IngressMeter.Proofs.AccessLog.RoundTrip
import IngressMeter.Proofs.RouterName
import IngressMeter.Proofs.Cluster.RetryQueue
import IngressMeter.Proofs.Controller.Retries
import IngressMeter.Proofs.Cluster.Election
import IngressMeter.Proofs.Cluster.ElectionSafety
import IngressMeter.Proofs.Source.Lines
import IngressMeter.Proofs.Source.Disk
import IngressMeter.Proofs.Source.FileTail
import IngressMeter.Proofs.Source.PodStreams
import IngressMeter.Proofs.Reconcile.Monitoring
import IngressMeter.Proofs.Text.Trimming
import IngressMeter.Proofs.AccessLog.PodTag
import IngressMeter.Proofs.AccessLog.TaggedLine
import IngressMeter.Proofs.Decimal.Binary
import IngressMeter.Proofs.Json.Grammar
import IngressMeter.Proofs.Json.MergePatch
import IngressMeter.Proofs.Json.Reading
import IngressMeter.Proofs.Json.Printing
import IngressMeter.Proofs.Json.Record
import IngressMeter.Proofs.Json.Amount
import IngressMeter.Proofs.AccessLog.Structured
import IngressMeter.Proofs.Time.Calendar
import IngressMeter.Proofs.Time.Timestamp
import IngressMeter.Proofs.Resource.Codec
import IngressMeter.Proofs.Decimal.Order
import IngressMeter.Proofs.Metrics.Selection
import IngressMeter.Proofs.Metrics.Forgetting
import IngressMeter.Proofs.Metrics.Projection
import IngressMeter.Proofs.Reconcile.Outcomes
import IngressMeter.Proofs.Resource.Transition
import IngressMeter.Proofs.Path.Merging
import IngressMeter.Proofs.Metrics.RowHistory
import IngressMeter.Proofs.Metrics.Exposition
import IngressMeter.Proofs.Metrics.ErrorRates
import IngressMeter.Proofs.AccessLog.Numbers
import IngressMeter.Proofs.Health
import IngressMeter.Proofs.Rules.AllowList
import IngressMeter.Proofs.Decimal.Positive
import IngressMeter.Proofs.Backoff
import IngressMeter.Proofs.Cluster.RetryHistory
