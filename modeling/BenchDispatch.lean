import BenchDispatch.Json.Value
import BenchDispatch.Json.Parse
import BenchDispatch.Build.State
import BenchDispatch.Text.Space
import BenchDispatch.Text.Base64
import BenchDispatch.Time.Instant
import BenchDispatch.Time.Text
import BenchDispatch.Time.Duration
import BenchDispatch.Gzip.Crc32
import BenchDispatch.Gzip.Inflate
import BenchDispatch.Gzip.Member
import BenchDispatch.Record.Basic
import BenchDispatch.Record.Codec
import BenchDispatch.Record.Error
import BenchDispatch.Record.Detail
import BenchDispatch.Record.Statistics
import BenchDispatch.Registry.Backlog
import BenchDispatch.Registry.Basic
import BenchDispatch.Yaml.Token
import BenchDispatch.Yaml.Token.Cursor
import BenchDispatch.Yaml.Token.Scalar
import BenchDispatch.Yaml.Token.Stream
import BenchDispatch.Yaml.Event
import BenchDispatch.Yaml.Node
import BenchDispatch.Pattern.CharSet
import BenchDispatch.Pattern.Unicode.Category
import BenchDispatch.Pattern.Unicode.Script
import BenchDispatch.Pattern.Unicode.ScriptExtension
import BenchDispatch.Pattern.Unicode.Property
import BenchDispatch.Pattern.Unicode.Fold
import BenchDispatch.Pattern.Syntax
import BenchDispatch.Pattern.Parse
import BenchDispatch.Pattern.Hir
import BenchDispatch.Pattern.NamedClass
import BenchDispatch.Pattern.Hir.OfAst
import BenchDispatch.Pattern.Match
import BenchDispatch.Pattern.Footprint
import BenchDispatch.Pattern.Compiled
import BenchDispatch.Config.Basic
import BenchDispatch.Config.Read
import BenchDispatch.Broker.Hub
import BenchDispatch.Broker.Client
import BenchDispatch.Dispatch.ControlLoop
import BenchDispatch.Service.Lifecycle
import BenchDispatch.Service.Runner
import BenchDispatch.Json.Binary64
import BenchDispatch.Json.Document
import BenchDispatch.Cli.Args
import BenchDispatch.Cli.Replay
import BenchDispatch.Cli.Program
import BenchDispatch.Main
import BenchDispatch.Proofs.Registry
import BenchDispatch.Proofs.Newest
import BenchDispatch.Proofs.RegistryAnswers
import BenchDispatch.Proofs.Run
import BenchDispatch.Proofs.Coherence
import BenchDispatch.Proofs.InFlight
import BenchDispatch.Proofs.History
import BenchDispatch.Proofs.Redispatch
import BenchDispatch.Proofs.Custody
import BenchDispatch.Proofs.Dispositions
import BenchDispatch.Proofs.Waiting
import BenchDispatch.Proofs.Reordering
import BenchDispatch.Proofs.Hub
import BenchDispatch.Proofs.Independence
import BenchDispatch.Proofs.JsonText
import BenchDispatch.Proofs.Calendar
import BenchDispatch.Proofs.Timestamp
import BenchDispatch.Proofs.RecordText
import BenchDispatch.Proofs.Completion
import BenchDispatch.Proofs.Generations
import BenchDispatch.Proofs.HubQueues
import BenchDispatch.Proofs.ClientCalls
import BenchDispatch.Proofs.Deliveries
import BenchDispatch.Proofs.RunResources
import BenchDispatch.Proofs.Pumping
import BenchDispatch.Proofs.ServiceRuns
import BenchDispatch.Proofs.Anchoring
import BenchDispatch.Proofs.RegistryHistory
import BenchDispatch.Proofs.StatisticsTotal
import BenchDispatch.Proofs.Bytes
import BenchDispatch.Proofs.CanonicalBase64
import BenchDispatch.Proofs.GzipRoundTrip
import BenchDispatch.Proofs.DetailPacking
