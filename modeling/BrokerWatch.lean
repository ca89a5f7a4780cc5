import BrokerWatch.Admin.Factory
import BrokerWatch.Decimal.Shortest
import BrokerWatch.Settings.Arguments
import BrokerWatch.Text.Utf8
import BrokerWatch.Digest.Hmac
import BrokerWatch.Base64
import BrokerWatch.Sasl.Plain
import BrokerWatch.Sasl.ScramServer
import BrokerWatch.Cluster.Metadata
import BrokerWatch.Wire.Request
import BrokerWatch.Wire.Response
import BrokerWatch.Connection.Dial
import BrokerWatch.Connection.Script
import BrokerWatch.Admin.Client
import BrokerWatch.Health.Evaluation
import BrokerWatch.Files.Tree
import BrokerWatch.Memory.Cgroup
import BrokerWatch.Metrics.Exposition
import BrokerWatch.Http.Server
import BrokerWatch.Program
import BrokerWatch.Main
import BrokerWatch.Proofs.Cluster.Verdicts
import BrokerWatch.Proofs.Health.Calls
import BrokerWatch.Proofs.Health.Readiness
import BrokerWatch.Proofs.Bytes
import BrokerWatch.Proofs.SortedMap
import BrokerWatch.Proofs.Wire.Reading
import BrokerWatch.Proofs.Base64
import BrokerWatch.Proofs.Connection.Frames
import BrokerWatch.Proofs.Sasl.Acceptance
import BrokerWatch.Proofs.Wire.Responses
import BrokerWatch.Proofs.Connection.Authentication
import BrokerWatch.Proofs.Numeral
import BrokerWatch.Proofs.Text.Split
import BrokerWatch.Proofs.Sasl.Messages
import BrokerWatch.Proofs.Sasl.Completeness
import BrokerWatch.Proofs.Wire.Extent
import BrokerWatch.Proofs.Wire.Verdict
import BrokerWatch.Proofs.Connection.RoundTrips
import BrokerWatch.Proofs.Health.Sessions
import BrokerWatch.Proofs.Admin.LogDirs
import BrokerWatch.Proofs.Sasl.Uses
import BrokerWatch.Proofs.Health.Courses
import BrokerWatch.Proofs.Health.Liveness
import BrokerWatch.Proofs.Health.Patience
import BrokerWatch.Proofs.Health.Reports
import BrokerWatch.Proofs.Http.Probes
import BrokerWatch.Proofs.Health.Agreement
import BrokerWatch.Proofs.Wire.Requests
import BrokerWatch.Proofs.Text.Blank
import BrokerWatch.Proofs.Settings.Servers
import BrokerWatch.Proofs.Settings.Resolution
import BrokerWatch.Proofs.Admin.Factory
import BrokerWatch.Proofs.Health.Independence
import BrokerWatch.Proofs.Http.Serving
import BrokerWatch.Proofs.Admin.Teardown
import BrokerWatch.Proofs.Metrics.Gathering
import BrokerWatch.Proofs.Sasl.Challenges
import BrokerWatch.Proofs.Sasl.Ambiguity
import BrokerWatch.Proofs.Health.Deadlines
import BrokerWatch.Proofs.Text.Words
import BrokerWatch.Proofs.Memory.Reading
import BrokerWatch.Proofs.Settings.Replicas
import BrokerWatch.Proofs.Duration.Grammar
import BrokerWatch.Proofs.Discovery
import BrokerWatch.Proofs.Sasl.Identity
import BrokerWatch.Proofs.Cluster.Replication
import BrokerWatch.Proofs.Settings.Secrecy
import BrokerWatch.Proofs.Wire.Size
