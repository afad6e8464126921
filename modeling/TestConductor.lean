import TestConductor.Binary64
import TestConductor.Decimal.Shortest
import TestConductor.Json.Number
import TestConductor.Json.Value
import TestConductor.Json.Write
import TestConductor.Json.Fault
import TestConductor.Json.Shape
import TestConductor.Json.Lexeme
import TestConductor.Json.Read
import TestConductor.Text.Escape
import TestConductor.Text.Unicode
import TestConductor.Error
import TestConductor.Duration
import TestConductor.Uuid
import TestConductor.Timestamp
import TestConductor.Text.Blank
import TestConductor.Json.Check
import TestConductor.Protocol.Message
import TestConductor.Protocol.Payload
import TestConductor.Model.TestCase
import TestConductor.Model.Statistics
import TestConductor.Model.Attachment
import TestConductor.Model.Run
import TestConductor.Model.Criteria
import TestConductor.Work.Queue
import TestConductor.Work.Tally
import TestConductor.Text.Case
import TestConductor.Text.Path
import TestConductor.Logging
import TestConductor.Launch.StartInfo
import TestConductor.Launch.Runtime
import TestConductor.Config.Host
import TestConductor.Config.Basic
import TestConductor.Config.File
import TestConductor.Config.Env
import TestConductor.FileTree
import TestConductor.Clock
import TestConductor.Yaml.Token
import TestConductor.Yaml.Scan
import TestConductor.Yaml.Parse
import TestConductor.Yaml.Scalar
import TestConductor.Yaml.Read
import TestConductor.Yaml.Emit
import TestConductor.Config.Store
import TestConductor.Engine.Layout
import TestConductor.Session
import TestConductor.Bench
import TestConductor.Proofs.Parallel.Flow
import TestConductor.Proofs.Parallel.Tracker
import TestConductor.Proofs.Parallel.Ending
import TestConductor.Proofs.Parallel.Conservation
import TestConductor.Proofs.Parallel.Accounting
import TestConductor.Proofs.Parallel.Tallies
import TestConductor.Proofs.Parallel.Outcome
import TestConductor.Proofs.Parallel.Stops
import TestConductor.Proofs.Parallel.Parallelism
import TestConductor.Proofs.Parallel.Closing
import TestConductor.Proofs.Runtime.Calls
import TestConductor.Proofs.Proxy.Effects
import TestConductor.Proofs.Proxy.Units
import TestConductor.Proofs.Parallel.Hosted
import TestConductor.Proofs.Collection.Serving
import TestConductor.Proofs.Worker.KillSwitch
import TestConductor.Proofs.Runtime.Guards
import TestConductor.Proofs.Proxy.Standing
import TestConductor.Proofs.Proxy.Lifecycle
import TestConductor.Proofs.Runtime.Threads
import TestConductor.Proofs.Worker.Events
import TestConductor.Proofs.Work.Overflow
import TestConductor.Proofs.Work.Order
import TestConductor.Proofs.Proxy.Aborts
import TestConductor.Proofs.Collection.CaseTasks
import TestConductor.Proofs.Model.BySource
import TestConductor.Proofs.Parallel.Broadcast
import TestConductor.Proofs.Proxy.Frame
import TestConductor.Proofs.Parallel.Ledger
import TestConductor.Net.Lines
import TestConductor.Proofs.Json.Tokens
import TestConductor.Proofs.Json.Numbers
import TestConductor.Proofs.Json.RoundTrip
import TestConductor.Proofs.Json.Records
import TestConductor.Proofs.Json.Nesting
import TestConductor.Proofs.Protocol.Wire
import TestConductor.Proofs.Model.Statistics
import TestConductor.Proofs.Config.Overrides
import TestConductor.Proofs.Collection.SessionId
import TestConductor.Proofs.Collection.CaseChannel
import TestConductor.Proofs.Machine.Tail
import TestConductor.Proofs.Work.Discipline
import TestConductor.Proofs.Parallel.InFlight
import TestConductor.Proofs.Model.Span
import TestConductor.Proofs.Parallel.Programs
