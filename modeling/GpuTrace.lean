import GpuTrace.Main
import GpuTrace.Metrics.Aggregator
import GpuTrace.Program.FileTree
import GpuTrace.Program.Run
import GpuTrace.Record
import GpuTrace.Session.Action
import GpuTrace.Proofs.Outcome
import GpuTrace.Proofs.Table
import GpuTrace.Proofs.Driver.Signals
import GpuTrace.Proofs.Registry.Move
import GpuTrace.Proofs.Registry.WellFormed
import GpuTrace.Proofs.Collector.Frame
import GpuTrace.Proofs.Registry.Reference
import GpuTrace.Proofs.Session.Frame
import GpuTrace.Proofs.Profile.Finish
import GpuTrace.Proofs.Collector.Completion
import GpuTrace.Proofs.Session.WellFormed
import GpuTrace.Proofs.Session.Deed
import GpuTrace.Proofs.Registry.Account
import GpuTrace.Proofs.Session.ExactlyOnce
import GpuTrace.Proofs.Driver.Custody
import GpuTrace.Proofs.Registry.Growth
import GpuTrace.Proofs.Collector.Custody
import GpuTrace.Proofs.Session.Custody
import GpuTrace.Proofs.Profile.Statistics
import GpuTrace.Proofs.Profile.History
import GpuTrace.Proofs.Collector.History
import GpuTrace.Proofs.Session.History
import GpuTrace.Proofs.Session.Untold
import GpuTrace.Proofs.Registry.Batch
import GpuTrace.Proofs.Registry.Calls
import GpuTrace.Proofs.Clock.Anchor
import GpuTrace.Proofs.Collector.Waiting
import GpuTrace.Proofs.Session.Waiting
import GpuTrace.Proofs.Profile.Order
import GpuTrace.Proofs.Collector.Order
import GpuTrace.Proofs.Session.Order
import GpuTrace.Proofs.Collector.Submission
import GpuTrace.Proofs.Session.Turn
import GpuTrace.Proofs.Session.Entrusted
import GpuTrace.Proofs.Session.Alive
import GpuTrace.Proofs.Session.Chronicle
import GpuTrace.Proofs.Calculation
import GpuTrace.Proofs.Metrics.Stream
import GpuTrace.Proofs.Metrics.Sampling
import GpuTrace.Proofs.Metrics.Selection
import GpuTrace.Proofs.Metrics.Folding
import GpuTrace.Proofs.Lockstep
import GpuTrace.Proofs.Collector.Lockstep
import GpuTrace.Proofs.Collector.Mirror
import GpuTrace.Proofs.Profile.Settings
import GpuTrace.Proofs.Collector.Settings
import GpuTrace.Proofs.Session.Lockstep
import GpuTrace.Proofs.Session.Settings
import GpuTrace.Proofs.Collector.Twins
import GpuTrace.Proofs.Collector.Paths
import GpuTrace.Proofs.Session.Paths
import GpuTrace.Proofs.Clock.Domain
import GpuTrace.Proofs.Profile.Stop
import GpuTrace.Proofs.Session.Stop
import GpuTrace.Proofs.Registry.Ids
import GpuTrace.Proofs.Collector.Ids
import GpuTrace.Proofs.Session.Ids
import GpuTrace.Proofs.Collector.Clearing
import GpuTrace.Proofs.Driver.Reports
import GpuTrace.Proofs.Collector.Append
import GpuTrace.Proofs.Workload.Stage
import GpuTrace.Proofs.Workload.Signals
import GpuTrace.Proofs.Profile.Capacity
import GpuTrace.Proofs.Collector.Holding
import GpuTrace.Proofs.Workload.Submission
import GpuTrace.Proofs.Workload.Fill
import GpuTrace.Proofs.Workload.Run
import GpuTrace.Proofs.Workload.Rows
import GpuTrace.Proofs.Workload.Exact
import GpuTrace.Proofs.Registry.Stop
import GpuTrace.Proofs.Registry.Execution
import GpuTrace.Proofs.Collector.Execution
import GpuTrace.Proofs.Session.Batch
import GpuTrace.Proofs.Collector.Sweep
import GpuTrace.Proofs.Session.Sweep
import GpuTrace.Proofs.Collector.Teardown
import GpuTrace.Proofs.Session.Teardown
import GpuTrace.Proofs.Clock.Narrowing
import GpuTrace.Proofs.Metrics.Averaging
import GpuTrace.Proofs.Metrics.Stop
import GpuTrace.Proofs.Registry.Punctual
import GpuTrace.Proofs.Profile.Punctual
import GpuTrace.Proofs.Collector.Request
import GpuTrace.Proofs.Collector.Punctual
import GpuTrace.Proofs.Session.Request
import GpuTrace.Proofs.Session.Punctual
import GpuTrace.Proofs.Clock.Duration
import GpuTrace.Proofs.Profile.Names
import GpuTrace.Proofs.Profile.Devices
import GpuTrace.Proofs.Driver.Devices
import GpuTrace.Proofs.Session.Devices
import GpuTrace.Proofs.Collector.Refusal
import GpuTrace.Proofs.Session.Refusal
import GpuTrace.Proofs.Profile.Report
import GpuTrace.Proofs.Metrics.Capture
import GpuTrace.Proofs.Registry.Others
import GpuTrace.Proofs.Driver.Tables
import GpuTrace.Proofs.Config.Layers
import GpuTrace.Proofs.Program.Loading
