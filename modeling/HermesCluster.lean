import HermesCluster.Lib.Table
import HermesCluster.Lib.Run
import HermesCluster.Lib.VersionGate
import HermesCluster.Lib.Lock
import HermesCluster.Lib.Raise
import HermesCluster.Lib.Transaction
import HermesCluster.Lib.Dag
import HermesCluster.Lib.Clock
import HermesCluster.Lib.Traverse
import HermesCluster.Lib.StableSort
import HermesCluster.Lib.Autoincrement
import HermesCluster.Lib.FixedWidth
import HermesCluster.Lib.Calendar
import HermesCluster.Models
import HermesCluster.State.ClusterState
import HermesCluster.State.TaskSpec
import HermesCluster.Lease.LeaseManager
import HermesCluster.State.ClusterStore
import HermesCluster.State.Session
import HermesCluster.Task.TaskManager
import HermesCluster.State.Database
import HermesCluster.State.StoreSpec
import HermesCluster.Task.Spec
import HermesCluster.Task.LifeCycle
import HermesCluster.Task.Deleted
import HermesCluster.Task.Acyclic
import HermesCluster.Task.TriggerChain
import HermesCluster.State.VersionClock
import HermesCluster.Lease.LeaseSpec
import HermesCluster.State.Agrees
import HermesCluster.Lease.OneHolder
import HermesCluster.Lease.Final
import HermesCluster.Lease.ScanRace
import HermesCluster.Routers.Tasks
import HermesCluster.Routers.Spec
import HermesCluster.Routers.ClaimRace
import HermesCluster.Routers.Completed
import HermesCluster.Routers.Gating
import HermesCluster.Routers.StoreRouter
import HermesCluster.Routers.DropIn
import HermesCluster.Recovery.Pipeline
import HermesCluster.Recovery.Rescheduled
import HermesCluster.Recovery.Recovered
import HermesCluster.Cluster
import HermesCluster.Routers.Claimable
import HermesCluster.Recovery.Stranded
import HermesCluster.Recovery.Expiry
import HermesCluster.Lease.TaskLease
import HermesCluster.Agreement.RunsOn
import HermesCluster.Agreement.Matched
import HermesCluster.Agreement.Requests
import HermesCluster.Agreement.Runs
import HermesCluster.Recovery.Finished
import HermesCluster.Recovery.Detector
import HermesCluster.Core.NodeManager
import HermesCluster.Core.Capabilities
import HermesCluster.Core.Watchdog
import HermesCluster.Core.Triggers
import HermesCluster.Core.Departed
import HermesCluster.Core.Workflow
import HermesCluster.Core.Resolver
import HermesCluster.Core.Released
import HermesCluster.Lease.Locks
import HermesCluster.Sync.Receiver
import HermesCluster.Sync.SyncClient
import HermesCluster.Sync.Coordinator
import HermesCluster.Sync.ReceiverSpec
import HermesCluster.Sync.Readable
import HermesCluster.Sync.Converge
import HermesCluster.Sync.DeltaLink
import HermesCluster.Sync.FullState
import HermesCluster.Sync.DeltaSync
import HermesCluster.Sync.Reapply
import HermesCluster.State.Failures
import HermesCluster.State.Rollback
import HermesCluster.Recovery.AuditLog
import HermesCluster.Routers.FailurePropagation
import HermesCluster.Sync.LWWResolver
import HermesCluster.Recovery.DefiniteEnd
import HermesCluster.Sync.Batch
import HermesCluster.Core.Online
import HermesCluster.Routers.AllOrNothing
import HermesCluster.Task.Creation
import HermesCluster.Task.Validation
import HermesCluster.Task.Runnable
import HermesCluster.Task.AutoSchedule
import HermesCluster.Core.Reschedule
import HermesCluster.Core.Recovery
import HermesCluster.Sync.Applied
import HermesCluster.Sync.StaleSnapshot
import HermesCluster.Lease.LeaseTable
import HermesCluster.Lease.Extension
import HermesCluster.Lease.Accounting
import HermesCluster.Lease.Reported
import HermesCluster.Lease.LeaseIndex
import HermesCluster.Task.Listing
import HermesCluster.Agreement.Promotion
import HermesCluster.Core.StoreManager
import HermesCluster.Sync.Monitoring
import HermesCluster.Hooks.Dispatcher
import HermesCluster.Setup.Wizard
import HermesCluster.Routers.Config
import HermesCluster.State.Rows
import HermesCluster.Sync.Statistics
import HermesCluster.Core.Propagation
import HermesCluster.State.DecisionLog
import HermesCluster.Task.Timestamps
import HermesCluster.Task.Dated
import HermesCluster.Lib.Workflow
import HermesCluster.Routers.Outcome
import HermesCluster.Lib.Threads
import HermesCluster.Lease.Deadlock
import HermesCluster.Core.Detection
import HermesCluster.Lib.Gossip
import HermesCluster.Sync.Gossip
import HermesCluster.Sync.Network
import HermesCluster.Hooks.Manager
import HermesCluster.Task.Rules
import HermesCluster.Task.Integrity
import HermesCluster.Task.Retention
import HermesCluster.Task.Paging
import HermesCluster.Lib.Grouping
import HermesCluster.Task.NodeLoad
import HermesCluster.Lib.Rely
import HermesCluster.Core.Threads
import HermesCluster.Core.LeasesAge
import HermesCluster.Core.Offline
import HermesCluster.Core.AtRest
