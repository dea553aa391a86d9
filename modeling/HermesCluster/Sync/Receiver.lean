import HermesCluster.Lib.VersionGate
import HermesCluster.State.ClusterStore

/-!
# `SyncReceiver`

The receiving side of `hermes_cluster/sync/__init__.py`: single messages, batches and
full-state snapshots.  A call has one clock reading; logging is left out, and with it the
`LWWResolver` the receiver holds and never calls.

An exception leaves the store as it was before the call that raised, but the receiver
keeps what it has counted, and a batch ends at the message that raised.
-/

namespace HermesCluster

/-- What `receive_single` returns. -/
inductive SyncResult
  | applied (version : Int) (eventType : SyncEventType)
  | staleVersion (remoteVersion localVersion : Int)
  | storeRejected (remoteVersion : Int)
deriving DecidableEq, Repr

/-- `result["applied"]`. -/
def SyncResult.isApplied : SyncResult → Bool
  | applied _ _ => true
  | _ => false

structure SyncStats where
  received : Nat := 0
  applied : Nat := 0
  rejectedStale : Nat := 0
deriving DecidableEq, Repr

/-- What `receive_batch` returns. -/
structure BatchResult where
  accepted : Nat
  rejected : Nat
  total : Nat
  details : List SyncResult
deriving DecidableEq, Repr

/-! ### Full-state snapshots -/

/-- The dictionary of a node in a snapshot. -/
structure NodeData where
  id : NodeId
  name : String
  capabilities : List Capability
  status : String
  lastHeartbeat : DateTime
  load : Load
deriving DecidableEq

/-- The dictionary of a task in a snapshot. -/
structure TaskData where
  id : TaskId
  title : String
  requires : List Capability
  dependsOn : List TaskId
  priority : Int
  status : String
  assignedTo : Option NodeId
  createdAt : Time
  updatedAt : Time
  version : Int
  failReason : Option String
deriving DecidableEq, Repr

structure FullState where
  nodeId : NodeId
  syncVersion : Int
  timestamp : Int
  nodes : List NodeData
  tasks : List TaskData
deriving DecidableEq

/-- `Node(**node_data)`. -/
def NodeData.node (d : NodeData) : Except PyError Node := do
  let status ← NodeStatus.ofValue d.status
  return { id := d.id, name := d.name, capabilities := d.capabilities, status := status,
           lastHeartbeat := d.lastHeartbeat, load := d.load }

/-- `Task(**task_data)`. -/
def TaskData.task (d : TaskData) : Except PyError Task := do
  let status ← TaskStatus.ofValue d.status
  return { id := d.id, title := d.title, requires := d.requires, dependsOn := d.dependsOn,
           priority := d.priority, status := status, assignedTo := d.assignedTo,
           createdAt := d.createdAt, updatedAt := d.updatedAt, version := d.version,
           failReason := d.failReason }

/-- What `receive_full_state` returns. -/
structure MergeResult where
  nodesApplied : Nat
  nodesRejected : Nat
  tasksApplied : Nat
  tasksRejected : Nat
deriving DecidableEq, Repr

structure SyncReceiver where
  store : ClusterStore := {}
  nodeId : NodeId := "node_main"
  stats : SyncStats := {}
deriving DecidableEq

namespace SyncReceiver

/-! ### Messages -/

def receiveSingle (r : SyncReceiver) (now : Time) (msg : SyncMessage) :
    Except PyError SyncResult × SyncReceiver :=
  let r := { r with stats.received := r.stats.received + 1 }
  let localVersion := r.store.syncVersion
  if msg.version ≤ localVersion then
    (.ok (.staleVersion msg.version localVersion),
      { r with stats.rejectedStale := r.stats.rejectedStale + 1 })
  else match r.store.handleSyncMessage now msg with
    | .ok (true, store) =>
      (.ok (.applied msg.version msg.eventType),
        { r with store := store, stats.applied := r.stats.applied + 1 })
    | .ok (false, store) =>
      (.ok (.storeRejected msg.version),
        { r with store := store, stats.rejectedStale := r.stats.rejectedStale + 1 })
    | .error e => (.error e, r)

/-- The calls of `receive_single` a batch makes: one for each message, until one raises. -/
def receiveCalls (r : SyncReceiver) (now : Time) :
    List SyncMessage → List (Except PyError SyncResult) × SyncReceiver
  | [] => ([], r)
  | msg :: rest =>
    match r.receiveSingle now msg with
    | (.ok result, r) =>
      let (results, r) := receiveCalls r now rest
      (.ok result :: results, r)
    | (.error e, r) => ([.error e], r)

/-- `receive_batch`; every message of a batch that does not raise is counted as received
once more at its end. -/
def receiveBatch (r : SyncReceiver) (now : Time) (messages : List SyncMessage) :
    Except PyError BatchResult × SyncReceiver :=
  let (results, r) := r.receiveCalls now messages
  match results.mapM id with
  | .ok details =>
    (.ok { accepted := details.countP (·.isApplied)
           rejected := details.countP (fun result => !result.isApplied)
           total := messages.length
           details := details },
      { r with stats.received := r.stats.received + messages.length })
  | .error e => (.error e, r)

/-! ### Snapshots -/

/-- The merge of one node: whether it is applied, and the store. -/
def mergeNode (s : ClusterStore) (d : NodeData) : Bool × ClusterStore :=
  match d.node with
  | .error _ => (false, s)
  | .ok node =>
    match s.getNode node.id with
    | .error _ => (false, s)
    | .ok none => (true, s.registerNode node)
    | .ok (some existing) =>
      -- the load stands in for a version
      if existing.load.le node.load then (true, s.registerNode node) else (false, s)

/-- The merge of one task; whatever raises counts as rejected. -/
def mergeTask (s : ClusterStore) (now : Time) (d : TaskData) : Bool × ClusterStore :=
  match d.task with
  | .error _ => (false, s)
  | .ok task =>
    match s.getTask task.id with
    | .error _ => (false, s)
    | .ok none =>
      match s.createTask now task.id task.title task.requires task.priority with
      | .error _ => (false, s)
      | .ok s =>
        (true, if task.status = .pending then s else s.setTaskStatus now task.id task.status)
    | .ok (some existing) =>
      if existing.version < task.version then
        (true, s.setTaskStatus now task.id task.status (task.failReason.getD ""))
      else (false, s)

/-- Merge one entity, counting those applied and those rejected. -/
def mergeOne {δ : Type} (merge : ClusterStore → δ → Bool × ClusterStore)
    (acc : Nat × Nat × ClusterStore) (d : δ) : Nat × Nat × ClusterStore :=
  match merge acc.2.2 d with
  | (true, s) => (acc.1 + 1, acc.2.1, s)
  | (false, s) => (acc.1, acc.2.1 + 1, s)

/-- One of the two loops of `receive_full_state`. -/
def mergeAll {δ : Type} (merge : ClusterStore → δ → Bool × ClusterStore) (s : ClusterStore)
    (entities : List δ) : Nat × Nat × ClusterStore :=
  entities.foldl (mergeOne merge) (0, 0, s)

def receiveFullState (r : SyncReceiver) (now : Time) (stateData : FullState) :
    MergeResult × SyncReceiver :=
  let (nodesApplied, nodesRejected, s) := mergeAll mergeNode r.store stateData.nodes
  let (tasksApplied, tasksRejected, s) :=
    mergeAll (fun s d => mergeTask s now d) s stateData.tasks
  ({ nodesApplied := nodesApplied, nodesRejected := nodesRejected
     tasksApplied := tasksApplied, tasksRejected := tasksRejected }, { r with store := s })

end SyncReceiver

end HermesCluster
