import HermesCluster.Sync.Receiver
import HermesCluster.Sync.SyncClient

/-!
# `SyncCoordinator`

The sending side of `hermes_cluster/sync/__init__.py`: the queue of messages, the delta
cycle that sends them to the peers, and the snapshot of the store.  The thread, its
intervals and the `on_sync_complete` callback, which only gets the summary, are left out.
-/

namespace HermesCluster

structure SyncCoordinator where
  store : ClusterStore := {}
  nodeId : NodeId := "node_main"
  peers : List Endpoint := []
  client : SyncClient := {}
  pendingMessages : List SyncMessage := []
deriving DecidableEq

/-- What happens to one call of `send_batch`: it raises before its first attempt, or its
attempts come to what is said. -/
inductive Send
  | raises
  | attempts (outcome : Nat → Attempt)

/-- What `_do_delta_sync` notes about a peer. -/
structure PeerReport where
  peer : Endpoint
  success : Bool
  messages : Option Nat := none
deriving DecidableEq, Repr

instance : Keyed PeerReport Endpoint := ⟨PeerReport.peer⟩

/-- What `_do_delta_sync` returns. -/
structure DeltaSummary where
  sentTo : Nat := 0
  messages : Nat := 0
  peers : Table PeerReport := Table.empty
deriving DecidableEq

namespace SyncCoordinator

def queueSyncMessage (c : SyncCoordinator) (msg : SyncMessage) : SyncCoordinator :=
  { c with pendingMessages := c.pendingMessages ++ [msg] }

/-- The message of `queue_task_event`, at a version one above that of the store. -/
def taskEvent (c : SyncCoordinator) (timestamp : Int) (taskId : TaskId) (title status : String)
    (eventType : SyncEventType) (assignedTo : Option NodeId) (version : Int) : SyncMessage :=
  { version := c.store.syncVersion + 1, senderNode := c.nodeId
    taskState := some { taskId := taskId, title := title, status := status,
                        assignedTo := assignedTo, version := version }
    eventType := eventType, timestamp := timestamp }

def queueTaskEvent (c : SyncCoordinator) (timestamp : Int) (taskId : TaskId)
    (title status : String) (eventType : SyncEventType) (assignedTo : Option NodeId := none)
    (version : Int := 1) : SyncCoordinator :=
  c.queueSyncMessage (c.taskEvent timestamp taskId title status eventType assignedTo version)

/-- The first step of `_do_delta_sync`: take what is pending. -/
def drain (c : SyncCoordinator) : List SyncMessage × SyncCoordinator :=
  (c.pendingMessages, { c with pendingMessages := [] })

/-- The loop over the peers: the report of each send, in order, and the client after;
`sends i` is what happens to the send to the `i`-th peer. -/
def sendAll (messages : Nat) : List Endpoint → (Nat → Send) → SyncClient →
    List PeerReport × SyncClient
  | [], _, client => ([], client)
  | peer :: peers, sends, client =>
    match sends 0 with
    | .raises =>
      let (reports, client) := sendAll messages peers (fun i => sends (i + 1)) client
      ({ peer := peer, success := false } :: reports, client)
    | .attempts outcome =>
      let (ok, client) := client.sendBatch outcome
      let (reports, client) := sendAll messages peers (fun i => sends (i + 1)) client
      ({ peer := peer, success := ok, messages := some messages } :: reports, client)

/-- The summary of a cycle; a peer that is listed twice has the report of its last send. -/
def summary (messages : Nat) (reports : List PeerReport) : DeltaSummary :=
  let results := reports.foldl Table.put Table.empty
  { sentTo := results.rows.countP (·.success), messages := messages, peers := results }

/-- `_do_delta_sync` -/
def doDeltaSync (c : SyncCoordinator) (sends : Nat → Send) : DeltaSummary × SyncCoordinator :=
  let (messages, c) := c.drain
  if messages = [] then ({}, c)
  else
    let (reports, client) := sendAll messages.length c.peers sends c.client
    (summary messages.length reports, { c with client := client })

/-- The dictionary of a node. -/
def nodeData (n : Node) : NodeData :=
  { id := n.id, name := n.name, capabilities := n.capabilities, status := n.status.value,
    lastHeartbeat := n.lastHeartbeat, load := n.load }

/-- The dictionary of a task. -/
def taskData (t : Task) : TaskData :=
  { id := t.id, title := t.title, requires := t.requires, dependsOn := t.dependsOn,
    priority := t.priority, status := t.status.value, assignedTo := t.assignedTo,
    createdAt := t.createdAt, updatedAt := t.updatedAt, version := t.version,
    failReason := t.failReason }

/-- `_build_full_state`, which raises when `get_all_nodes` or `get_all_tasks` does. -/
def buildFullState (c : SyncCoordinator) (timestamp : Int) : Except PyError FullState := do
  let nodes ← c.store.getAllNodes
  let tasks ← c.store.getAllTasks
  return { nodeId := c.nodeId, syncVersion := c.store.syncVersion, timestamp := timestamp,
           nodes := nodes.map nodeData, tasks := tasks.map taskData }

end SyncCoordinator

end HermesCluster
