import HermesCluster.Models
import Mathlib.Data.List.Sort

/-!
# `ClusterState`, the in-memory store

The fields and methods of `hermes_cluster/state/__init__.py` under their own
names.  Each method takes the clock reading `now` that its calls of
`datetime.utcnow()` return, and the tokens of the ids it generates.  A method is
one step under the store's lock.

`leaseCallbackCalls` records the calls made to `_lease_callback`, oldest first:
`LeaseManager` installs that callback when it is constructed, and the callback
does not touch the store.

The federation, hook and config registries are left out, and so are the
node-online and capability callbacks, which `create_app` does not install.
-/

namespace HermesCluster

/-- An entry of `_task_lease_index`. -/
structure IndexEntry where
  taskId : TaskId
  leaseId : LeaseId
deriving DecidableEq, Repr

instance : Keyed IndexEntry TaskId := ⟨IndexEntry.taskId⟩

structure ClusterState where
  nodes : Table Node := Table.empty
  tasks : Table Task := Table.empty
  leases : Table Lease := Table.empty
  taskLeaseIndex : Table IndexEntry := Table.empty
  leaseCallbackCalls : List (TaskId × NodeId) := []
  recoveryEvents : List RecoveryEvent := []
  decisions : List SchedulingDecision := []
  syncVersion : Int := 0
deriving DecidableEq

namespace ClusterState

/-! ### Node registry -/

def registerNode (s : ClusterState) (node : Node) : ClusterState :=
  { s with nodes := s.nodes.put node }

def getNode (s : ClusterState) (nodeId : NodeId) : Option Node := s.nodes.get? nodeId

def updateHeartbeat (s : ClusterState) (now : Time) (nodeId : NodeId) (load : Load) :
    ClusterState :=
  { s with
    nodes := s.nodes.modify nodeId
      (fun n => { n with lastHeartbeat := ⟨now, none⟩, status := .online, load := load })
      (fun _ => rfl) }

def updateCapabilities (s : ClusterState) (nodeId : NodeId) (caps : List Capability) :
    ClusterState :=
  { s with
    nodes := s.nodes.modify nodeId (fun n => { n with capabilities := caps }) (fun _ => rfl) }

def setNodeStatus (s : ClusterState) (nodeId : NodeId) (status : NodeStatus) : ClusterState :=
  { s with
    nodes := s.nodes.modify nodeId (fun n => { n with status := status }) (fun _ => rfl) }

/-! ### Task store -/

/-- The task `create_task` stores. -/
def newTask (now : Time) (taskId : TaskId) (title : String) (requires : List Capability)
    (priority : Int) : Task :=
  { id := taskId, title := title, requires := requires, priority := priority,
    status := .pending, createdAt := now, updatedAt := now, version := 1 }

def createTask (s : ClusterState) (now : Time) (taskId : TaskId) (title : String)
    (requires : List Capability) (priority : Int) : ClusterState :=
  { s with tasks := s.tasks.put (newTask now taskId title requires priority) }

def getTask (s : ClusterState) (taskId : TaskId) : Option Task := s.tasks.get? taskId

/-- The update `set_task_status` makes; an empty reason leaves the old one. -/
def withStatus (now : Time) (status : TaskStatus) (failReason : String) (t : Task) : Task :=
  { t with
    status := status
    updatedAt := now
    version := t.version + 1
    failReason := if failReason ≠ "" then some failReason else t.failReason }

/-- `set_task_status`; the source also returns whether the task exists. -/
def setTaskStatus (s : ClusterState) (now : Time) (taskId : TaskId) (status : TaskStatus)
    (failReason : String := "") : ClusterState :=
  { s with tasks := s.tasks.modify taskId (withStatus now status failReason) (fun _ => rfl) }

/-- The update of `unassign_task`: no assignee, ready again. -/
def unassigned (now : Time) (t : Task) : Task :=
  { t with assignedTo := none, status := .ready, updatedAt := now, version := t.version + 1 }

def unassignTask (s : ClusterState) (now : Time) (taskId : TaskId) : ClusterState :=
  { s with tasks := s.tasks.modify taskId (unassigned now) (fun _ => rfl) }

/-- The update of `unblock_task`: pending again. -/
def unblocked (now : Time) (t : Task) : Task :=
  { t with status := .pending, updatedAt := now, version := t.version + 1 }

/-- `unblock_task`: only a blocked task changes. -/
def unblockTask (s : ClusterState) (now : Time) (taskId : TaskId) : Bool × ClusterState :=
  match s.tasks.get? taskId with
  | none => (false, s)
  | some task =>
    if task.status = .blocked then
      (true, { s with tasks := s.tasks.modify taskId (unblocked now) (fun _ => rfl) })
    else (false, s)

/-- The update of `set_dependencies`; the status stays. -/
def withDependencies (now : Time) (dependsOn : List TaskId) (t : Task) : Task :=
  { t with dependsOn := dependsOn, updatedAt := now, version := t.version + 1 }

def setDependencies (s : ClusterState) (now : Time) (taskId : TaskId)
    (dependsOn : List TaskId) : ClusterState :=
  { s with tasks := s.tasks.modify taskId (withDependencies now dependsOn) (fun _ => rfl) }

/-- `get_dependents`: the ids of the tasks that name `taskId` in `depends_on`. -/
def getDependents (s : ClusterState) (taskId : TaskId) : List TaskId :=
  (s.tasks.rows.filter (fun t => taskId ∈ t.dependsOn)).map Task.id

/-! ### Lease manager -/

def createLease (s : ClusterState) (now : Time) (token : String) (taskId : TaskId)
    (nodeId : NodeId) (ttl : Duration) : Except PyError (Lease × ClusterState) := do
  let expiresAt ← addTtl now ttl
  let lease : Lease :=
    { id := generateId "lease" token, taskId := taskId, nodeId := nodeId,
      createdAt := now, expiresAt := expiresAt, status := .active }
  return (lease, { s with
    leases := s.leases.put lease
    taskLeaseIndex := s.taskLeaseIndex.put ⟨taskId, lease.id⟩ })

/-- `revoke_lease`: whatever the lease's status, it becomes revoked, and the
index entry of its task goes, whichever lease the entry names. -/
def revokeLease (s : ClusterState) (leaseId : LeaseId) : Bool × ClusterState :=
  match s.leases.get? leaseId with
  | none => (false, s)
  | some lease => (true, { s with
      leases := s.leases.modify leaseId Lease.revoked Lease.key_revoked
      taskLeaseIndex := s.taskLeaseIndex.erase lease.taskId })

/-- `get_active_leases`: the live leases; the active ones that have run out are
marked expired, each with a call of the lease callback. -/
def getActiveLeases (s : ClusterState) (now : Time) : List Lease × ClusterState :=
  (s.leases.rows.filter (·.live now), { s with
    leases := s.leases.mapRows (Lease.aged now) (fun l => l.aged_id now)
    leaseCallbackCalls := s.leaseCallbackCalls ++
      (s.leases.rows.filter (·.lapsed now)).map (fun l => (l.taskId, l.nodeId)) })

/-- `get_lease_by_task`: by the index when it names an active lease, else the
first active lease of the task. -/
def getLeaseByTask (s : ClusterState) (taskId : TaskId) : Option Lease :=
  if taskId = "" then none else
  let indexed := ((s.taskLeaseIndex.get? taskId).bind fun e =>
    if e.leaseId ≠ "" then s.leases.get? e.leaseId else none).filter (·.status = .active)
  indexed.or (s.leases.rows.find? (fun l => l.taskId = taskId ∧ l.status = .active))

def getExpiredLeases (s : ClusterState) : List Lease :=
  s.leases.rows.filter (·.status = .expired)

/-! ### Sync state -/

/-- What a task state makes of its task: a text that is no `TaskStatus` keeps the status,
and an absent or empty assignee keeps the assignee. -/
def synced (now : Time) (ts : TaskSync) (t : Task) : Task :=
  { t with
    status := match TaskStatus.ofValue ts.status with
      | .ok status => status
      | .error _ => t.status
    assignedTo := if ts.assignedTo.getD "" ≠ "" then ts.assignedTo else t.assignedTo
    version := ts.version
    updatedAt := now }

/-- The task a task state creates when its task is not there. -/
def syncedNew (now : Time) (ts : TaskSync) : Task :=
  { id := ts.taskId, title := ts.title
    status := match TaskStatus.ofValue ts.status with
      | .ok status => status
      | .error _ => .pending
    assignedTo := ts.assignedTo, version := ts.version, createdAt := now, updatedAt := now }

def applyTaskState (s : ClusterState) (now : Time) (ts : TaskSync) : ClusterState :=
  match s.tasks.get? ts.taskId with
  | some _ => { s with tasks := s.tasks.modify ts.taskId (synced now ts) (fun _ => rfl) }
  | none => { s with tasks := s.tasks.put (syncedNew now ts) }

/-- `handle_sync_message` -/
def handleSyncMessage (s : ClusterState) (now : Time) (msg : SyncMessage) :
    Bool × ClusterState :=
  if msg.version ≤ s.syncVersion then (false, s)
  else
    let s := { s with syncVersion := msg.version }
    (true, match msg.taskState with
      | some ts => s.applyTaskState now ts
      | none => s)

/-- `handle_batch_sync`: how many messages were applied. -/
def handleBatchSync (s : ClusterState) (now : Time) : List SyncMessage → Nat × ClusterState
  | [] => (0, s)
  | msg :: messages =>
    let (applied, s) := s.handleSyncMessage now msg
    let (count, s) := s.handleBatchSync now messages
    (count + if applied then 1 else 0, s)

/-! ### Recovery log -/

/-- `append_recovery_event` stamps the event with the clock. -/
def appendRecoveryEvent (s : ClusterState) (now : Time) (event : RecoveryEvent) :
    ClusterState :=
  { s with recoveryEvents := s.recoveryEvents ++ [{ event with timestamp := now }] }

/-! ### Scheduling -/

/-- `_max_decisions`. -/
def maxDecisions : Nat := 200

/-- `record_decision`: append, then keep the last 200. -/
def recordDecision (s : ClusterState) (decision : SchedulingDecision) : ClusterState :=
  let decisions := s.decisions ++ [decision]
  { s with decisions :=
      if decisions.length > maxDecisions then decisions.drop (decisions.length - maxDecisions)
      else decisions }

/-- The test `trigger_pending_tasks`, `manual_advance` and `_trigger_downstream`
share: every dependency is an existing task that is completed. -/
def allDone (s : ClusterState) (dependsOn : List TaskId) : Bool :=
  dependsOn.all fun depId =>
    match s.tasks.get? depId with
    | some dep => dep.status = .completed
    | none => false

/-- The update of a promotion; the source does not touch the version here. -/
def madeReady (now : Time) (t : Task) : Task := { t with status := .ready, updatedAt := now }

def promote (s : ClusterState) (now : Time) (taskId : TaskId) : ClusterState :=
  { s with tasks := s.tasks.modify taskId (madeReady now) (fun _ => rfl) }

/-- The body of the loop of `trigger_pending_tasks`. -/
def triggerOne (now : Time) (acc : Nat × ClusterState) (task : Task) : Nat × ClusterState :=
  if task.status ≠ .pending then acc
  else if task.dependsOn = [] then (acc.1 + 1, acc.2.promote now task.id)
  else if acc.2.allDone task.dependsOn then (acc.1 + 1, acc.2.promote now task.id)
  else acc

/-- `trigger_pending_tasks`: how many tasks were promoted, and the store after. -/
def triggerPendingTasks (s : ClusterState) (now : Time) : Nat × ClusterState :=
  s.tasks.rows.foldl (triggerOne now) (0, s)

/-- `not task.requires or all(cap in node.capabilities for cap in task.requires)`. -/
def fits (requires : List Capability) (node : Node) : Bool :=
  requires = [] || requires.all (· ∈ node.capabilities)

/-- The nodes `schedule_pending` may use. -/
def onlineNodes (s : ClusterState) : List Node := s.nodes.rows.filter (·.status = .online)

/-- The node the inner loop of `schedule_pending` stops at. -/
def firstFit (s : ClusterState) (requires : List Capability) : Option Node :=
  s.onlineNodes.find? (fits requires)

/-- The sort key `(priority, created_at)`. -/
def scheduledBefore (a b : Task) : Prop :=
  a.priority < b.priority ∨ (a.priority = b.priority ∧ a.createdAt ≤ b.createdAt)

instance : DecidableRel scheduledBefore := fun a b => by
  unfold scheduledBefore; infer_instance

/-- The ready tasks in the order they are scheduled; the sort is stable. -/
def readyTasks (s : ClusterState) : List Task :=
  (s.tasks.rows.filter (·.status = .ready)).insertionSort scheduledBefore

/-- The update that assigns a task to a node. -/
def assignedOn (now : Time) (nodeId : NodeId) (t : Task) : Task :=
  { t with
    status := .running, assignedTo := some nodeId, updatedAt := now, version := t.version + 1 }

def assignTask (s : ClusterState) (now : Time) (taskId : TaskId) (nodeId : NodeId) :
    ClusterState :=
  { s with tasks := s.tasks.modify taskId (assignedOn now nodeId) (fun _ => rfl) }

/-- The body of the loop of `schedule_pending` over the ready tasks. -/
def scheduleOne (online : List Node) (now : Time) (acc : Nat × ClusterState) (task : Task) :
    Nat × ClusterState :=
  match online.find? (fits task.requires) with
  | some node =>
    (acc.1 + 1, (acc.2.assignTask now task.id node.id).recordDecision
      { taskId := task.id, taskTitle := task.title, priority := task.priority,
        nodeId := node.id, score := 1, reason := "capability_match", timestamp := now })
  | none => acc

/-- `schedule_pending`: how many tasks were assigned, and the store after. -/
def schedulePending (s : ClusterState) (now : Time) : Nat × ClusterState :=
  if s.onlineNodes = [] then (0, s)
  else s.readyTasks.foldl (scheduleOne s.onlineNodes now) (0, s)

end ClusterState

end HermesCluster
