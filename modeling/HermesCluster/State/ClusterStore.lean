import HermesCluster.Lease.LeaseManager

/-!
# `ClusterStore`, the SQLite store

The tables and methods of `hermes_cluster/state/cluster_store.py`.  A table is
its rows in rowid order, with the primary key unique.

* A task row keeps the status as the text in its column: `handle_sync_message`
  writes whatever text a peer sent, and `_row_to_task` raises on a text that is
  not a `TaskStatus`.
* The JSON columns hold lists of strings and the time columns ISO texts; both are
  modelled by the values they encode.
* SQLite's integers have 64 bits: binding any other `int` raises
  `OverflowError`, and `_tx` rolls the whole transaction back.  A sum in SQL that leaves
  them is a REAL, which no `int` field of a record accepts.
* SQLite stores NaN as NULL, which the `float` field of a `Node` does not accept.

Each method is one transaction.  The limit SQLite puts on the number of bound
parameters is not modelled.
-/

namespace HermesCluster

/-- A row of `tasks`. -/
structure TaskRow where
  id : TaskId
  title : String
  requires : List Capability := []
  dependsOn : List TaskId := []
  priority : Int := 3
  status : String := "pending"
  assignedTo : Option NodeId := none
  createdAt : Time
  updatedAt : Time
  version : Int := 0
  failReason : Option String := none
deriving DecidableEq, Repr

instance : Keyed TaskRow TaskId := ⟨TaskRow.id⟩

@[simp] theorem key_taskRow (r : TaskRow) : Keyed.key r = r.id := rfl

structure ClusterStore where
  nodes : Table Node := Table.empty
  tasks : Table TaskRow := Table.empty
  leases : Table Lease := Table.empty
  leaseCallbackCalls : List (TaskId × NodeId) := []
  syncLog : List SyncMessage := []
  decisions : List SchedulingDecision := []
deriving DecidableEq

namespace ClusterStore

/-- Whether SQLite can bind the integer. -/
def fits64 (n : Int) : Bool := -9223372036854775808 ≤ n ∧ n ≤ 9223372036854775807

/-! ### Node registry -/

/-- `INSERT OR REPLACE INTO nodes`. -/
def registerNode (s : ClusterStore) (node : Node) : ClusterStore :=
  { s with nodes := s.nodes.replaceInto node }

/-- `_row_to_node`. -/
def rowToNode (row : Node) : Except PyError Node :=
  if row.load = .nan then .error (.valueError "load should be a valid number") else .ok row

def getNode (s : ClusterStore) (nodeId : NodeId) : Except PyError (Option Node) :=
  match s.nodes.get? nodeId with
  | none => .ok none
  | some row => (rowToNode row).map some

/-- `get_all_nodes` raises if any row does not decode. -/
def getAllNodes (s : ClusterStore) : Except PyError (List Node) := s.nodes.rows.mapM rowToNode

/-- The update of `update_heartbeat`. -/
def beaten (now : Time) (load : Load) (n : Node) : Node :=
  { n with lastHeartbeat := ⟨now, none⟩, status := .online, load := load }

def updateHeartbeat (s : ClusterStore) (now : Time) (nodeId : NodeId) (load : Load) :
    ClusterStore :=
  { s with nodes := s.nodes.modify nodeId (beaten now load) (fun _ => rfl) }

/-- The update of `update_capabilities`. -/
def withCapabilities (caps : List Capability) (n : Node) : Node := { n with capabilities := caps }

def updateCapabilities (s : ClusterStore) (nodeId : NodeId) (caps : List Capability) :
    ClusterStore :=
  { s with nodes := s.nodes.modify nodeId (withCapabilities caps) (fun _ => rfl) }

/-- The update of `set_node_status`. -/
def withNodeStatus (status : NodeStatus) (n : Node) : Node := { n with status := status }

def setNodeStatus (s : ClusterStore) (nodeId : NodeId) (status : NodeStatus) : ClusterStore :=
  { s with nodes := s.nodes.modify nodeId (withNodeStatus status) (fun _ => rfl) }

/-! ### Task store -/

/-- `_row_to_task`. -/
def rowToTask (row : TaskRow) : Except PyError Task := do
  let status ← TaskStatus.ofValue row.status
  if ¬ fits64 row.version then throw (.valueError "version should be a valid integer")
  return { id := row.id, title := row.title, requires := row.requires,
           dependsOn := row.dependsOn, priority := row.priority, status := status,
           assignedTo := row.assignedTo, createdAt := row.createdAt,
           updatedAt := row.updatedAt, version := row.version, failReason := row.failReason }

/-- The task of a row that decodes to the status. -/
def taskOf (row : TaskRow) (status : TaskStatus) : Task :=
  { id := row.id, title := row.title, requires := row.requires, dependsOn := row.dependsOn,
    priority := row.priority, status := status, assignedTo := row.assignedTo,
    createdAt := row.createdAt, updatedAt := row.updatedAt, version := row.version,
    failReason := row.failReason }

/-- Whether `_row_to_task` reads the row. -/
def decodes (row : TaskRow) : Bool :=
  (TaskStatus.ofValue row.status).isOk && fits64 row.version

theorem rowToTask_ok {row : TaskRow} {status : TaskStatus} (hs : row.status = status.value)
    (hv : fits64 row.version = true) : rowToTask row = .ok (taskOf row status) := by
  have hst : TaskStatus.ofValue row.status = .ok status := by rw [hs, TaskStatus.ofValue_value]
  simp only [rowToTask, hst, hv, not_true, if_false]
  rfl

theorem rowToTask_error {row : TaskRow} (h : decodes row = false) :
    ∃ e, rowToTask row = .error e := by
  rw [decodes] at h
  cases hst : TaskStatus.ofValue row.status with
  | error e => exact ⟨e, by simp only [rowToTask, hst]; rfl⟩
  | ok status =>
    rw [hst, Except.isOk, Except.toBool, Bool.true_and] at h
    refine ⟨.valueError "version should be a valid integer", ?_⟩
    simp only [rowToTask, hst, h, Bool.false_eq_true, not_false_eq_true, if_true]
    rfl

theorem decodes_iff {row : TaskRow} : decodes row = true ↔
    ∃ status : TaskStatus, row.status = status.value ∧ fits64 row.version = true := by
  rw [decodes, Bool.and_eq_true]
  refine ⟨?_, ?_⟩
  · rintro ⟨hst, hv⟩
    cases h : TaskStatus.ofValue row.status with
    | error e => rw [h] at hst; exact absurd hst Bool.false_ne_true
    | ok status => exact ⟨status, TaskStatus.eq_value_of_ofValue h, hv⟩
  · rintro ⟨status, hs, hv⟩
    exact ⟨by rw [hs, TaskStatus.ofValue_value]; rfl, hv⟩

/-- `create_task`: insert unless the id is taken, then promote the row if it is
pending.  Its dependency list is empty when it is new. -/
def createTask (s : ClusterStore) (now : Time) (taskId : TaskId) (title : String)
    (requires : List Capability) (priority : Int) : Except PyError ClusterStore :=
  if fits64 priority then
    .ok { s with
      tasks := (s.tasks.insertIgnore
        { id := taskId, title := title, requires := requires, dependsOn := [],
          priority := priority, status := TaskStatus.pending.value, createdAt := now,
          updatedAt := now, version := 1 }).modify taskId
        (fun r => if r.status = TaskStatus.pending.value then
          { r with status := TaskStatus.ready.value, updatedAt := now } else r)
        (fun r => by split <;> rfl) }
  else .error .overflowError

def getTask (s : ClusterStore) (taskId : TaskId) : Except PyError (Option Task) :=
  match s.tasks.get? taskId with
  | none => .ok none
  | some row => (rowToTask row).map some

/-- `get_all_tasks` raises if any row does not decode. -/
def getAllTasks (s : ClusterStore) : Except PyError (List Task) := s.tasks.rows.mapM rowToTask

/-- `version + 1` in SQL.  Above the largest integer it is the REAL 2^63, to which adding
one changes nothing. -/
def bumped (version : Int) : Int :=
  if version < 9223372036854775808 then version + 1 else version

/-- The update of `set_task_status`; an empty reason leaves the old one. -/
def withStatus (now : Time) (status : TaskStatus) (failReason : String) (r : TaskRow) : TaskRow :=
  { r with
    status := status.value
    updatedAt := now
    version := bumped r.version
    failReason := if failReason ≠ "" then some failReason else r.failReason }

def setTaskStatus (s : ClusterStore) (now : Time) (taskId : TaskId) (status : TaskStatus)
    (failReason : String := "") : ClusterStore :=
  { s with tasks := s.tasks.modify taskId (withStatus now status failReason) (fun _ => rfl) }

/-- The update of `unassign_task`: no assignee, ready again. -/
def unassigned (now : Time) (r : TaskRow) : TaskRow :=
  { r with assignedTo := none, status := TaskStatus.ready.value, updatedAt := now,
           version := bumped r.version }

def unassignTask (s : ClusterStore) (now : Time) (taskId : TaskId) : ClusterStore :=
  { s with tasks := s.tasks.modify taskId (unassigned now) (fun _ => rfl) }

/-- The update of `unblock_task`: only a blocked row changes. -/
def unblocked (now : Time) (r : TaskRow) : TaskRow :=
  if r.status = TaskStatus.blocked.value then
    { r with status := TaskStatus.pending.value, updatedAt := now, version := bumped r.version }
  else r

theorem key_unblocked (now : Time) (r : TaskRow) :
    Keyed.key (unblocked now r) = Keyed.key r := by
  unfold unblocked; split <;> rfl

/-- `unblock_task`: whether a blocked row was there, and the store after. -/
def unblockTask (s : ClusterStore) (now : Time) (taskId : TaskId) : Bool × ClusterStore :=
  ((s.tasks.get? taskId).any (·.status = TaskStatus.blocked.value),
    { s with tasks := s.tasks.modify taskId (unblocked now) (key_unblocked now) })

/-- The updates of `set_dependencies`: a ready row with new dependencies is pending. -/
def withDependencies (now : Time) (dependsOn : List TaskId) (r : TaskRow) : TaskRow :=
  { r with
    dependsOn := dependsOn, updatedAt := now, version := bumped r.version
    status := if dependsOn ≠ [] ∧ r.status = TaskStatus.ready.value then TaskStatus.pending.value
      else r.status }

def setDependencies (s : ClusterStore) (now : Time) (taskId : TaskId)
    (dependsOn : List TaskId) : ClusterStore :=
  { s with tasks := s.tasks.modify taskId (withDependencies now dependsOn) (fun _ => rfl) }

def getDependents (s : ClusterStore) (taskId : TaskId) : List TaskId :=
  (s.tasks.rows.filter (fun r => taskId ∈ r.dependsOn)).map TaskRow.id

/-! ### Lease manager -/

/-- `create_lease`; a second row with the same id violates the primary key. -/
def createLease (s : ClusterStore) (now : Time) (token : String) (taskId : TaskId)
    (nodeId : NodeId) (ttl : Duration) : Except PyError (Lease × ClusterStore) := do
  let expiresAt ← addTtl now ttl
  let lease : Lease :=
    { id := generateId "lease" token, taskId := taskId, nodeId := nodeId,
      createdAt := now, expiresAt := expiresAt, status := .active }
  if s.leases.get? lease.id = none then
    return (lease, { s with leases := s.leases.put lease })
  else throw .integrityError

def revokeLease (s : ClusterStore) (leaseId : LeaseId) : Bool × ClusterStore :=
  ((s.leases.get? leaseId).isSome, { s with
    leases := s.leases.modify leaseId Lease.revoked Lease.key_revoked })

/-- `get_active_leases`: the callbacks run first, then the leases that have run
out are marked expired in a second transaction. -/
def getActiveLeases (s : ClusterStore) (now : Time) : List Lease × ClusterStore :=
  (s.leases.rows.filter (·.live now), { s with
    leases := s.leases.mapRows (Lease.aged now) (fun l => l.aged_id now)
    leaseCallbackCalls := s.leaseCallbackCalls ++
      (s.leases.rows.filter (·.lapsed now)).map (fun l => (l.taskId, l.nodeId)) })

def getLeaseByTask (s : ClusterStore) (taskId : TaskId) : Option Lease :=
  if taskId = "" then none
  else s.leases.rows.find? (fun l => l.taskId = taskId ∧ l.status = .active)

instance : LeaseStore ClusterStore where
  leases := ClusterStore.leases
  leaseCallbackCalls := ClusterStore.leaseCallbackCalls
  createLease := ClusterStore.createLease
  revokeLease := ClusterStore.revokeLease
  getActiveLeases := ClusterStore.getActiveLeases
  getLeaseByTask := ClusterStore.getLeaseByTask

/-! ### Sync state -/

/-- `sync_version`: the largest version in the log, 0 when the log is empty. -/
def syncVersion (s : ClusterStore) : Int :=
  match (s.syncLog.map SyncMessage.version).max? with
  | some v => v
  | none => 0

/-- What a task state writes over the row of its task. -/
def synced (now : Time) (ts : TaskSync) (r : TaskRow) : TaskRow :=
  { r with status := ts.status, assignedTo := ts.assignedTo, version := ts.version,
           updatedAt := now }

/-- The row a task state inserts when its task is not there. -/
def syncedNew (now : Time) (ts : TaskSync) : TaskRow :=
  { id := ts.taskId, title := ts.title, status := ts.status, assignedTo := ts.assignedTo,
    version := ts.version, createdAt := now, updatedAt := now }

def applyTaskState (s : ClusterStore) (now : Time) (ts : TaskSync) : ClusterStore :=
  match s.tasks.get? ts.taskId with
  | some _ => { s with tasks := s.tasks.modify ts.taskId (synced now ts) (fun _ => rfl) }
  | none => { s with tasks := s.tasks.put (syncedNew now ts) }

/-- Whether SQLite can store every integer of the message. -/
def storable (msg : SyncMessage) : Bool :=
  fits64 msg.version && fits64 msg.timestamp &&
    msg.taskState.all (fun ts => fits64 ts.version)

/-- `handle_sync_message`: a message not above the sync version is refused;
another is logged and its task state written, in one transaction. -/
def handleSyncMessage (s : ClusterStore) (now : Time) (msg : SyncMessage) :
    Except PyError (Bool × ClusterStore) :=
  if msg.version ≤ s.syncVersion then .ok (false, s)
  else if storable msg then
    let logged := { s with syncLog := s.syncLog ++ [msg] }
    .ok (true, match msg.taskState with
      | some ts => logged.applyTaskState now ts
      | none => logged)
  else .error .overflowError

/-- `handle_batch_sync`: how many messages were applied, or what the first message that
raises raises; the messages before it stay applied. -/
def handleBatchSync (s : ClusterStore) (now : Time) :
    List SyncMessage → Except PyError Nat × ClusterStore
  | [] => (.ok 0, s)
  | msg :: messages =>
    match s.handleSyncMessage now msg with
    | .error e => (.error e, s)
    | .ok (applied, s) =>
      let (count, s) := s.handleBatchSync now messages
      (count.map (· + if applied then 1 else 0), s)

/-! ### Scheduling -/

/-- `record_decision`: append, then keep the last 200. -/
def recordDecision (s : ClusterStore) (decision : SchedulingDecision) : ClusterStore :=
  let decisions := s.decisions ++ [decision]
  { s with decisions :=
      if decisions.length > ClusterState.maxDecisions then
        decisions.drop (decisions.length - ClusterState.maxDecisions)
      else decisions }

/-- The test of `trigger_pending_tasks`: every dependency has a row with the text
`completed`. -/
def allDone (s : ClusterStore) (dependsOn : List TaskId) : Bool :=
  dependsOn.all fun depId =>
    match s.tasks.get? depId with
    | some dep => dep.status = TaskStatus.completed.value
    | none => false

/-- The update of a promotion; the source does not touch the version here. -/
def madeReady (now : Time) (r : TaskRow) : TaskRow :=
  if r.status = TaskStatus.pending.value then
    { r with status := TaskStatus.ready.value, updatedAt := now }
  else r

theorem key_madeReady (now : Time) (r : TaskRow) :
    Keyed.key (madeReady now r) = Keyed.key r := by
  unfold madeReady; split <;> rfl

def promote (s : ClusterStore) (now : Time) (taskId : TaskId) : ClusterStore :=
  { s with tasks := s.tasks.modify taskId (madeReady now) (key_madeReady now) }

/-- The body of the loop of `trigger_pending_tasks`. -/
def triggerOne (now : Time) (acc : Nat × ClusterStore) (row : TaskRow) : Nat × ClusterStore :=
  if row.dependsOn = [] then (acc.1 + 1, acc.2.promote now row.id)
  else if acc.2.allDone row.dependsOn then (acc.1 + 1, acc.2.promote now row.id)
  else acc

/-- `trigger_pending_tasks`: how many rows were promoted, and the store after. -/
def triggerPendingTasks (s : ClusterStore) (now : Time) : Nat × ClusterStore :=
  (s.tasks.rows.filter (·.status = TaskStatus.pending.value)).foldl (triggerOne now) (0, s)

/-- The rows of the online nodes. -/
def onlineRows (s : ClusterStore) : List Node := s.nodes.rows.filter (·.status = .online)

/-- `ORDER BY priority, created_at`. -/
def scheduledBefore (a b : TaskRow) : Prop :=
  a.priority < b.priority ∨ (a.priority = b.priority ∧ a.createdAt ≤ b.createdAt)

instance : DecidableRel scheduledBefore := fun a b => by
  unfold scheduledBefore; infer_instance

/-- The ready rows in the order they are scheduled. -/
def readyRows (s : ClusterStore) : List TaskRow :=
  (s.tasks.rows.filter (·.status = TaskStatus.ready.value)).insertionSort scheduledBefore

/-- The update that assigns a row to a node. -/
def assignedOn (now : Time) (nodeId : NodeId) (r : TaskRow) : TaskRow :=
  { r with status := TaskStatus.running.value, assignedTo := some nodeId, updatedAt := now,
           version := bumped r.version }

def assignTask (s : ClusterStore) (now : Time) (taskId : TaskId) (nodeId : NodeId) :
    ClusterStore :=
  { s with tasks := s.tasks.modify taskId (assignedOn now nodeId) (fun _ => rfl) }

/-- The body of the loop of `schedule_pending` over the ready tasks. -/
def scheduleOne (online : List Node) (now : Time) (acc : Nat × ClusterStore) (task : Task) :
    Nat × ClusterStore :=
  match online.find? (ClusterState.fits task.requires) with
  | some node =>
    (acc.1 + 1, (acc.2.assignTask now task.id node.id).recordDecision
      { taskId := task.id, taskTitle := task.title, priority := task.priority,
        nodeId := node.id, score := 1, reason := "capability_match", timestamp := now })
  | none => acc

/-- `schedule_pending`, one transaction: it raises when the row of an online node, or with
an online node the row of a ready task, does not decode. -/
def schedulePending (s : ClusterStore) (now : Time) : Except PyError (Nat × ClusterStore) := do
  let online ← s.onlineRows.mapM rowToNode
  if online = [] then return (0, s)
  let ready ← s.readyRows.mapM rowToTask
  return ready.foldl (scheduleOne online now) (0, s)

end ClusterStore

end HermesCluster
