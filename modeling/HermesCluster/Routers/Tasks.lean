import HermesCluster.Lease.LeaseManager

/-!
# The task router

The handlers of `hermes_cluster/routers/tasks.py` that write, and the trigger
endpoint of `hermes_cluster/routers/schedule.py`, over the store and the lease
manager `create_app` gives them.  A handler returns its response or what it
raises, and the router afterwards: what a handler wrote before it raised stays.

`TaskRouter.handle` is one request at a clock reading.
-/

namespace HermesCluster

structure TaskRouter where
  state : ClusterState := {}
  leaseManager : Option LeaseManager := none
deriving DecidableEq

/-- An entry of `assignments` in the answer of the trigger endpoint. -/
structure Assignment where
  taskId : TaskId
  taskTitle : String
  nodeId : NodeId
  priority : Int
deriving DecidableEq, Repr

inductive Response
  | task (task : Option Task)
  | status (status : String)
  | failed (blocked : List TaskId)
  | claimed (task : Option Task)
  | triggered (promoted scheduled : Nat) (assignments : List Assignment)
deriving DecidableEq, Repr

namespace TaskRouter

abbrev Result := Except PyError Response × TaskRouter

/-- The router `create_app` sets up, once the nodes have registered. -/
def initWith (nodes : Table Node) : TaskRouter :=
  { state := { nodes := nodes }, leaseManager := some {} }

/-- A single online node without capabilities. -/
def oneNode : Table Node :=
  Table.empty.put { id := "n1", name := "worker", lastHeartbeat := ⟨0, none⟩ }

/-- The router `create_app` sets up. -/
def init : TaskRouter := initWith Table.empty

def taskNotFound : PyError := .httpException 404 "task not found"

def submitTask (r : TaskRouter) (now : Time) (token title : String)
    (requires : List Capability) (priority : Int) : Result :=
  let taskId := generateId "task" token
  let priority := if priority > 0 then priority else 3
  let state := ((r.state.createTask now taskId title requires priority).triggerPendingTasks now).2
  -- the task returned is the stored object, promoted by now
  (.ok (.task (state.getTask taskId)), { r with state := state })

/-- The lease step that `complete_task` and `release_task` share. -/
def revokeLeaseOf (r : TaskRouter) (taskId : TaskId) : TaskRouter :=
  match r.leaseManager with
  | none => r
  | some manager =>
    match manager.getByTask r.state taskId with
    | none => r
    | some lease =>
      let (_, manager, state) := manager.revoke r.state lease.id
      { state := state, leaseManager := some manager }

/-- The body of the loop of `_trigger_downstream`. -/
def triggerDependent (now : Time) (s : ClusterState) (depId : TaskId) : ClusterState :=
  match s.getTask depId with
  | none => s
  | some depTask =>
    if depTask.status ≠ .pending then s
    else if s.allDone depTask.dependsOn then s.setTaskStatus now depId .ready
    else s

/-- `_trigger_downstream` -/
def triggerDownstream (s : ClusterState) (now : Time) (taskId : TaskId) : ClusterState :=
  (((s.getDependents taskId).foldl (triggerDependent now) s).schedulePending now).2

def completeTask (r : TaskRouter) (now : Time) (taskId : TaskId) : Result :=
  match r.state.getTask taskId with
  | none => (.error taskNotFound, r)
  | some _ =>
    let r := r.revokeLeaseOf taskId
    let state := r.state.setTaskStatus now taskId .completed
    (.ok (.status "completed"), { r with state := triggerDownstream state now taskId })

/-- The body of the loop of `fail_task`. -/
def blockDependent (now : Time) (s : ClusterState) (depId : TaskId) : ClusterState :=
  match s.getTask depId with
  | none => s
  | some depTask =>
    if depTask.status = .pending then s.setTaskStatus now depId .blocked else s

/-- `fail_task`; a request without a body has the reason `failed`. -/
def failTask (r : TaskRouter) (now : Time) (taskId : TaskId) (reason : Option String) : Result :=
  match r.state.getTask taskId with
  | none => (.error taskNotFound, r)
  | some _ =>
    let state := r.state.setTaskStatus now taskId .failed (reason.getD "failed")
    let blocked := state.getDependents taskId
    (.ok (.failed blocked), { r with state := blocked.foldl (blockDependent now) state })

def unblockTask (r : TaskRouter) (now : Time) (taskId : TaskId) : Result :=
  let (result, state) := r.state.unblockTask now taskId
  if result then (.ok (.status "unblocked"), { r with state := state })
  else (.error (.httpException 400 "task not in blocked state"), { r with state := state })

def manualAdvance (r : TaskRouter) (now : Time) (taskId : TaskId) : Result :=
  match r.state.getTask taskId with
  | none => (.error taskNotFound, r)
  | some task =>
    if task.dependsOn ≠ [] ∧ ¬ r.state.allDone task.dependsOn then
      (.error (.httpException 400 "dependencies not met"), r)
    else
      let state := r.state.setTaskStatus now taskId .ready
      (.ok (.status "advanced"), { r with state := (state.schedulePending now).2 })

def setDependencies (r : TaskRouter) (now : Time) (taskId : TaskId)
    (dependsOn : List TaskId) : Result :=
  match r.state.getTask taskId with
  | none => (.error taskNotFound, r)
  | some _ =>
    let state := r.state.setDependencies now taskId dependsOn
    (.ok (.task (state.getTask taskId)), { r with state := state })

/-- What `claim_task` writes into the task object after its status. -/
def claimedBy (now : Time) (nodeId : NodeId) (t : Task) : Task :=
  { t with assignedTo := some nodeId, updatedAt := now, version := t.version + 1 }

theorem key_claimedBy (now : Time) (nodeId : NodeId) (t : Task) :
    Keyed.key (claimedBy now nodeId t) = Keyed.key t := rfl

/-- `claim_task`; the lease comes last, and when it is refused the task is running
already. -/
def claimTask (r : TaskRouter) (now : Time) (token : String) (taskId : TaskId)
    (nodeId : NodeId) : Result :=
  match r.state.getTask taskId with
  | none => (.error taskNotFound, r)
  | some task =>
    if task.status ≠ .ready then
      (.error (.httpException 409
        ("task is not claimable (status=" ++ task.status.value ++ ")")), r)
    else if task.assignedTo ≠ none then
      (.error (.httpException 409 "task is already claimed"), r)
    else
      let state := r.state.setTaskStatus now taskId .running
      let state := { state with
        tasks := state.tasks.modify taskId (claimedBy now nodeId) (key_claimedBy now nodeId) }
      match r.leaseManager with
      | none => (.ok (.claimed (state.getTask taskId)), { r with state := state })
      | some manager =>
        match manager.create state now token taskId nodeId with
        | (.error e, manager, state) =>
          (.error e, { state := state, leaseManager := some manager })
        | (.ok _, manager, state) =>
          (.ok (.claimed (state.getTask taskId)),
            { state := state, leaseManager := some manager })

/-- What `release_task` writes into the task object after its status. -/
def releasedFor (now : Time) (reason : Option String) (t : Task) : Task :=
  { t with
    assignedTo := none
    updatedAt := now
    version := t.version + 1
    failReason := if reason.getD "" ≠ "" then reason else t.failReason }

theorem key_releasedFor (now : Time) (reason : Option String) (t : Task) :
    Keyed.key (releasedFor now reason t) = Keyed.key t := rfl

def releaseTask (r : TaskRouter) (now : Time) (taskId : TaskId) (nodeId : NodeId)
    (reason : Option String) : Result :=
  match r.state.getTask taskId with
  | none => (.error taskNotFound, r)
  | some task =>
    if task.assignedTo ≠ some nodeId then
      (.error (.httpException 403 "task is not assigned to this node"), r)
    else
      let r := r.revokeLeaseOf taskId
      let state := r.state.setTaskStatus now taskId .ready
      let state := { state with
        tasks := state.tasks.modify taskId (releasedFor now reason) (key_releasedFor now reason) }
      (.ok (.task (state.getTask taskId)), { r with state := state })

/-- The running tasks with an assignee; an empty node id is none. -/
def assignments (s : ClusterState) : List Assignment :=
  s.tasks.rows.filterMap fun t =>
    match t.status, t.assignedTo with
    | .running, some nodeId =>
      if nodeId ≠ "" then some ⟨t.id, t.title, nodeId, t.priority⟩ else none
    | _, _ => none

/-- `POST /schedule/trigger` -/
def scheduleTrigger (r : TaskRouter) (now : Time) : Result :=
  let (promoted, state) := r.state.triggerPendingTasks now
  let (scheduled, state) := state.schedulePending now
  (.ok (.triggered promoted scheduled (assignments state)), { r with state := state })

/-! ### Requests -/

inductive Request
  | submit (token title : String) (requires : List Capability) (priority : Int)
  | complete (taskId : TaskId)
  | fail (taskId : TaskId) (reason : Option String)
  | unblock (taskId : TaskId)
  | advance (taskId : TaskId)
  | dependencies (taskId : TaskId) (dependsOn : List TaskId)
  | claim (token : String) (taskId : TaskId) (nodeId : NodeId)
  | release (taskId : TaskId) (nodeId : NodeId) (reason : Option String)
  | trigger
deriving DecidableEq, Repr

/-- The answer to a request at a clock reading, and the router after it. -/
def handle (r : TaskRouter) (now : Time) : Request → Result
  | .submit token title requires priority => r.submitTask now token title requires priority
  | .complete taskId => r.completeTask now taskId
  | .fail taskId reason => r.failTask now taskId reason
  | .unblock taskId => r.unblockTask now taskId
  | .advance taskId => r.manualAdvance now taskId
  | .dependencies taskId dependsOn => r.setDependencies now taskId dependsOn
  | .claim token taskId nodeId => r.claimTask now token taskId nodeId
  | .release taskId nodeId reason => r.releaseTask now taskId nodeId reason
  | .trigger => r.scheduleTrigger now

/-- One step of a run of requests, each with the clock reading it is handled at. -/
def step (r : TaskRouter) (req : Time × Request) : TaskRouter := (r.handle req.1 req.2).2

end TaskRouter

end HermesCluster
