import HermesCluster.Lib.Raise
import HermesCluster.Routers.Tasks
import HermesCluster.State.ClusterStore

/-!
# The task router over a `ClusterStore`

The same handlers as in `Routers/Tasks.lean`, run on the SQLite store.  Reading a task may
raise here, so a handler is a `Raise` computation: what it wrote before an exception stays.

`claim_task` and `release_task` write the task object under `_state._tasks_lock`.  A
`ClusterStore` has no such attribute, and the handler ends there.

`handleApi` puts the task requests together with those of `routers/leases.py` and
`routers/sync.py`, for both stores.
-/

namespace HermesCluster

structure StoreRouter where
  state : ClusterStore := {}
  leaseManager : Option LeaseManager := none
deriving DecidableEq

namespace StoreRouter

abbrev Handler (α : Type) : Type := Raise StoreRouter PyError α

/-! ### Calls of the store -/

def getTask (taskId : TaskId) : Handler (Option Task) :=
  Raise.read fun r => r.state.getTask taskId

def getDependents (taskId : TaskId) : Handler (List TaskId) :=
  Raise.read fun r => .ok (r.state.getDependents taskId)

/-- A method that only writes, and does not raise. -/
def write (f : ClusterStore → ClusterStore) : Handler Unit :=
  Raise.update fun r => ((), { r with state := f r.state })

def setTaskStatus (now : Time) (taskId : TaskId) (status : TaskStatus)
    (failReason : String := "") : Handler Unit :=
  write fun s => s.setTaskStatus now taskId status failReason

/-- `create_task` returns the row it reads back. -/
def createTask (now : Time) (taskId : TaskId) (title : String) (requires : List Capability)
    (priority : Int) : Handler Task := do
  Raise.transact fun r =>
    (r.state.createTask now taskId title requires priority).map
      fun s => ((), { r with state := s })
  return (← getTask taskId).getD (ClusterState.newTask now taskId title requires priority)

def triggerPendingTasks (now : Time) : Handler Nat :=
  Raise.update fun r =>
    let (promoted, s) := r.state.triggerPendingTasks now
    (promoted, { r with state := s })

def schedulePending (now : Time) : Handler Nat :=
  Raise.transact fun r =>
    (r.state.schedulePending now).map fun (scheduled, s) => (scheduled, { r with state := s })

/-! ### Handlers -/

def submitTask (now : Time) (token title : String) (requires : List Capability)
    (priority : Int) : Handler Response := do
  let taskId := generateId "task" token
  let task ← createTask now taskId title requires (if priority > 0 then priority else 3)
  let _ ← triggerPendingTasks now
  return .task (some task)

/-- The lease step that `complete_task` and `release_task` share. -/
def revokeLeaseOf (r : StoreRouter) (taskId : TaskId) : StoreRouter :=
  match r.leaseManager with
  | none => r
  | some manager =>
    match manager.getByTask r.state taskId with
    | none => r
    | some lease =>
      let (_, manager, state) := manager.revoke r.state lease.id
      { state := state, leaseManager := some manager }

def revokeLease (taskId : TaskId) : Handler Unit :=
  Raise.update fun r => ((), r.revokeLeaseOf taskId)

/-- `all(..)` over the dependencies, which stops at the first that is not completed. -/
def allDone : List TaskId → Handler Bool
  | [] => return true
  | depId :: dependsOn => do
    match ← getTask depId with
    | none => return false
    | some dep => if dep.status = .completed then allDone dependsOn else return false

/-- The body of the loop of `_trigger_downstream`. -/
def triggerDependent (now : Time) (depId : TaskId) : Handler Unit := do
  match ← getTask depId with
  | none => return ()
  | some depTask =>
    if depTask.status ≠ .pending then return ()
    else if ← allDone depTask.dependsOn then setTaskStatus now depId .ready
    else return ()

/-- `_trigger_downstream` -/
def triggerDownstream (now : Time) (taskId : TaskId) : Handler Unit := do
  Raise.each (triggerDependent now) (← getDependents taskId)
  let _ ← schedulePending now

def completeTask (now : Time) (taskId : TaskId) : Handler Response := do
  match ← getTask taskId with
  | none => Raise.throw TaskRouter.taskNotFound
  | some _ =>
    revokeLease taskId
    setTaskStatus now taskId .completed
    triggerDownstream now taskId
    return .status "completed"

/-- The body of the loop of `fail_task`. -/
def blockDependent (now : Time) (depId : TaskId) : Handler Unit := do
  match ← getTask depId with
  | none => return ()
  | some depTask =>
    if depTask.status = .pending then setTaskStatus now depId .blocked else return ()

def failTask (now : Time) (taskId : TaskId) (reason : Option String) : Handler Response := do
  match ← getTask taskId with
  | none => Raise.throw TaskRouter.taskNotFound
  | some _ =>
    setTaskStatus now taskId .failed (reason.getD "failed")
    let blocked ← getDependents taskId
    Raise.each (blockDependent now) blocked
    return .failed blocked

def unblockTask (now : Time) (taskId : TaskId) : Handler Response := do
  let result ← Raise.update fun r =>
    let (result, s) := r.state.unblockTask now taskId
    (result, { r with state := s })
  if result then return .status "unblocked"
  else Raise.throw (.httpException 400 "task not in blocked state")

/-- The check of `manual_advance`, which a task without dependencies skips. -/
def dependenciesMet (dependsOn : List TaskId) : Handler Bool :=
  if dependsOn ≠ [] then allDone dependsOn else return true

def manualAdvance (now : Time) (taskId : TaskId) : Handler Response := do
  match ← getTask taskId with
  | none => Raise.throw TaskRouter.taskNotFound
  | some task =>
    if ← dependenciesMet task.dependsOn then
      setTaskStatus now taskId .ready
      let _ ← schedulePending now
      return .status "advanced"
    else Raise.throw (.httpException 400 "dependencies not met")

def setDependencies (now : Time) (taskId : TaskId) (dependsOn : List TaskId) :
    Handler Response := do
  match ← getTask taskId with
  | none => Raise.throw TaskRouter.taskNotFound
  | some _ =>
    write fun s => s.setDependencies now taskId dependsOn
    return .task (← getTask taskId)

/-- What `_state._tasks_lock` raises. -/
def noTasksLock : PyError := .attributeError "_tasks_lock"

def claimTask (now : Time) (taskId : TaskId) : Handler Response := do
  match ← getTask taskId with
  | none => Raise.throw TaskRouter.taskNotFound
  | some task =>
    if task.status ≠ .ready then
      Raise.throw (.httpException 409
        ("task is not claimable (status=" ++ task.status.value ++ ")"))
    else if task.assignedTo ≠ none then
      Raise.throw (.httpException 409 "task is already claimed")
    else
      setTaskStatus now taskId .running
      Raise.throw noTasksLock

def releaseTask (now : Time) (taskId : TaskId) (nodeId : NodeId) : Handler Response := do
  match ← getTask taskId with
  | none => Raise.throw TaskRouter.taskNotFound
  | some task =>
    if task.assignedTo ≠ some nodeId then
      Raise.throw (.httpException 403 "task is not assigned to this node")
    else
      revokeLease taskId
      setTaskStatus now taskId .ready
      Raise.throw noTasksLock

/-- The running tasks with an assignee; an empty node id is none. -/
def assignments (tasks : List Task) : List Assignment :=
  tasks.filterMap fun t =>
    match t.status, t.assignedTo with
    | .running, some nodeId =>
      if nodeId ≠ "" then some ⟨t.id, t.title, nodeId, t.priority⟩ else none
    | _, _ => none

/-- `POST /schedule/trigger` -/
def scheduleTrigger (now : Time) : Handler Response := do
  let promoted ← triggerPendingTasks now
  let scheduled ← schedulePending now
  let tasks ← Raise.read fun r => r.state.getAllTasks
  return .triggered promoted scheduled (assignments tasks)

/-- The handler of a task request at a clock reading. -/
def handle (now : Time) : TaskRouter.Request → Handler Response
  | .submit token title requires priority => submitTask now token title requires priority
  | .complete taskId => completeTask now taskId
  | .fail taskId reason => failTask now taskId reason
  | .unblock taskId => unblockTask now taskId
  | .advance taskId => manualAdvance now taskId
  | .dependencies taskId dependsOn => setDependencies now taskId dependsOn
  | .claim _ taskId _ => claimTask now taskId
  | .release taskId nodeId _ => releaseTask now taskId nodeId
  | .trigger => scheduleTrigger now

end StoreRouter

/-! ### The API of both stores -/

inductive ApiRequest
  | task (request : TaskRouter.Request)
  | createLease (token : String) (taskId : TaskId) (nodeId : NodeId) (ttlSeconds : Int)
  | revokeLease (leaseId : LeaseId)
  | syncReceive (msg : SyncMessage)
deriving DecidableEq, Repr

inductive ApiResponse
  | task (response : Response)
  | lease (lease : Lease)
  | revoked
  | applied (applied : Bool)
deriving DecidableEq, Repr

def leaseNotFound : PyError := .httpException 404 "lease not found"

/-- The answer over a `ClusterState`, and the router after it. -/
def TaskRouter.handleApi (r : TaskRouter) (now : Time) :
    ApiRequest → Except PyError ApiResponse × TaskRouter
  | .task request => ((r.handle now request).1.map .task, (r.handle now request).2)
  | .createLease token taskId nodeId ttlSeconds =>
    match r.state.createLease now token taskId nodeId (seconds ttlSeconds) with
    | .error e => (.error e, r)
    | .ok (lease, s) => (.ok (.lease lease), { r with state := s })
  | .revokeLease leaseId =>
    let (result, s) := r.state.revokeLease leaseId
    (if result then .ok .revoked else .error leaseNotFound, { r with state := s })
  | .syncReceive msg =>
    let (applied, s) := r.state.handleSyncMessage now msg
    (.ok (.applied applied), { r with state := s })

/-- The answer over a `ClusterStore`, and the router after it. -/
def StoreRouter.handleApi (r : StoreRouter) (now : Time) :
    ApiRequest → Except PyError ApiResponse × StoreRouter
  | .task request =>
    ((StoreRouter.handle now request r).1.map .task, (StoreRouter.handle now request r).2)
  | .createLease token taskId nodeId ttlSeconds =>
    match r.state.createLease now token taskId nodeId (seconds ttlSeconds) with
    | .error e => (.error e, r)
    | .ok (lease, s) => (.ok (.lease lease), { r with state := s })
  | .revokeLease leaseId =>
    let (result, s) := r.state.revokeLease leaseId
    (if result then .ok .revoked else .error leaseNotFound, { r with state := s })
  | .syncReceive msg =>
    match r.state.handleSyncMessage now msg with
    | .error e => (.error e, r)
    | .ok (applied, s) => (.ok (.applied applied), { r with state := s })

end HermesCluster
