import HermesCluster.State.Session

/-!
# `TaskManager`

The methods of `hermes_cluster/task_manager.py` that write, over a `ClusterStore`, each a
program of the store's methods and of transactions of its own.  What a method wrote before it
raised stays.

The listing, statistics and history methods, which only read, are left out, and so is
`task_counts` in `auto_schedule`, whose result is not used.
-/

namespace HermesCluster

/-- The characters `str.strip` takes off. -/
def isSpace (c : Char) : Bool :=
  (9 ≤ c.toNat ∧ c.toNat ≤ 13) ∨ (28 ≤ c.toNat ∧ c.toNat ≤ 32) ∨ c.toNat = 133 ∨
    c.toNat = 160 ∨ c.toNat = 5760 ∨ (8192 ≤ c.toNat ∧ c.toNat ≤ 8202) ∨ c.toNat = 8232 ∨
    c.toNat = 8233 ∨ c.toNat = 8239 ∨ c.toNat = 8287 ∨ c.toNat = 12288

/-- `not title.strip()`, so also `not title`. -/
def blank (title : String) : Bool := title.toList.all isSpace

/-- What `auto_schedule` returns. -/
structure ScheduleResult where
  promoted : Nat := 0
  scheduled : Nat := 0
  totalReady : Nat := 0
  totalPending : Nat := 0
  taskIdsScheduled : List TaskId := []
deriving DecidableEq, Repr

/-- An element of the list `bulk_create` takes, with the token its task will draw. -/
structure NewTask where
  token : String
  title : String := ""
  requires : List Capability := []
  priority : Int := 3
  dependsOn : List TaskId := []
  assignTo : Option NodeId := none
deriving DecidableEq, Repr

namespace ClusterStore

/-- `UPDATE tasks SET assigned_to = ?` -/
def withAssignee (nodeId : NodeId) (r : TaskRow) : TaskRow := { r with assignedTo := some nodeId }

def setAssignee (s : ClusterStore) (taskId : TaskId) (nodeId : NodeId) : ClusterStore :=
  { s with tasks := s.tasks.modify taskId (withAssignee nodeId) (fun _ => rfl) }

/-- The updates of `update_task`; with no field given there is none. -/
def updatedBy (now : Time) (title : Option String) (priority : Option Int)
    (requires : Option (List Capability)) (dependsOn : Option (List TaskId)) (r : TaskRow) :
    TaskRow :=
  if title = none ∧ priority = none ∧ requires = none ∧ dependsOn = none then r
  else { r with
    title := title.getD r.title
    priority := priority.getD r.priority
    requires := requires.getD r.requires
    dependsOn := dependsOn.getD r.dependsOn
    status := if dependsOn.getD [] ≠ [] ∧ r.status = TaskStatus.ready.value then
        TaskStatus.pending.value
      else r.status
    updatedAt := now
    version := bumped r.version }

theorem key_updatedBy (now : Time) (title : Option String) (priority : Option Int)
    (requires : Option (List Capability)) (dependsOn : Option (List TaskId)) (r : TaskRow) :
    Keyed.key (updatedBy now title priority requires dependsOn r) = Keyed.key r := by
  unfold updatedBy; split <;> rfl

/-- The transaction of `update_task`, which checks before it writes. -/
def updateTask (s : ClusterStore) (now : Time) (taskId : TaskId) (title : Option String)
    (priority : Option Int) (requires : Option (List Capability))
    (dependsOn : Option (List TaskId)) : Except PyError (Unit × ClusterStore) :=
  if title.any blank then .error (.valueError "Task title cannot be empty")
  else if priority.any fun p => p < 1 ∨ 5 < p then
    .error (.valueError ("Priority must be 1-5, got " ++ toString (priority.getD 0)))
  else .ok ((), { s with
    tasks := s.tasks.modify taskId (updatedBy now title priority requires dependsOn)
      (key_updatedBy now title priority requires dependsOn) })

/-- The three `DELETE` statements of `delete_task` and `purge_completed`. -/
def deleteTasks (s : ClusterStore) (taskIds : List TaskId) : ClusterStore :=
  { s with
    leases := s.leases.delete (·.taskId ∈ taskIds)
    decisions := s.decisions.filter (·.taskId ∉ taskIds)
    tasks := s.tasks.delete (·.id ∈ taskIds) }

/-- The rows `purge_completed` deletes: finished, and last written before the cutoff. -/
def purgeable (s : ClusterStore) (cutoff : Time) : List TaskId :=
  (s.tasks.rows.filter fun r =>
    (r.status = TaskStatus.completed.value ∨ r.status = TaskStatus.failed.value) ∧
      r.updatedAt < cutoff).map TaskRow.id

end ClusterStore

namespace TaskManager

open ClusterStore

/-- `if depends_on: self._store.set_dependencies(task_id, depends_on)` -/
def addDependencies (now : Time) (taskId : TaskId) (dependsOn : List TaskId) : Session Unit :=
  if dependsOn = [] then pure () else do
    let _ ← Session.setDependencies now taskId dependsOn
    return ()

/-- The immediate assignment of `create_task`; an empty node id is none. -/
def assign (now : Time) (taskId : TaskId) (assignTo : Option NodeId) : Session Unit :=
  match assignTo.filter (· ≠ "") with
  | none => pure ()
  | some nodeId => do
    let node ← Session.getNode nodeId
    if node = none then .raise (.valueError ("Node " ++ nodeId ++ " not found"))
    else do
      let _ ← Session.setTaskStatus now taskId .running
      Prog.write fun s => ((), s.setAssignee taskId nodeId)

/-- `create_task` -/
def createTask (now : Time) (token title : String) (requires : List Capability) (priority : Int)
    (dependsOn : List TaskId) (assignTo : Option NodeId) : Session Task :=
  if blank title then .raise (.valueError "Task title cannot be empty")
  else if priority < 1 ∨ 5 < priority then
    .raise (.valueError ("Priority must be 1-5, got " ++ toString priority))
  else do
    let task ← Session.createTask now (generateId "task" token) title requires priority
    addDependencies now (generateId "task" token) dependsOn
    assign now (generateId "task" token) assignTo
    let stored ← Session.getTask (generateId "task" token)
    return stored.getD task

/-- `duplicate_task` -/
def duplicateTask (now : Time) (token : String) (taskId : TaskId) (titleSuffix : String) :
    Session (Option Task) := do
  match ← Session.getTask taskId with
  | none => return none
  | some original =>
    let task ← createTask now token (original.title ++ titleSuffix) original.requires
      original.priority original.dependsOn none
    return some task

/-- `update_task` -/
def updateTask (now : Time) (taskId : TaskId) (title : Option String) (priority : Option Int)
    (requires : Option (List Capability)) (dependsOn : Option (List TaskId)) :
    Session (Option Task) := do
  match ← Session.getTask taskId with
  | none => return none
  | some _ =>
    Prog.tx fun s => s.updateTask now taskId title priority requires dependsOn
    Session.getTask taskId

/-- `cancel_task` -/
def cancelTask (now : Time) (taskId : TaskId) : Session Bool := do
  match ← Session.getTask taskId with
  | none => return false
  | some task =>
    if task.status = .completed ∨ task.status = .failed then return false
    else do
      let _ ← Session.setTaskStatus now taskId .failed "cancelled"
      return true

/-- `retry_task` -/
def retryTask (now : Time) (taskId : TaskId) : Session (Option Task) := do
  match ← Session.getTask taskId with
  | none => return none
  | some task =>
    if task.status ≠ .failed then return none
    else do
      let _ ← Session.setTaskStatus now taskId .pending
      let _ ← Session.triggerPendingTasks now
      Session.getTask taskId

/-- `delete_task` -/
def deleteTask (taskId : TaskId) : Session Bool := do
  match ← Session.getTask taskId with
  | none => return false
  | some task =>
    if task.status = .assigned ∨ task.status = .running then return false
    else do
      Prog.write fun s => ((), s.deleteTasks [taskId])
      return true

/-- `purge_completed` -/
def purgeCompleted (now : Time) (olderThanSeconds : Int) : Session Nat := do
  let cutoff ← Prog.read fun _ => addTtl now (-seconds olderThanSeconds)
  Prog.write fun s => ((s.purgeable cutoff).length, s.deleteTasks (s.purgeable cutoff))

/-- `auto_schedule` -/
def autoSchedule (now : Time) : Session ScheduleResult := do
  let promoted ← Session.triggerPendingTasks now
  let scheduled ← Session.schedulePending now
  let tasks ← Session.getAllTasks
  return {
    promoted := promoted
    scheduled := scheduled
    totalReady := (tasks.filter (·.status = .ready)).length
    totalPending := (tasks.filter (·.status = .pending)).length
    taskIdsScheduled :=
      (tasks.filter fun t => t.status = .running ∧ t.assignedTo.getD "" ≠ "").map Task.id }

/-- `schedule_task_to_node` -/
def scheduleTaskToNode (now : Time) (taskId : TaskId) (nodeId : NodeId) : Session Bool := do
  match ← Session.getTask taskId with
  | none => return false
  | some task =>
    if task.status ≠ .ready ∧ task.status ≠ .pending then return false
    else do
      match ← Session.getNode nodeId with
      | none => return false
      | some node =>
        if node.status ≠ .online then return false
        else if ClusterState.fits task.requires node = false then return false
        else do
          Prog.write fun s => ((), s.assignTask now taskId nodeId)
          return true

/-- `bulk_create`; an element without a title is passed over. -/
def bulkCreate (now : Time) : List NewTask → Session (List Task)
  | [] => return []
  | new :: tasks =>
    if new.title = "" then bulkCreate now tasks
    else do
      let task ← createTask now new.token new.title new.requires new.priority new.dependsOn
        new.assignTo
      let created ← bulkCreate now tasks
      return task :: created

/-- `bulk_cancel` -/
def bulkCancel (now : Time) : List TaskId → Session Nat
  | [] => return 0
  | taskId :: taskIds => do
    let cancelled ← cancelTask now taskId
    let count ← bulkCancel now taskIds
    return count + if cancelled then 1 else 0

/-- `bulk_delete` -/
def bulkDelete : List TaskId → Session Nat
  | [] => return 0
  | taskId :: taskIds => do
    let deleted ← deleteTask taskId
    let count ← bulkDelete taskIds
    return count + if deleted then 1 else 0

end TaskManager

/-! ### Operations -/

inductive TaskOp
  | create (token title : String) (requires : List Capability) (priority : Int)
    (dependsOn : List TaskId) (assignTo : Option NodeId)
  | duplicate (token : String) (taskId : TaskId) (titleSuffix : String)
  | update (taskId : TaskId) (title : Option String) (priority : Option Int)
    (requires : Option (List Capability)) (dependsOn : Option (List TaskId))
  | cancel (taskId : TaskId)
  | retry (taskId : TaskId)
  | delete (taskId : TaskId)
  | purge (olderThanSeconds : Int)
  | autoSchedule
  | scheduleTo (taskId : TaskId) (nodeId : NodeId)
  | bulkCreate (tasks : List NewTask)
  | bulkCancel (taskIds : List TaskId)
  | bulkDelete (taskIds : List TaskId)
deriving DecidableEq, Repr

namespace TaskOp

/-- The program of a call, whatever it returns. -/
def program (now : Time) : TaskOp → Session Unit
  | .create token title requires priority dependsOn assignTo => do
    let _ ← TaskManager.createTask now token title requires priority dependsOn assignTo
  | .duplicate token taskId titleSuffix => do
    let _ ← TaskManager.duplicateTask now token taskId titleSuffix
  | .update taskId title priority requires dependsOn => do
    let _ ← TaskManager.updateTask now taskId title priority requires dependsOn
  | .cancel taskId => do let _ ← TaskManager.cancelTask now taskId
  | .retry taskId => do let _ ← TaskManager.retryTask now taskId
  | .delete taskId => do let _ ← TaskManager.deleteTask taskId
  | .purge olderThanSeconds => do let _ ← TaskManager.purgeCompleted now olderThanSeconds
  | .autoSchedule => do let _ ← TaskManager.autoSchedule now
  | .scheduleTo taskId nodeId => do let _ ← TaskManager.scheduleTaskToNode now taskId nodeId
  | .bulkCreate tasks => do let _ ← TaskManager.bulkCreate now tasks
  | .bulkCancel taskIds => do let _ ← TaskManager.bulkCancel now taskIds
  | .bulkDelete taskIds => do let _ ← TaskManager.bulkDelete taskIds

/-- The store after a call at a clock reading, whether it returns or raises. -/
def step (s : ClusterStore) (op : Time × TaskOp) : ClusterStore := ((op.2.program op.1).run s).2

end TaskOp

end HermesCluster
