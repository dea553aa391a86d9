import HermesCluster.State.Session

/-!
# `WorkflowResolver`

`resolve_dependencies`, `_propagate` and `on_dependency_failed` of
`hermes_cluster/core/cluster_core.py` and the methods of `ClusterCore` that use them, over a
`ClusterStore`.

The last loop of `_propagate` goes over a list that it extends.  Here it takes as many turns as
it is given and answers `none` when they do not suffice.
-/

namespace HermesCluster

namespace WorkflowResolver

/-- `MAX_TRIGGER_CHAIN_DEPTH` -/
def maxTriggerChainDepth : Nat := 10

/-- The loop over the dependencies: whether all of them are completed, and whether one has
failed, which ends it. -/
def checkDependencies : List TaskId → Bool → Session (Bool × Bool)
  | [], allDone => return (allDone, false)
  | depId :: deps, allDone => do
    match ← Session.getTask depId with
    | none => checkDependencies deps false
    | some dep =>
      if dep.status = .failed then return (allDone, true)
      else checkDependencies deps (allDone && dep.status = .completed)

/-- `resolve_dependencies` -/
def resolveDependencies (now : Time) (taskId : TaskId) : Session Bool := do
  match ← Session.getTask taskId with
  | none => return false
  | some task =>
    if task.status ≠ .pending then return false
    else if task.dependsOn = [] then do
      let _ ← Session.setTaskStatus now taskId .ready
      return true
    else do
      let checked ← checkDependencies task.dependsOn true
      if checked.2 then do
        let _ ← Session.setTaskStatus now taskId .blocked "dependency failed"
        return false
      else if checked.1 then do
        let _ ← Session.setTaskStatus now taskId .ready
        return true
      else return false

/-- The first two loops of `_propagate`, one for each status: the tasks that turned ready. -/
def resolveAll (now : Time) (completedTaskId : TaskId) (status : TaskStatus) :
    List Task → Session (List TaskId)
  | [] => return []
  | task :: tasks =>
    if task.status ≠ status then resolveAll now completedTaskId status tasks
    else if completedTaskId ∉ task.dependsOn then resolveAll now completedTaskId status tasks
    else do
      let ready ← resolveDependencies now task.id
      let transitioned ← resolveAll now completedTaskId status tasks
      return if ready then task.id :: transitioned else transitioned

/-- `for tid in transitioned: transitioned.extend(propagate(tid))`: the list in the end, in that
many turns. -/
def cascade (propagate : TaskId → Session (Option (List TaskId))) :
    Nat → List TaskId → Session (Option (List TaskId))
  | _, [] => return some []
  | 0, _ :: _ => return none
  | turns + 1, tid :: rest => do
    match ← propagate tid with
    | none => return none
    | some inner => do
      let transitioned ← cascade propagate turns (rest ++ inner)
      return transitioned.map (tid :: ·)

/-- `_propagate`, `depth` being how much of the chain's depth is left. -/
def propagate (now : Time) (turns : Nat) : Nat → TaskId → Session (Option (List TaskId))
  | 0, _ => return some []
  | depth + 1, completedTaskId => do
    let allTasks ← Session.getAllTasks
    let pending ← resolveAll now completedTaskId .pending allTasks
    let blocked ← resolveAll now completedTaskId .blocked allTasks
    cascade (propagate now turns depth) turns (pending ++ blocked)

/-- `on_dependency_complete` -/
def onDependencyComplete (now : Time) (turns : Nat) (completedTaskId : TaskId) :
    Session (Option (List TaskId)) :=
  propagate now turns maxTriggerChainDepth completedTaskId

/-- The loop of `on_dependency_failed`: the tasks it blocks. -/
def blockDependents (now : Time) (failedTaskId : TaskId) : List Task → Session (List TaskId)
  | [] => return []
  | task :: tasks =>
    if task.status ≠ .pending then blockDependents now failedTaskId tasks
    else if failedTaskId ∉ task.dependsOn then blockDependents now failedTaskId tasks
    else do
      let _ ← Session.setTaskStatus now task.id .blocked
        ("dependency " ++ failedTaskId ++ " failed")
      let blocked ← blockDependents now failedTaskId tasks
      return task.id :: blocked

/-- `on_dependency_failed` -/
def onDependencyFailed (now : Time) (failedTaskId : TaskId) : Session (List TaskId) := do
  let allTasks ← Session.getAllTasks
  blockDependents now failedTaskId allTasks

end WorkflowResolver

namespace ClusterCore

/-- `submit_task` -/
def submitTask (now : Time) (token title : String) (requires : List Capability)
    (priority : Int) : Session Task := do
  let task ← Session.createTask now (generateId "task" token) title requires priority
  let _ ← Session.triggerPendingTasks now
  return task

/-- `fail_task` -/
def failTask (now : Time) (taskId : TaskId) (reason : String) : Session Bool := do
  match ← Session.getTask taskId with
  | none => return false
  | some _ => do
    let _ ← Session.setTaskStatus now taskId .failed reason
    let _ ← WorkflowResolver.onDependencyFailed now taskId
    return true

/-- `complete_task` -/
def completeTask (now : Time) (turns : Nat) (taskId : TaskId) : Session (Option Bool) := do
  match ← Session.getTask taskId with
  | none => return some false
  | some _ => do
    let _ ← Session.setTaskStatus now taskId .completed
    match ← WorkflowResolver.onDependencyComplete now turns taskId with
    | none => return none
    | some _ => do
      let _ ← Session.schedulePending now
      return some true

end ClusterCore

end HermesCluster
