import HermesCluster.Lib.Transaction
import HermesCluster.State.ClusterStore

/-!
# The methods of `ClusterStore` as programs

What the classes above the store call: each method as a program over the tables, one
transaction or read after the other, with what it returns.  `create_task` is two transactions
in the source; nothing can come between what they write and nothing in the second raises, so it
is one here.
-/

namespace HermesCluster

/-- A program over the tables of a `ClusterStore`. -/
abbrev Session (α : Type) := Prog ClusterStore PyError α

namespace Session

def getTask (taskId : TaskId) : Session (Option Task) := .read fun s => s.getTask taskId

def getAllTasks : Session (List Task) := .read fun s => s.getAllTasks

def getNode (nodeId : NodeId) : Session (Option Node) := .read fun s => s.getNode nodeId

/-- `create_task` returns the stored task, which it reads back. -/
def createTask (now : Time) (taskId : TaskId) (title : String) (requires : List Capability)
    (priority : Int) : Session Task := do
  Prog.tx fun s => (s.createTask now taskId title requires priority).map fun s => ((), s)
  let task ← getTask taskId
  return task.getD
    { id := taskId, title := title, requires := requires, priority := priority,
      status := .pending, createdAt := now, updatedAt := now, version := 1 }

/-- `result.rowcount > 0` -/
def setTaskStatus (now : Time) (taskId : TaskId) (status : TaskStatus)
    (failReason : String := "") : Session Bool :=
  .write fun s => ((s.tasks.get? taskId).isSome, s.setTaskStatus now taskId status failReason)

def setDependencies (now : Time) (taskId : TaskId) (dependsOn : List TaskId) : Session Bool :=
  .write fun s => ((s.tasks.get? taskId).isSome, s.setDependencies now taskId dependsOn)

def triggerPendingTasks (now : Time) : Session Nat := .write fun s => s.triggerPendingTasks now

def schedulePending (now : Time) : Session Nat := .tx fun s => s.schedulePending now

/-- `create_lease` computes the expiry first. -/
def createLease (now : Time) (token : String) (taskId : TaskId) (nodeId : NodeId)
    (ttl : Duration) : Session Lease := do
  let _ ← Prog.read fun _ => addTtl now ttl
  Prog.tx fun s => s.createLease now token taskId nodeId ttl

/-- `get_active_leases` reads the leases in a transaction, and marks those that have run out in
another, if there are any. -/
def getActiveLeases (now : Time) : Session (List Lease) := do
  let rows ← Prog.write fun s => (s.leases.rows, s)
  if rows.any (·.lapsed now) then
    Prog.write fun s => s.getActiveLeases now
  else return rows.filter (·.live now)

/-- `handle_sync_message` opens no transaction for a message it refuses. -/
def handleSyncMessage (now : Time) (msg : SyncMessage) : Session Bool := do
  let current ← Prog.read fun s => .ok s.syncVersion
  if msg.version ≤ current then return false
  else Prog.tx fun s => s.handleSyncMessage now msg

def handleBatchSync (now : Time) : List SyncMessage → Session Nat
  | [] => return 0
  | msg :: messages => do
    let applied ← handleSyncMessage now msg
    let count ← handleBatchSync now messages
    return count + if applied then 1 else 0

theorem run_getTask_ok {s : ClusterStore} {taskId : TaskId} {task : Option Task}
    (h : s.getTask taskId = .ok task) : (getTask taskId).run s = (.ok task, s) :=
  Prog.run_read_ok h

theorem run_getTask_error {s : ClusterStore} {taskId : TaskId} {e : PyError}
    (h : s.getTask taskId = .error e) : (getTask taskId).run s = (.error e, s) :=
  Prog.run_read_error h

@[simp] theorem run_getTask_snd (s : ClusterStore) (taskId : TaskId) :
    ((getTask taskId).run s).2 = s :=
  Prog.run_read_snd _ s

end Session

end HermesCluster
