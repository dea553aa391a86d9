import HermesCluster.State.ClusterState
import Mathlib.Data.List.Dedup

/-!
# The recovery pipeline

`Revoker`, `Rescheduler` and `RecoveryManager` of `hermes_cluster/recovery`, over a
`ClusterState`.  Every call is given one clock reading.  The locks of these classes
guard counters only and are left out.

`detect_expired_leases` recovers the nodes of a set one after the other, in the order
in which Python iterates over it.  That order is an argument: a `SetOrder` lists the
distinct elements of a list in some order.
-/

namespace HermesCluster

/-- An order of iteration over a Python set of strings. -/
structure SetOrder where
  enum : List String → List String
  perm : ∀ l, (enum l).Perm l.dedup

namespace SetOrder

/-- The order of the last occurrences, one of the possible ones. -/
def dedup : SetOrder := ⟨List.dedup, fun _ => List.Perm.refl _⟩

theorem mem_enum (order : SetOrder) {l : List String} {a : String} :
    a ∈ order.enum l ↔ a ∈ l := by
  rw [(order.perm l).mem_iff, List.mem_dedup]

end SetOrder

/-! ### `Revoker` -/

namespace Revoker

/-- The body of the loop of `revoke_all_for_node`. -/
def revokeOne (now : Time) (nodeId : NodeId) (acc : List TaskId × ClusterState) (lease : Lease) :
    List TaskId × ClusterState :=
  if lease.nodeId = nodeId then
    let (success, state) := acc.2.revokeLease lease.id
    if success then
      (acc.1 ++ [lease.taskId], state.appendRecoveryEvent now
        { taskId := lease.taskId, nodeId := nodeId, action := "revoke_lease",
          status := "completed", timestamp := now,
          message := some ("Revoked lease " ++ lease.id ++ " for task " ++ lease.taskId) })
    else (acc.1, state)
  else acc

/-- `revoke_all_for_node`: the tasks whose leases were revoked, one entry a lease. -/
def revokeAllForNode (s : ClusterState) (now : Time) (nodeId : NodeId) :
    List TaskId × ClusterState :=
  let (activeLeases, state) := s.getActiveLeases now
  activeLeases.foldl (revokeOne now nodeId) ([], state)

end Revoker

/-! ### `Rescheduler` -/

namespace Rescheduler

/-- `if task and task.assigned_to`: an empty node id does not count. -/
def gotAssigned (s : ClusterState) (taskId : TaskId) : Option NodeId :=
  ((s.getTask taskId).bind Task.assignedTo).filter (· ≠ "")

/-- The two branches of `reschedule_orphaned` that give a task up. -/
def markFailed (s : ClusterState) (now : Time) (taskId : TaskId) : ClusterState :=
  (s.setTaskStatus now taskId .failed "no available node for reschedule").appendRecoveryEvent now
    { taskId := taskId, action := "mark_failed", status := "completed", timestamp := now,
      message := some "No available node for reschedule" }

/-- The body of the loop of `reschedule_orphaned`. -/
def rescheduleOne (now : Time) (acc : Nat × ClusterState) (taskId : TaskId) :
    Nat × ClusterState :=
  match acc.2.getTask taskId with
  | none => acc
  | some _ =>
    let (scheduled, state) := (acc.2.unassignTask now taskId).schedulePending now
    if scheduled > 0 then
      match gotAssigned state taskId with
      | some nodeId => (acc.1 + 1, state.appendRecoveryEvent now
          { taskId := taskId, action := "reschedule", status := "completed", timestamp := now,
            message := some ("Rescheduled to node " ++ nodeId) })
      | none => (acc.1, markFailed state now taskId)
    else (acc.1, markFailed state now taskId)

def rescheduleOrphaned (s : ClusterState) (now : Time) (taskIds : List TaskId) :
    Nat × ClusterState :=
  taskIds.foldl (rescheduleOne now) (0, s)

end Rescheduler

/-! ### `RecoveryManager` -/

structure RecoveryManager where
  totalRecoveries : Nat := 0
  totalRevoked : Nat := 0
  totalRescheduled : Nat := 0
deriving DecidableEq, Repr

/-- What `trigger_recovery` returns; its `status` is always `accepted`. -/
structure RecoverySummary where
  nodeId : NodeId
  revoked : Nat
  rescheduled : Nat
  recoveryStatus : String
  message : String
deriving DecidableEq, Repr

/-- What `detect_expired_leases` returns. -/
structure DetectSummary where
  expiredNodes : List NodeId
  recoveredNodes : List NodeId
  activeLeases : Nat
deriving DecidableEq, Repr

namespace RecoveryManager

def triggerRecovery (m : RecoveryManager) (s : ClusterState) (now : Time) (nodeId : NodeId) :
    RecoverySummary × RecoveryManager × ClusterState :=
  let (revokedTaskIds, state) := Revoker.revokeAllForNode s now nodeId
  let revoked := revokedTaskIds.length
  let (rescheduled, state) :=
    if revokedTaskIds ≠ [] then Rescheduler.rescheduleOrphaned state now revokedTaskIds
    else (0, state)
  let (status, message) :=
    if revokedTaskIds ≠ [] then
      (if rescheduled = revoked then "completed" else "partial",
        "Revoked " ++ toString revoked ++ " leases, rescheduled " ++ toString rescheduled ++
          "/" ++ toString revoked ++ " tasks")
    else ("completed", "No active leases to revoke")
  (⟨nodeId, revoked, rescheduled, status, message⟩,
    ⟨m.totalRecoveries + 1, m.totalRevoked + revoked, m.totalRescheduled + rescheduled⟩,
    state.appendRecoveryEvent now
      { nodeId := nodeId, action := "full_recovery", status := status, timestamp := now,
        message := some message })

/-- The body of the loop of `detect_expired_leases`. -/
def recoverOne (now : Time) (acc : RecoveryManager × ClusterState) (nodeId : NodeId) :
    RecoveryManager × ClusterState :=
  (acc.1.triggerRecovery acc.2 now nodeId).2

def detectExpiredLeases (order : SetOrder) (m : RecoveryManager) (s : ClusterState) (now : Time) :
    DetectSummary × RecoveryManager × ClusterState :=
  let (activeLeases, state) := s.getActiveLeases now
  let expiredNodes := order.enum (state.getExpiredLeases.map Lease.nodeId)
  let (m, state) := expiredNodes.foldl (recoverOne now) (m, state)
  (⟨expiredNodes, expiredNodes, activeLeases.length⟩, m, state)

end RecoveryManager

end HermesCluster
