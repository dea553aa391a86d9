import HermesCluster.State.ClusterState
import Mathlib.Data.List.Infix

/-!
# `NodeManager`

The node lifecycle of `hermes_cluster/core/node_manager.py` over a `ClusterState`, and the
listener `create_app` adds.  A method gives the events it emits, oldest first, and the
store after.

The capability cache and `update_capabilities` are in `Core.Capabilities`.  The periodic
heartbeat sender and the timeline, which `ClusterState` ignores, are left out; so are the
details of the events, apart from those of a status change, since nothing reads them.
-/

namespace HermesCluster

/-- `sub in text`. -/
def isIn (sub text : String) : Bool := decide (sub.toList <:+: text.toList)

inductive NodeEvent
  | joined (nodeId : NodeId)
  | left (nodeId : NodeId)
  | heartbeat (nodeId : NodeId)
  | statusChanged (nodeId : NodeId) (detail : String)
deriving DecidableEq, Repr

/-- `a < b`, which NaN makes false. -/
def Load.lt : Load → Load → Bool
  | .num a, .num b => decide (a < b)
  | _, _ => false

namespace NodeManager

/-- `join`; a node that is there already gets a heartbeat with load 0, and new
capabilities unless the list is empty. -/
def join (s : ClusterState) (now : Time) (nodeId : NodeId) (name : String)
    (capabilities : List Capability) (load : Load) :
    Except PyError (Option Node × List NodeEvent × ClusterState) :=
  if nodeId = "" then .error (.valueError "node_id is required")
  else
    match s.getNode nodeId with
    | some _ =>
      let s := s.updateHeartbeat now nodeId (.num 0)
      let s := if capabilities ≠ [] then s.updateCapabilities nodeId capabilities else s
      .ok (s.getNode nodeId, [.joined nodeId], s)
    | none =>
      let node : Node :=
        { id := nodeId, name := if name ≠ "" then name else nodeId, capabilities := capabilities,
          status := .online, lastHeartbeat := ⟨now, none⟩, load := load }
      .ok (some node, [.joined nodeId], s.registerNode node)

/-- `leave`: the node stays in the store, offline. -/
def leave (s : ClusterState) (nodeId : NodeId) : Bool × List NodeEvent × ClusterState :=
  match s.getNode nodeId with
  | none => (false, [], s)
  | some _ => (true, [.left nodeId], s.setNodeStatus nodeId .offline)

/-- `max(0.0, min(1.0, load))` -/
def clamp (load : Load) : Load :=
  let load := if load.lt (.num 1) then load else .num 1
  if (Load.num 0).lt load then load else .num 0

def sendHeartbeat (s : ClusterState) (now : Time) (nodeId : NodeId) (load : Load) :
    List NodeEvent × ClusterState :=
  match s.getNode nodeId with
  | none => ([], s)
  | some _ => ([.heartbeat nodeId], s.updateHeartbeat now nodeId (clamp load))

/-- The detail of a status change. -/
def changeDetail (old new : NodeStatus) : String := old.value ++ " → " ++ new.value

/-- `set_status`: a node that has the status already is left alone. -/
def setStatus (s : ClusterState) (nodeId : NodeId) (status : NodeStatus) :
    Bool × List NodeEvent × ClusterState :=
  match s.getNode nodeId with
  | none => (false, [], s)
  | some node =>
    if node.status = status then (true, [], s)
    else (true, [.statusChanged nodeId (changeDetail node.status status)],
      s.setNodeStatus nodeId status)

/-- `_on_node_event` of `create_app`: the node it triggers a recovery for. -/
def onNodeEvent : NodeEvent → Option NodeId
  | .statusChanged nodeId detail => if isIn "offline" detail then some nodeId else none
  | _ => none

/-! ### What the store methods do -/

section Store

variable {s : ClusterState} {nodeId : NodeId} {node : Node} {status : NodeStatus}

theorem get?_registerNode (node : Node) (k : NodeId) :
    (s.registerNode node).nodes.get? k = if k = node.id then some node else s.nodes.get? k :=
  Table.get?_put _ _ _

/-- The update of a heartbeat. -/
def beaten (now : Time) (load : Load) (n : Node) : Node :=
  { n with lastHeartbeat := ⟨now, none⟩, status := .online, load := load }

theorem get?_updateHeartbeat (now : Time) (load : Load) (k : NodeId) :
    (s.updateHeartbeat now nodeId load).nodes.get? k =
      if k = nodeId then (s.nodes.get? k).map (beaten now load) else s.nodes.get? k :=
  Table.get?_modify _ _ (beaten now load) (fun _ => rfl) k

theorem get?_updateCapabilities (capabilities : List Capability) (k : NodeId) :
    (s.updateCapabilities nodeId capabilities).nodes.get? k =
      if k = nodeId then (s.nodes.get? k).map (fun n => { n with capabilities := capabilities })
      else s.nodes.get? k :=
  Table.get?_modify _ _ (fun n : Node => { n with capabilities := capabilities })
    (fun _ => rfl) k

theorem setStatus_of_none (h : s.nodes.get? nodeId = none) :
    setStatus s nodeId status = (false, [], s) := by
  rw [setStatus, ClusterState.getNode, h]

theorem setStatus_of_eq (h : s.nodes.get? nodeId = some node) (hs : node.status = status) :
    setStatus s nodeId status = (true, [], s) := by
  rw [setStatus, ClusterState.getNode, h]
  exact if_pos hs

theorem setStatus_of_ne (h : s.nodes.get? nodeId = some node) (hs : node.status ≠ status) :
    setStatus s nodeId status =
      (true, [.statusChanged nodeId (changeDetail node.status status)],
        s.setNodeStatus nodeId status) := by
  rw [setStatus, ClusterState.getNode, h]
  exact if_neg hs

theorem get?_setNodeStatus (k : NodeId) :
    (s.setNodeStatus nodeId status).nodes.get? k =
      if k = nodeId then (s.nodes.get? k).map (fun n => { n with status := status })
      else s.nodes.get? k :=
  Table.get?_modify _ _ (fun n : Node => { n with status := status }) (fun _ => rfl) k

end Store

/-! ### What the listener recognises -/

theorem value_toList (status : NodeStatus) : status.value.toList = match status with
    | .online => ['o', 'n', 'l', 'i', 'n', 'e']
    | .degraded => ['d', 'e', 'g', 'r', 'a', 'd', 'e', 'd']
    | .offline => ['o', 'f', 'f', 'l', 'i', 'n', 'e'] := by
  cases status <;> rfl

/-- The text of a change mentions `offline` on either side of the arrow. -/
theorem isIn_changeDetail (old new : NodeStatus) :
    isIn "offline" (changeDetail old new) = true ↔ old = .offline ∨ new = .offline := by
  have harrow : " → ".toList = [' ', '→', ' '] := rfl
  have hoffline : "offline".toList = ['o', 'f', 'f', 'l', 'i', 'n', 'e'] := rfl
  rw [isIn, decide_eq_true_eq, changeDetail, String.toList_append, String.toList_append,
    value_toList, value_toList, harrow, hoffline]
  cases old <;> cases new <;> decide

theorem mem_onNodeEvent_change (nodeId n : NodeId) (old new : NodeStatus) :
    n ∈ onNodeEvent (.statusChanged nodeId (changeDetail old new)) ↔
      nodeId = n ∧ (old = .offline ∨ new = .offline) := by
  rw [onNodeEvent, ← isIn_changeDetail old new]
  by_cases h : isIn "offline" (changeDetail old new) = true
  · rw [if_pos h]
    simp [h]
  · rw [if_neg h]
    simp [h]

end NodeManager

end HermesCluster
