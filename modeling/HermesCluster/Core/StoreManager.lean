import HermesCluster.Core.NodeManager
import HermesCluster.State.StoreSpec

/-!
# `NodeManager` over a `ClusterStore`

The node lifecycle of `hermes_cluster/core/node_manager.py` when the store is the database:
`get_node` raises on a row whose load is NaN, which SQLite has stored as NULL, so a join or a
heartbeat of such a node changes nothing.  The events, which only the log and the listeners
read, are left out.

`join` says that it is idempotent.  The first join of a node takes its load and a second one
resets it to 0: `join_idempotent_iff`, for either store.
-/

namespace HermesCluster

open ClusterStore

namespace StoreManager

/-- The record a first join writes. -/
def newNode (now : Time) (nodeId : NodeId) (name : String) (capabilities : List Capability)
    (load : Load) : Node :=
  { id := nodeId, name := if name ≠ "" then name else nodeId, capabilities := capabilities,
    status := .online, lastHeartbeat := ⟨now, none⟩, load := load }

/-- `join`: what it returns or raises, and the store after. -/
def join (s : ClusterStore) (now : Time) (nodeId : NodeId) (name : String)
    (capabilities : List Capability) (load : Load) : Except PyError (Option Node) × ClusterStore :=
  if nodeId = "" then (.error (.valueError "node_id is required"), s)
  else
    match s.getNode nodeId with
    | .error e => (.error e, s)
    | .ok (some _) =>
      let s := s.updateHeartbeat now nodeId (.num 0)
      let s := if capabilities ≠ [] then s.updateCapabilities nodeId capabilities else s
      (s.getNode nodeId, s)
    | .ok none =>
      let node := newNode now nodeId name capabilities load
      (.ok (some node), s.registerNode node)

def sendHeartbeat (s : ClusterStore) (now : Time) (nodeId : NodeId) (load : Load) :
    Except PyError Unit × ClusterStore :=
  match s.getNode nodeId with
  | .error e => (.error e, s)
  | .ok none => (.ok (), s)
  | .ok (some _) => (.ok (), s.updateHeartbeat now nodeId (NodeManager.clamp load))

/-- `set_status`: a node that has the status already is left alone. -/
def setStatus (s : ClusterStore) (nodeId : NodeId) (status : NodeStatus) :
    Except PyError Bool × ClusterStore :=
  match s.getNode nodeId with
  | .error e => (.error e, s)
  | .ok none => (.ok false, s)
  | .ok (some node) =>
    if node.status = status then (.ok true, s) else (.ok true, s.setNodeStatus nodeId status)

/-! ### What they do to a record -/

section Records

variable {s : ClusterStore} {now : Time} {nodeId : NodeId} {name : String}
  {capabilities : List Capability} {load : Load} {k : NodeId}

theorem get?_registerNode (node : Node) :
    (s.registerNode node).nodes.get? k = if k = node.id then some node else s.nodes.get? k :=
  Table.get?_replaceInto s.nodes node k

theorem get?_updateHeartbeat :
    (s.updateHeartbeat now nodeId load).nodes.get? k =
      if k = nodeId then (s.nodes.get? k).map (beaten now load) else s.nodes.get? k :=
  Table.get?_modify _ _ (beaten now load) (fun _ => rfl) k

theorem get?_updateCapabilities :
    (s.updateCapabilities nodeId capabilities).nodes.get? k =
      if k = nodeId then (s.nodes.get? k).map (withCapabilities capabilities)
      else s.nodes.get? k :=
  Table.get?_modify _ _ (withCapabilities capabilities) (fun _ => rfl) k

theorem get?_setNodeStatus (status : NodeStatus) :
    (s.setNodeStatus nodeId status).nodes.get? k =
      if k = nodeId then (s.nodes.get? k).map (withNodeStatus status) else s.nodes.get? k :=
  Table.get?_modify _ _ (withNodeStatus status) (fun _ => rfl) k

/-- What a re-join makes of the record. -/
def rejoined (now : Time) (capabilities : List Capability) (x : Node) : Node :=
  { x with lastHeartbeat := ⟨now, none⟩, status := .online, load := .num 0
           capabilities := if capabilities ≠ [] then capabilities else x.capabilities }

theorem join_of_none (hid : nodeId ≠ "") (hx : s.nodes.get? nodeId = none) :
    join s now nodeId name capabilities load =
      (.ok (some (newNode now nodeId name capabilities load)),
        s.registerNode (newNode now nodeId name capabilities load)) := by
  rw [join, if_neg hid, getNode, hx]

theorem join_of_nan {x : Node} (hx : s.nodes.get? nodeId = some x) (hnan : x.load = .nan) :
    (join s now nodeId name capabilities load).2 = s := by
  rw [join]
  by_cases hid : nodeId = ""
  · rw [if_pos hid]
  · rw [if_neg hid, getNode_of_nan hx hnan]

theorem get?_join_of_some {x : Node} (hid : nodeId ≠ "") (hx : s.nodes.get? nodeId = some x)
    (hnan : x.load ≠ .nan) :
    (join s now nodeId name capabilities load).2.nodes.get? k =
      if k = nodeId then some (rejoined now capabilities x) else s.nodes.get? k := by
  rw [join, if_neg hid, getNode_of_some hx hnan]
  dsimp only
  by_cases hk : k = nodeId
  · rw [if_pos hk, hk]
    by_cases hc : capabilities ≠ []
    · rw [if_pos hc, get?_updateCapabilities, if_pos rfl, get?_updateHeartbeat, if_pos rfl, hx,
        rejoined, if_pos hc]
      rfl
    · rw [if_neg hc, get?_updateHeartbeat, if_pos rfl, hx, rejoined, if_neg hc]
      rfl
  · rw [if_neg hk]
    by_cases hc : capabilities ≠ []
    · rw [if_pos hc, get?_updateCapabilities, if_neg hk, get?_updateHeartbeat, if_neg hk]
    · rw [if_neg hc, get?_updateHeartbeat, if_neg hk]

/-- What a join makes of the record of its node. -/
def joined (now : Time) (nodeId : NodeId) (name : String) (capabilities : List Capability)
    (load : Load) : Option Node → Option Node
  | none => some (newNode now nodeId name capabilities load)
  | some x => if x.load = .nan then some x else some (rejoined now capabilities x)

theorem get?_join (hid : nodeId ≠ "") :
    (join s now nodeId name capabilities load).2.nodes.get? k =
      if k = nodeId then joined now nodeId name capabilities load (s.nodes.get? k)
      else s.nodes.get? k := by
  cases hx : s.nodes.get? nodeId with
  | none =>
    rw [join_of_none hid hx, get?_registerNode]
    show (if k = nodeId then some (newNode now nodeId name capabilities load) else _) = _
    by_cases hk : k = nodeId
    · rw [if_pos hk, if_pos hk, hk, hx, joined]
    · rw [if_neg hk, if_neg hk]
  | some x =>
    by_cases hnan : x.load = .nan
    · rw [join_of_nan hx hnan]
      by_cases hk : k = nodeId
      · rw [if_pos hk, hk, hx, joined, if_pos hnan]
      · rw [if_neg hk]
    · rw [get?_join_of_some hid hx hnan]
      by_cases hk : k = nodeId
      · rw [if_pos hk, if_pos hk, hk, hx, joined, if_neg hnan]
      · rw [if_neg hk, if_neg hk]

end Records

end StoreManager

/-! ### Joining twice -/

open StoreManager (newNode rejoined)

/-- The record without its heartbeat. -/
def unbeaten (x : Node) : Node := { x with lastHeartbeat := ⟨0, none⟩ }

/-- The two tables differ in heartbeats at most. -/
def SameRecords (a b : Table Node) : Prop :=
  ∀ k, (a.get? k).map unbeaten = (b.get? k).map unbeaten

namespace NodeManager

/-- The store after `join`, which raises only before it writes. -/
def joinState (s : ClusterState) (now : Time) (nodeId : NodeId) (name : String)
    (capabilities : List Capability) (load : Load) : ClusterState :=
  match join s now nodeId name capabilities load with
  | .ok (_, _, s) => s
  | .error _ => s

/-- What a join makes of the record of its node. -/
def joined (now : Time) (nodeId : NodeId) (name : String) (capabilities : List Capability)
    (load : Load) : Option Node → Option Node
  | none => some (newNode now nodeId name capabilities load)
  | some x => some (rejoined now capabilities x)

theorem get?_joinState {s : ClusterState} {now : Time} {nodeId : NodeId} {name : String}
    {capabilities : List Capability} {load : Load} (hid : nodeId ≠ "") (k : NodeId) :
    (joinState s now nodeId name capabilities load).nodes.get? k =
      if k = nodeId then joined now nodeId name capabilities load (s.nodes.get? k)
      else s.nodes.get? k := by
  rw [joinState, join, if_neg hid, ClusterState.getNode]
  cases hx : s.nodes.get? nodeId with
  | none =>
    show (s.registerNode (newNode now nodeId name capabilities load)).nodes.get? k = _
    rw [get?_registerNode]
    show (if k = nodeId then some (newNode now nodeId name capabilities load) else _) = _
    by_cases hk : k = nodeId
    · rw [if_pos hk, if_pos hk, hk, hx, joined]
    · rw [if_neg hk, if_neg hk]
  | some x =>
    dsimp only
    by_cases hk : k = nodeId
    · rw [if_pos hk, hk, hx, joined, rejoined]
      by_cases hc : capabilities ≠ []
      · rw [if_pos hc, if_pos hc, get?_updateCapabilities, if_pos rfl, get?_updateHeartbeat,
          if_pos rfl, hx]
        rfl
      · rw [if_neg hc, if_neg hc, get?_updateHeartbeat, if_pos rfl, hx]
        rfl
    · rw [if_neg hk]
      by_cases hc : capabilities ≠ []
      · rw [if_pos hc, get?_updateCapabilities, if_neg hk, get?_updateHeartbeat, if_neg hk]
      · rw [if_neg hc, get?_updateHeartbeat, if_neg hk]

end NodeManager

section Twice

variable {nodeId : NodeId} {name : String} {capabilities : List Capability} {load : Load}
  {now later : Time}

/-- A re-join leaves nothing for another one to change. -/
theorem unbeaten_rejoined (x : Node) :
    unbeaten (rejoined later capabilities (rejoined now capabilities x)) =
      unbeaten (rejoined now capabilities x) := by
  rw [rejoined, rejoined, unbeaten, unbeaten]
  by_cases hc : capabilities ≠ []
  · rw [if_pos hc, if_pos hc]
  · rw [if_neg hc, if_neg hc]

/-- A re-join of a node that has just joined resets the load and nothing else. -/
theorem unbeaten_rejoined_newNode :
    unbeaten (rejoined later capabilities (newNode now nodeId name capabilities load)) =
        unbeaten (newNode now nodeId name capabilities load) ↔ load = .num 0 := by
  refine ⟨fun h => (congrArg Node.load h).symm, fun h => ?_⟩
  have hcaps : (if capabilities ≠ [] then capabilities else capabilities) = capabilities :=
    ite_self _
  rw [rejoined, newNode, h, unbeaten, unbeaten]
  dsimp only
  rw [hcaps]

/-- Tables that differ at the record of one node are the same if that record is. -/
theorem sameRecords_iff {a b : Table Node} (h : ∀ k, k ≠ nodeId → a.get? k = b.get? k) :
    SameRecords a b ↔ (a.get? nodeId).map unbeaten = (b.get? nodeId).map unbeaten := by
  refine ⟨fun hs => hs nodeId, fun hn k => ?_⟩
  by_cases hk : k = nodeId
  · rw [hk, hn]
  · rw [h k hk]

namespace NodeManager

theorem joinTwice_iff (s : ClusterState) (hid : nodeId ≠ "") :
    SameRecords
      (joinState (joinState s now nodeId name capabilities load) later nodeId name capabilities
        load).nodes
      (joinState s now nodeId name capabilities load).nodes ↔
      (s.nodes.get? nodeId).isSome ∨ load = .num 0 := by
  rw [sameRecords_iff fun k hk => (get?_joinState hid k).trans (if_neg hk),
    get?_joinState hid, if_pos rfl, get?_joinState hid, if_pos rfl]
  cases s.nodes.get? nodeId with
  | none =>
    rw [joined, joined, Option.map_some, Option.map_some, Option.some.injEq,
      unbeaten_rejoined_newNode]
    exact (or_iff_right Bool.false_ne_true).symm
  | some x =>
    rw [joined, joined, Option.map_some, Option.map_some, unbeaten_rejoined]
    exact iff_of_true rfl (Or.inl rfl)

end NodeManager

namespace StoreManager

theorem joinTwice_iff (s : ClusterStore) (hid : nodeId ≠ "") :
    SameRecords
      (join (join s now nodeId name capabilities load).2 later nodeId name capabilities
        load).2.nodes
      (join s now nodeId name capabilities load).2.nodes ↔
      (s.nodes.get? nodeId).isSome ∨ load = .num 0 ∨ load = .nan := by
  rw [sameRecords_iff fun k hk => (get?_join hid).trans (if_neg hk),
    get?_join hid, if_pos rfl, get?_join hid, if_pos rfl]
  cases s.nodes.get? nodeId with
  | none =>
    have hload : (newNode now nodeId name capabilities load).load = load := rfl
    rw [joined, joined, hload]
    by_cases hnan : load = .nan
    · rw [if_pos hnan]
      exact iff_of_true rfl (Or.inr (Or.inr hnan))
    · rw [if_neg hnan, Option.map_some, Option.map_some, Option.some.injEq,
        unbeaten_rejoined_newNode, or_iff_left hnan]
      exact (or_iff_right Bool.false_ne_true).symm
  | some x =>
    refine iff_of_true ?_ (Or.inl rfl)
    rw [joined]
    by_cases hnan : x.load = .nan
    · rw [if_pos hnan, joined, if_pos hnan]
    · have hnum : (rejoined now capabilities x).load ≠ .nan := fun h => by cases h
      rw [if_neg hnan, joined, if_neg hnum, Option.map_some, Option.map_some, unbeaten_rejoined]

end StoreManager

/-- **Joining twice** leaves what joining once does, heartbeats apart, exactly if the node was
there before or its load is 0, or NaN and the store a database, which then refuses the second
call. -/
theorem join_idempotent_iff (state : ClusterState) (store : ClusterStore) (now later : Time)
    {nodeId : NodeId} (hid : nodeId ≠ "") (name : String) (capabilities : List Capability)
    (load : Load) :
    (SameRecords
        (NodeManager.joinState (NodeManager.joinState state now nodeId name capabilities load)
          later nodeId name capabilities load).nodes
        (NodeManager.joinState state now nodeId name capabilities load).nodes ↔
      (state.nodes.get? nodeId).isSome ∨ load = .num 0) ∧
    (SameRecords
        (StoreManager.join (StoreManager.join store now nodeId name capabilities load).2
          later nodeId name capabilities load).2.nodes
        (StoreManager.join store now nodeId name capabilities load).2.nodes ↔
      (store.nodes.get? nodeId).isSome ∨ load = .num 0 ∨ load = .nan) :=
  ⟨NodeManager.joinTwice_iff state hid, StoreManager.joinTwice_iff store hid⟩

/-- `join_idempotent_iff` for an idle node that is new to both stores. -/
theorem join_idempotent_idle :
    (SameRecords
        (NodeManager.joinState (NodeManager.joinState {} 1 "n1" "worker" [] (.num 0)) 2 "n1"
          "worker" [] (.num 0)).nodes
        (NodeManager.joinState {} 1 "n1" "worker" [] (.num 0)).nodes ↔
      ((({} : ClusterState).nodes.get? "n1").isSome ∨ Load.num 0 = .num 0)) ∧
    (SameRecords
        (StoreManager.join (StoreManager.join {} 1 "n1" "worker" [] (.num 0)).2 2 "n1" "worker"
          [] (.num 0)).2.nodes
        (StoreManager.join {} 1 "n1" "worker" [] (.num 0)).2.nodes ↔
      ((({} : ClusterStore).nodes.get? "n1").isSome ∨ Load.num 0 = .num 0 ∨
        Load.num 0 = .nan)) :=
  join_idempotent_iff {} {} 1 2 (by decide) "worker" [] (.num 0)

/-- A busy node that joins a second time counts as idle. -/
theorem join_resets_load :
    ¬ SameRecords
        (NodeManager.joinState (NodeManager.joinState {} 1 "n1" "worker" ["gpu"] (.num 1))
          2 "n1" "worker" ["gpu"] (.num 1)).nodes
        (NodeManager.joinState {} 1 "n1" "worker" ["gpu"] (.num 1)).nodes ∧
      ¬ SameRecords
        (StoreManager.join (StoreManager.join {} 1 "n1" "worker" ["gpu"] (.num 1)).2
          2 "n1" "worker" ["gpu"] (.num 1)).2.nodes
        (StoreManager.join {} 1 "n1" "worker" ["gpu"] (.num 1)).2.nodes := by
  refine ⟨fun h => ?_, fun h => ?_⟩
  · exact absurd (h "n1") (by decide +kernel)
  · exact absurd (h "n1") (by decide +kernel)

end Twice

end HermesCluster
