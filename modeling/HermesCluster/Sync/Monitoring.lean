import HermesCluster.Lib.Run
import HermesCluster.Core.StoreManager
import HermesCluster.Core.Watchdog
import HermesCluster.Sync.StaleSnapshot

/-!
# What stops the watchdog

`_check` of the watchdog over the node table of a `ClusterStore`, through the registry of
`NodeManager`.  It reads every node first, which raises on a load that is NaN, and then
subtracts each heartbeat from a naive clock, which raises on one with a UTC offset.  The loop
of the watchdog's thread has no handler for either.

* `monitored_iff`: a check completes and gives each node the status of its age exactly if every
  record is `Usable`.
* `watchdog_unstopped_iff`: along a run of joins, heartbeats and snapshots it always completes,
  between two nodes of a snapshot too, exactly if every record written is usable.

The callback, whose exceptions are caught and which writes no node, is left out.
-/

namespace HermesCluster

open ClusterStore Run

namespace Watchdog

/-! ### A check over the database -/

/-- The rows `get_all_heartbeat_nodes` lists. -/
def storeHeartbeatNodes (s : ClusterStore) : Except PyError (List HeartbeatNode) :=
  s.getAllNodes.map (List.map heartbeatNode)

/-- `update_node_status`; a text that is no `NodeStatus` counts as offline. -/
def updateStoreStatus (s : ClusterStore) (nodeId : NodeId) (status : String) :
    Except PyError Bool × ClusterStore :=
  match NodeStatus.ofValue status with
  | .ok status => StoreManager.setStatus s nodeId status
  | .error _ => StoreManager.setStatus s nodeId .offline

/-- The body of the loop of `_check`. -/
def checkStoreNode (w : Watchdog) (now : Time) (s : ClusterStore) (node : HeartbeatNode) :
    Except PyError (List WatchdogEvent) × ClusterStore :=
  match node.lastHeartbeat.since now with
  | .error e => (.error e, s)
  | .ok elapsed =>
    let status := w.newStatus elapsed
    if status ≠ node.status then
      match updateStoreStatus s node.id status with
      | (.error e, s) => (.error e, s)
      | (.ok _, s) => (.ok [⟨node.id, status⟩], s)
    else (.ok [], s)

/-- The loop of `_check`. -/
def checkStoreNodes (w : Watchdog) (now : Time) : List HeartbeatNode → ClusterStore →
    Except PyError (List WatchdogEvent) × ClusterStore
  | [], s => (.ok [], s)
  | node :: nodes, s =>
    match w.checkStoreNode now s node with
    | (.error e, s) => (.error e, s)
    | (.ok events, s) =>
      let (result, s) := w.checkStoreNodes now nodes s
      (result.map (events ++ ·), s)

def checkStore (w : Watchdog) (now : Time) (s : ClusterStore) :
    Except PyError (List WatchdogEvent) × ClusterStore :=
  match storeHeartbeatNodes s with
  | .error e => (.error e, s)
  | .ok nodes => w.checkStoreNodes now nodes s

/-! ### When it completes -/

/-- The record can be read, and its age told. -/
def Usable (x : Node) : Prop := x.lastHeartbeat.utcOffset = none ∧ x.load ≠ .nan

variable {w : Watchdog} {now : Time} {s : ClusterStore}

/-- A usable node gets the status of its age. -/
theorem checkStoreNode_usable (w : Watchdog) (now : Time) {x : Node}
    (hx : s.nodes.get? x.id = some x) (hu : Usable x) :
    ∃ events s', w.checkStoreNode now s (heartbeatNode x) = (.ok events, s') ∧
      ∀ k, s'.nodes.get? k =
        if k = x.id then (s.nodes.get? k).map (w.checked now) else s.nodes.get? k := by
  have hsince : x.lastHeartbeat.since now = .ok (now - x.lastHeartbeat.wall) := by
    rw [DateTime.since, hu.1]
  have hread : s.getNode x.id = .ok (some x) := getNode_of_some hx hu.2
  have hone : w.checkStoreNode now s (heartbeatNode x) =
      if (w.statusAt now x).value ≠ x.status.value then
        match StoreManager.setStatus s x.id (w.statusAt now x) with
        | (.error e, s) => (.error e, s)
        | (.ok _, s) => (.ok [⟨x.id, (w.statusAt now x).value⟩], s)
      else (.ok [], s) := by
    rw [checkStoreNode]
    simp only [heartbeatNode, hsince, newStatus_eq, updateStoreStatus, NodeStatus.ofValue_value]
  rw [hone]
  by_cases h : w.statusAt now x = x.status
  · have hsame : w.checked now x = x := by rw [checked, h]
    refine ⟨[], s, if_neg (not_not.mpr (congrArg NodeStatus.value h)), fun k => ?_⟩
    by_cases hk : k = x.id
    · rw [if_pos hk, hk, hx, Option.map_some, hsame]
    · rw [if_neg hk]
  · have hset : StoreManager.setStatus s x.id (w.statusAt now x) =
        (.ok true, s.setNodeStatus x.id (w.statusAt now x)) := by
      rw [StoreManager.setStatus, hread]
      exact if_neg (Ne.symm h)
    refine ⟨[⟨x.id, (w.statusAt now x).value⟩], s.setNodeStatus x.id (w.statusAt now x), ?_,
      fun k => ?_⟩
    · rw [if_pos fun hv => h (value_injective hv), hset]
    · rw [StoreManager.get?_setNodeStatus]
      by_cases hk : k = x.id
      · rw [if_pos hk, if_pos hk, hk, hx]
        rfl
      · rw [if_neg hk, if_neg hk]

variable (w now) in
/-- The loop over usable nodes that are in the store as listed. -/
theorem checkStoreNodes_usable : ∀ (l : List Node) (s : ClusterStore), (l.map Node.id).Nodup →
    (∀ x ∈ l, s.nodes.get? x.id = some x ∧ Usable x) →
    (∃ events, (w.checkStoreNodes now (l.map heartbeatNode) s).1 = .ok events) ∧
    ∀ k, (w.checkStoreNodes now (l.map heartbeatNode) s).2.nodes.get? k =
      if k ∈ l.map Node.id then (s.nodes.get? k).map (w.checked now) else s.nodes.get? k := by
  intro l
  induction l with
  | nil =>
    intro s _ _
    exact ⟨⟨[], rfl⟩, fun k => (if_neg List.not_mem_nil).symm⟩
  | cons a l ih =>
    intro s hnodup hcurrent
    rw [List.map_cons, List.nodup_cons] at hnodup
    obtain ⟨ha, hu⟩ := hcurrent a List.mem_cons_self
    obtain ⟨events, s', hone, hget⟩ := checkStoreNode_usable w now ha hu
    have hrest : ∀ x ∈ l, s'.nodes.get? x.id = some x ∧ Usable x := by
      intro x hx
      have hne : x.id ≠ a.id := fun hid => hnodup.1 (hid ▸ List.mem_map_of_mem hx)
      rw [hget, if_neg hne]
      exact hcurrent x (List.mem_cons_of_mem a hx)
    obtain ⟨⟨more, hmore⟩, hafter⟩ := ih s' hnodup.2 hrest
    rw [List.map_cons, checkStoreNodes, hone]
    refine ⟨⟨events ++ more, ?_⟩, fun k => ?_⟩
    · dsimp only
      rw [hmore]
      rfl
    · refine (hafter k).trans ?_
      rw [hget]
      by_cases hk : k = a.id
      · have hmem : k ∈ (a :: l).map Node.id := hk ▸ List.mem_cons_self
        rw [if_neg (hk ▸ hnodup.1), if_pos hk, if_pos hmem]
      · simp only [List.map_cons, List.mem_cons, hk, false_or, if_false]

/-- A loop that completes has found no UTC offset. -/
theorem naive_of_checkStoreNodes : ∀ (l : List Node) (s : ClusterStore)
    {events : List WatchdogEvent},
    (w.checkStoreNodes now (l.map heartbeatNode) s).1 = .ok events →
    ∀ x ∈ l, x.lastHeartbeat.utcOffset = none := by
  intro l
  induction l with
  | nil => intro s events _ x hx; cases hx
  | cons a l ih =>
    intro s events h
    rw [List.map_cons, checkStoreNodes] at h
    rcases hone : w.checkStoreNode now s (heartbeatNode a) with ⟨e | first, s'⟩
    · rw [hone] at h
      cases h
    · rw [hone] at h
      dsimp only at h
      rcases hrest : w.checkStoreNodes now (l.map heartbeatNode) s' with ⟨e | more, s''⟩
      · rw [hrest] at h
        cases h
      · rw [List.forall_mem_cons]
        refine ⟨?_, ih s' (congrArg Prod.fst hrest)⟩
        cases ho : a.lastHeartbeat.utcOffset with
        | none => rfl
        | some offset =>
          have hsince : a.lastHeartbeat.since now = .error .typeError := by
            rw [DateTime.since, ho]
          simp only [checkStoreNode, heartbeatNode, hsince] at hone
          cases hone

/-- Whatever the thresholds and the clock, a check completes and gives every node the status
of its age. -/
def Monitored (s : ClusterStore) : Prop :=
  ∀ (w : Watchdog) (now : Time), (∃ events, (w.checkStore now s).1 = .ok events) ∧
    ∀ k, (w.checkStore now s).2.nodes.get? k = (s.nodes.get? k).map (w.checked now)

/-- Every record is usable. -/
def AllUsable (s : ClusterStore) : Prop := ∀ k x, s.nodes.get? k = some x → Usable x

/-- **A check completes** exactly if every record is usable. -/
theorem monitored_iff : Monitored s ↔ AllUsable s := by
  refine ⟨fun h k x hx => ?_, fun h w now => ?_⟩
  · obtain ⟨⟨events, hev⟩, -⟩ := h {} 0
    have hmem := Table.mem_of_get? hx
    rw [checkStore, storeHeartbeatNodes] at hev
    cases hall : s.getAllNodes with
    | error e =>
      rw [hall] at hev
      cases hev
    | ok nodes =>
      have hload := mapM_rowToNode_iff.mp ⟨nodes, hall⟩
      have hnodes : s.getAllNodes = .ok s.nodes.rows := mapM_rowToNode_ok hload
      rw [hnodes] at hev
      exact ⟨naive_of_checkStoreNodes s.nodes.rows s hev x hmem, hload x hmem⟩
  · have hrow : ∀ x ∈ s.nodes.rows, s.nodes.get? x.id = some x ∧ Usable x := by
      intro x hx
      have hget : s.nodes.get? x.id = some x := Table.get?_of_mem hx
      exact ⟨hget, h x.id x hget⟩
    have hnodes : storeHeartbeatNodes s = .ok (s.nodes.rows.map heartbeatNode) := by
      rw [storeHeartbeatNodes, getAllNodes, mapM_rowToNode_ok fun x hx => (hrow x hx).2.2]
      rfl
    obtain ⟨hok, hget⟩ := checkStoreNodes_usable w now s.nodes.rows s s.nodes.nodup hrow
    rw [checkStore, hnodes]
    refine ⟨hok, fun k => (hget k).trans ?_⟩
    by_cases hk : k ∈ s.nodes.rows.map Node.id
    · rw [if_pos hk]
    · rw [if_neg hk]
      have hnone : s.nodes.get? k = none := by
        refine Option.eq_none_iff_forall_ne_some.mpr fun x hx => ?_
        exact hk (List.mem_map.mpr ⟨x, Table.mem_of_get? hx, Table.key_of_get? hx⟩)
      rw [hnone]
      rfl

/-- Where only the record of `n` changes, that record decides. -/
theorem allUsable_iff_of_frame {s' : ClusterStore} {n : NodeId} (hs : AllUsable s)
    (h : ∀ k, k ≠ n → s'.nodes.get? k = s.nodes.get? k) :
    AllUsable s' ↔ ∀ x, s'.nodes.get? n = some x → Usable x := by
  refine ⟨fun hall => hall n, fun hn k x hx => ?_⟩
  by_cases hk : k = n
  · rw [hk] at hx
    exact hn x hx
  · rw [h k hk] at hx
    exact hs k x hx

end Watchdog

/-! ### What writes a heartbeat -/

open Watchdog SyncReceiver

/-- A call that registers nodes or writes heartbeats. -/
inductive NodeCall
  | join (nodeId : NodeId) (name : String) (capabilities : List Capability) (load : Load)
  | sendHeartbeat (nodeId : NodeId) (load : Load)
  | receiveFullState (snap : FullState)

namespace NodeCall

/-- One turn of the loop over the nodes of a snapshot. -/
def merge (s : ClusterStore) (d : NodeData) : ClusterStore := (mergeNode s d).2

/-- One call at a clock reading. -/
def step (s : ClusterStore) : Time × NodeCall → ClusterStore
  | (now, .join nodeId name capabilities load) =>
    (StoreManager.join s now nodeId name capabilities load).2
  | (now, .sendHeartbeat nodeId load) => (StoreManager.sendHeartbeat s now nodeId load).2
  | (now, .receiveFullState snap) =>
    (SyncReceiver.receiveFullState { store := s } now snap).2.store

/-- The watchdog can check between any two nodes of a snapshot. -/
def MonitoredWithin (s : ClusterStore) : Time × NodeCall → Prop
  | (_, .receiveFullState snap) => Always merge Monitored s snap.nodes
  | _ => True

/-- A node of a snapshot whose load is high enough to be taken is usable. -/
def TakesUsable (s : ClusterStore) (d : NodeData) : Prop :=
  ∀ node, d.node = .ok node →
    (∀ x, s.nodes.get? node.id = some x → x.load.le node.load = true) → Usable node

/-- A node that is new joins with a load, and the nodes of a snapshot that are taken are
usable. -/
def WritesUsable (s : ClusterStore) : Time × NodeCall → Prop
  | (_, .join nodeId _ _ load) => nodeId ≠ "" → s.nodes.get? nodeId = none → load ≠ .nan
  | (_, .sendHeartbeat _ _) => True
  | (_, .receiveFullState snap) => EachStep merge TakesUsable s snap.nodes

variable {s : ClusterStore} {now : Time} {nodeId : NodeId} {load : Load}

theorem usable_rejoined (capabilities : List Capability) (x : Node) :
    Usable (StoreManager.rejoined now capabilities x) :=
  ⟨rfl, fun h => by cases h⟩

theorem allUsable_join (hs : AllUsable s) (name : String) (capabilities : List Capability) :
    AllUsable (StoreManager.join s now nodeId name capabilities load).2 ↔
      (nodeId ≠ "" → s.nodes.get? nodeId = none → load ≠ .nan) := by
  by_cases hid : nodeId = ""
  · rw [StoreManager.join, if_pos hid]
    exact iff_of_true hs fun h => absurd hid h
  · rw [allUsable_iff_of_frame hs fun k hk => (StoreManager.get?_join hid).trans (if_neg hk),
      StoreManager.get?_join hid, if_pos rfl]
    cases hx : s.nodes.get? nodeId with
    | none =>
      rw [StoreManager.joined]
      refine ⟨fun h _ _ => (h _ rfl).2, fun h x hx' => ?_⟩
      cases hx'
      exact ⟨rfl, h hid rfl⟩
    | some x =>
      have hu := hs nodeId x hx
      rw [StoreManager.joined, if_neg hu.2]
      refine iff_of_true (fun y hy => ?_) fun _ h => by cases h
      cases hy
      exact usable_rejoined capabilities x

theorem clamp_ne_nan (load : Load) : NodeManager.clamp load ≠ .nan := by
  rw [NodeManager.clamp]
  split
  · split
    · intro h
      rename_i hlt
      rw [h] at hlt
      cases hlt
    · intro h
      cases h
  · split
    · intro h
      cases h
    · intro h
      cases h

theorem allUsable_sendHeartbeat (hs : AllUsable s) :
    AllUsable (StoreManager.sendHeartbeat s now nodeId load).2 := by
  rw [StoreManager.sendHeartbeat]
  cases hx : s.nodes.get? nodeId with
  | none =>
    rw [getNode, hx]
    exact hs
  | some x =>
    rw [getNode_of_some hx (hs nodeId x hx).2]
    refine (allUsable_iff_of_frame hs fun k hk =>
      StoreManager.get?_updateHeartbeat.trans (if_neg hk)).mpr fun y hy => ?_
    rw [StoreManager.get?_updateHeartbeat, if_pos rfl, hx] at hy
    cases hy
    exact ⟨rfl, clamp_ne_nan load⟩

theorem allUsable_merge (hs : AllUsable s) (d : NodeData) :
    AllUsable (merge s d) ↔ TakesUsable s d := by
  rw [merge, allUsable_iff_of_frame hs fun k hk => (get?_mergeNode s d k).trans (if_neg hk),
    get?_mergeNode, if_pos rfl, TakesUsable]
  cases hd : d.node with
  | error e =>
    refine iff_of_true (fun x hx => hs d.id x ?_) fun node h => by cases h
    simpa only [mergedNode, hd] using hx
  | ok node =>
    have hid := (node_ok hd).1
    simp only [Except.ok.injEq, forall_eq', hid]
    cases hx : s.nodes.get? d.id with
    | none =>
      simp only [mergedNode, hd, Option.some.injEq, forall_eq']
      exact ⟨fun h _ => h, fun h => h fun x hx => by cases hx⟩
    | some x =>
      simp only [mergedNode, hd, Option.some.injEq, forall_eq']
      by_cases hle : x.load.le node.load = true
      · rw [if_pos hle]
        simp only [Option.some.injEq, forall_eq', hle, forall_const]
      · rw [if_neg hle]
        refine iff_of_true (fun y hy => ?_) fun h => absurd h hle
        cases hy
        exact hs d.id _ hx

/-- The merges leave the node table that `receive_full_state` does. -/
theorem nodes_receiveFullState (snap : FullState) :
    (step s (now, .receiveFullState snap)).nodes = (exec merge s snap.nodes).nodes := by
  rw [step, store_receiveFullState, nodes_foldl_mergeTask]
  rfl

theorem allUsable_of_nodes {s' : ClusterStore} (h : s'.nodes = s.nodes) :
    AllUsable s' ↔ AllUsable s := by
  rw [AllUsable, AllUsable, h]

/-- The merges of a snapshot keep the watchdog going exactly if those taken are usable. -/
theorem monitoredWithin_iff (hs : AllUsable s) (snap : FullState) :
    Always merge Monitored s snap.nodes ↔ EachStep merge TakesUsable s snap.nodes :=
  always_iff_eachStep (I := AllUsable) (A := fun _ _ => True) (fun _ h => monitored_iff.mpr h)
    (fun _ d h _ => monitored_iff.trans (allUsable_merge h d))
    (fun _ _ _ _ h => monitored_iff.mp h) snap.nodes s hs fun _ _ _ => trivial

/-- **One call.** -/
theorem step_iff (hs : AllUsable s) (call : Time × NodeCall) :
    AllUsable (step s call) ∧ MonitoredWithin s call ↔ WritesUsable s call := by
  obtain ⟨now, call⟩ := call
  cases call with
  | join nodeId name capabilities load =>
    exact (and_iff_left trivial).trans (allUsable_join hs name capabilities)
  | sendHeartbeat nodeId load => exact iff_of_true ⟨allUsable_sendHeartbeat hs, trivial⟩ trivial
  | receiveFullState snap =>
    have hiff := monitoredWithin_iff hs snap
    rw [allUsable_of_nodes (nodes_receiveFullState snap), MonitoredWithin, WritesUsable, ← hiff]
    refine and_iff_right_of_imp fun h => ?_
    exact monitored_iff.mp (h snap.nodes (List.prefix_refl _))

/-- **The watchdog goes on** through a run exactly if the nodes are usable at its start and
every record written on the way is. -/
theorem watchdog_unstopped_iff (s : ClusterStore) (run : List (Time × NodeCall)) :
    Always step Monitored s run ∧ EachStep step MonitoredWithin s run ↔
      AllUsable s ∧ EachStep step WritesUsable s run := by
  induction run generalizing s with
  | nil =>
    rw [always_nil, monitored_iff]
    exact and_congr_right fun _ => iff_of_true (eachStep_nil s) (eachStep_nil s)
  | cons call run ih =>
    rw [always_cons, eachStep_cons, eachStep_cons, monitored_iff, and_assoc]
    refine and_congr_right fun hs => ?_
    rw [← step_iff hs call, and_left_comm, ih, and_left_comm, ← and_assoc]

/-- A snapshot of a node whose clock carries an offset. -/
def offsetSnapshot : FullState :=
  { nodeId := "node_b", syncVersion := 1, timestamp := 1, tasks := []
    nodes := [{ id := "node_b", name := "b", capabilities := [], status := "online"
                lastHeartbeat := ⟨1, some 0⟩, load := .num 0 }] }

/-- After such a snapshot a check raises, and after a join with a load that is NaN it raises
before it looks at any node. -/
theorem watchdog_stopped :
    (({} : Watchdog).checkStore 2 (step {} (1, .receiveFullState offsetSnapshot))).1 =
        .error .typeError ∧
      (({} : Watchdog).checkStore 2 (step {} (1, .join "n1" "" [] .nan))).1 =
        .error (.valueError "load should be a valid number") ∧
      ¬ Always step Monitored {} [(1, .receiveFullState offsetSnapshot)] := by
  have hcheck : (({} : Watchdog).checkStore 2
      (step {} (1, .receiveFullState offsetSnapshot))).1 = .error .typeError := by decide +kernel
  refine ⟨hcheck, by decide +kernel, fun h => ?_⟩
  obtain ⟨⟨events, hev⟩, -⟩ := h _ (List.prefix_refl _) {} 2
  have heq := hcheck.symm.trans hev
  cases heq

end NodeCall

end HermesCluster
