import HermesCluster.Sync.FullState

/-!
# Stale snapshots

`receive_full_state` takes a node of the snapshot over the local record when its load is at
least the local one: the load stands for how recent a record is.  A load goes up and down, so
a record of an earlier heartbeat may replace a later one, and a node the local watchdog has
marked offline is online again.

* `get?_receiveFullState_nodes`: the record a snapshot with distinct ids leaves of each node.
* `never_rolled_back_iff`: no record is replaced by one with an older heartbeat exactly when
  each record of the snapshot that has the load to be taken over has no older heartbeat.
-/

namespace HermesCluster

open ClusterStore

/-- The instant of a clock reading; a naive one is UTC, as `datetime.utcnow()` is. -/
def DateTime.instant (t : DateTime) : Time := t.wall - t.utcOffset.getD 0

namespace SyncReceiver

instance : Keyed NodeData NodeId := ⟨NodeData.id⟩

variable {s : ClusterStore} {d : NodeData} {node old : Node}

/-- What the merge of a dictionary leaves where `old` was. -/
def mergedNode (d : NodeData) (old : Option Node) : Option Node :=
  match d.node, old with
  | .error _, _ => old
  | .ok node, none => some node
  | .ok node, some existing => if existing.load.le node.load then some node else some existing

theorem node_ok (h : d.node = .ok node) :
    node.id = d.id ∧ node.load = d.load ∧ node.lastHeartbeat = d.lastHeartbeat := by
  rw [NodeData.node] at h
  cases hst : NodeStatus.ofValue d.status with
  | error e => rw [hst] at h; cases h
  | ok status =>
    rw [hst] at h
    cases h
    exact ⟨rfl, rfl, rfl⟩

theorem get?_registerNode (s : ClusterStore) (node : Node) (k : NodeId) :
    (s.registerNode node).nodes.get? k = if k = node.id then some node else s.nodes.get? k :=
  Table.get?_replaceInto s.nodes node k

/-- A record of a node that does not decode, its load being NaN, is kept. -/
theorem mergedNode_of_nan (h : old.load = .nan) : mergedNode d (some old) = some old := by
  cases hd : d.node with
  | error e => simp only [mergedNode, hd]
  | ok node =>
    have hle : old.load.le node.load = false := by rw [h, Load.le]; intro a b ha; cases ha
    simp only [mergedNode, hd, hle, Bool.false_eq_true, if_false]

/-- One turn of the loop over the nodes. -/
theorem get?_mergeNode (s : ClusterStore) (d : NodeData) (k : NodeId) :
    (mergeNode s d).2.nodes.get? k =
      if k = d.id then mergedNode d (s.nodes.get? k) else s.nodes.get? k := by
  -- a merge that keeps the record leaves the table alone
  have hkeep : ∀ {o : Option Node}, s.nodes.get? d.id = o → mergedNode d o = o →
      s.nodes.get? k = if k = d.id then mergedNode d (s.nodes.get? k) else s.nodes.get? k := by
    intro o ho hm
    by_cases hk : k = d.id
    · rw [if_pos hk, hk, ho, hm]
    · rw [if_neg hk]
  -- a merge that registers the node writes its record
  have hwrite : ∀ {node o}, d.node = .ok node → s.nodes.get? d.id = o →
      mergedNode d o = some node → (s.registerNode node).nodes.get? k =
        if k = d.id then mergedNode d (s.nodes.get? k) else s.nodes.get? k := by
    intro node o hd ho hm
    rw [get?_registerNode, (node_ok hd).1]
    by_cases hk : k = d.id
    · rw [if_pos hk, if_pos hk, hk, ho, hm]
    · rw [if_neg hk, if_neg hk]
  cases hd : d.node with
  | error e =>
    simp only [mergeNode, hd]
    exact hkeep rfl (by simp only [mergedNode, hd])
  | ok node =>
    have hid := (node_ok hd).1
    cases ho : s.nodes.get? d.id with
    | none =>
      have hget : s.getNode d.id = .ok none := by rw [getNode, ho]
      simp only [mergeNode, hd, hid, hget]
      exact hwrite hd ho (by simp only [mergedNode, hd])
    | some old =>
      by_cases hnan : old.load = .nan
      · simp only [mergeNode, hd, hid, getNode_of_nan ho hnan]
        exact hkeep ho (mergedNode_of_nan hnan)
      · simp only [mergeNode, hd, hid, getNode_of_some ho hnan]
        by_cases hle : old.load.le node.load = true
        · rw [if_pos hle]
          exact hwrite hd ho (by simp only [mergedNode, hd, if_pos hle])
        · rw [if_neg hle]
          exact hkeep ho (by simp only [mergedNode, hd, if_neg hle])

/-- The record a snapshot with distinct ids leaves of a node: of those it names, what the
merge makes of the local record, and of the others that record. -/
theorem get?_receiveFullState_nodes {snap : FullState}
    (hids : (snap.nodes.map NodeData.id).Nodup) (r : SyncReceiver) (now : Time) (k : NodeId) :
    (r.receiveFullState now snap).2.store.nodes.get? k =
      (snap.nodes.find? (fun d => d.id = k)).elim (r.store.nodes.get? k)
        (fun d => mergedNode d (r.store.nodes.get? k)) := by
  rw [store_receiveFullState, nodes_foldl_mergeTask]
  refine (Table.look_foldl_keyed (I := fun _ => True) (fun s k => s.nodes.get? k)
    (fun s d => (mergeNode s d).2) NodeData.id mergedNode (fun _ _ _ => trivial)
    (fun s d k _ => get?_mergeNode s d k) _ hids _ trivial k).trans ?_
  cases snap.nodes.find? (fun d => d.id = k) with
  | none => rfl
  | some d => rfl

/-- What is known of a node goes back nowhere: its record is not replaced by one with an
older heartbeat, and an offline node that the snapshot shows at an older heartbeat stays
offline. -/
def NeverRolledBack (r : SyncReceiver) (now : Time) (snap : FullState) : Prop :=
  (∀ k old new, r.store.nodes.get? k = some old →
    (r.receiveFullState now snap).2.store.nodes.get? k = some new →
    ¬ new.lastHeartbeat.instant < old.lastHeartbeat.instant) ∧
  ∀ d ∈ snap.nodes, ∀ old new, r.store.nodes.get? d.id = some old →
    (r.receiveFullState now snap).2.store.nodes.get? d.id = some new →
    d.lastHeartbeat.instant < old.lastHeartbeat.instant → old.status = .offline →
    new.status = .offline

/-- A record of the snapshot that has the load to be taken over the local one has no older
heartbeat. -/
def LoadTellsAge (r : SyncReceiver) (snap : FullState) : Prop :=
  ∀ d ∈ snap.nodes, (NodeStatus.ofValue d.status).isOk → ∀ old,
    r.store.nodes.get? d.id = some old → old.load.le d.load = true →
    ¬ d.lastHeartbeat.instant < old.lastHeartbeat.instant

theorem isOk_of_node (h : d.node = .ok node) : (NodeStatus.ofValue d.status).isOk := by
  rw [NodeData.node] at h
  cases hst : NodeStatus.ofValue d.status with
  | error e => rw [hst] at h; cases h
  | ok status => rfl

theorem node_of_isOk (h : (NodeStatus.ofValue d.status).isOk) : ∃ node, d.node = .ok node := by
  cases hst : NodeStatus.ofValue d.status with
  | error e => rw [hst] at h; cases h
  | ok status => rw [NodeData.node, hst]; exact ⟨_, rfl⟩

/-- A merged record is the old one, or that of the dictionary, which then has the load. -/
theorem mergedNode_cases {new : Node} (h : mergedNode d (some old) = some new) :
    new = old ∨ d.node = .ok new ∧ old.load.le d.load = true := by
  cases hd : d.node with
  | error e =>
    simp only [mergedNode, hd] at h
    exact .inl (Option.some.inj h).symm
  | ok node =>
    simp only [mergedNode, hd] at h
    by_cases hle : old.load.le node.load = true
    · rw [if_pos hle] at h
      obtain rfl := Option.some.inj h
      exact .inr ⟨rfl, (node_ok hd).2.1 ▸ hle⟩
    · rw [if_neg hle] at h
      exact .inl (Option.some.inj h).symm

/-- **Stale snapshots.**  A snapshot with distinct node ids rolls no node back exactly when
the load of each of its records tells the age of its heartbeat. -/
theorem never_rolled_back_iff (r : SyncReceiver) (now : Time) (snap : FullState)
    (hids : (snap.nodes.map NodeData.id).Nodup) :
    r.NeverRolledBack now snap ↔ r.LoadTellsAge snap := by
  have hfind : ∀ d ∈ snap.nodes, snap.nodes.find? (fun x => x.id = d.id) = some d :=
    fun d hd => Table.find?_key_of_mem hids hd
  have hafter : ∀ d ∈ snap.nodes, (r.receiveFullState now snap).2.store.nodes.get? d.id =
      mergedNode d (r.store.nodes.get? d.id) := by
    intro d hd
    rw [get?_receiveFullState_nodes hids, hfind d hd]
    rfl
  refine ⟨?_, ?_⟩
  · rintro ⟨hback, -⟩ d hd hok old hold hle
    obtain ⟨node, hnode⟩ := node_of_isOk hok
    obtain ⟨-, hload, hbeat⟩ := node_ok hnode
    have hnew : (r.receiveFullState now snap).2.store.nodes.get? d.id = some node := by
      rw [hafter d hd, hold]
      simp only [mergedNode, hnode, hload, if_pos hle]
    have := hback d.id old node hold hnew
    rwa [hbeat] at this
  · intro h
    -- a replaced record has no older heartbeat
    have hone : ∀ d ∈ snap.nodes, ∀ old new, r.store.nodes.get? d.id = some old →
        (r.receiveFullState now snap).2.store.nodes.get? d.id = some new →
        new = old ∨ new.lastHeartbeat = d.lastHeartbeat ∧
          ¬ d.lastHeartbeat.instant < old.lastHeartbeat.instant := by
      intro d hd old new hold hnew
      rw [hafter d hd, hold] at hnew
      rcases mergedNode_cases hnew with heq | ⟨hnode, hle⟩
      · exact .inl heq
      · exact .inr ⟨(node_ok hnode).2.2, h d hd (isOk_of_node hnode) old hold hle⟩
    refine ⟨?_, ?_⟩
    · intro k old new hold hnew
      cases hf : snap.nodes.find? (fun d => d.id = k) with
      | none =>
        rw [get?_receiveFullState_nodes hids, hf, Option.elim_none, hold] at hnew
        rw [Option.some.inj hnew]
        exact lt_irrefl _
      | some d =>
        have hk : d.id = k := by simpa using List.find?_some hf
        rw [← hk] at hold hnew
        rcases hone d (List.mem_of_find?_eq_some hf) old new hold hnew with rfl | ⟨hbeat, hage⟩
        · exact lt_irrefl _
        · rw [hbeat]
          exact hage
    · intro d hd old new hold hnew hstale hoff
      rcases hone d hd old new hold hnew with rfl | ⟨-, hage⟩
      · exact hoff
      · exact absurd hstale hage

/-- A snapshot of one node. -/
def oneNode (beat : Time) (load : Load) : FullState where
  nodeId := "b"
  syncVersion := 0
  timestamp := 7
  nodes := [{ id := "n1", name := "worker", capabilities := [], status := "online"
              lastHeartbeat := ⟨beat, none⟩, load := load }]
  tasks := []

/-- Node n1 is known to be offline since its heartbeat at 10. -/
def offlineKnown : SyncReceiver where
  store :=
    { nodes := Table.empty.put { id := "n1", name := "worker", status := .offline,
                                 lastHeartbeat := ⟨10, none⟩ } }

theorem never_rolled_back_newer :
    offlineKnown.NeverRolledBack 20 (oneNode 15 (.num 0)) :=
  (never_rolled_back_iff offlineKnown 20 (oneNode 15 (.num 0)) (by decide)).mpr fun d hd => by
    obtain rfl := List.mem_singleton.mp hd
    intro _ old hold _
    obtain rfl := Option.some.inj hold
    decide

/-- A snapshot with the heartbeat of 5 makes n1 online again. -/
theorem rolled_back :
    ((oneNode 5 (.num 0)).nodes.map NodeData.id).Nodup ∧
      ¬ offlineKnown.NeverRolledBack 20 (oneNode 5 (.num 0)) := by
  refine ⟨by decide, fun h => ?_⟩
  have hafter : (offlineKnown.receiveFullState 20 (oneNode 5 (.num 0))).2.store.nodes.get? "n1" =
      some { id := "n1", name := "worker", status := .online, lastHeartbeat := ⟨5, none⟩ } := by
    decide
  exact h.1 "n1" _ _ rfl hafter (by decide)

end SyncReceiver

end HermesCluster
