import HermesCluster.State.StoreSpec
import HermesCluster.Sync.Coordinator

/-!
# Full-state transfer

What `receive_full_state` makes of the snapshot `_build_full_state` takes of a store.
Both loops work on one row at a time (`get?_mergeTask`, `mergeNode_new`), so an empty
store gets, for each row of the snapshot, what the merge makes of it alone.

`full_state_faithful_iff`: the node table always arrives.  The task table does exactly
when every row is one that `create_task` and one `set_task_status` can rebuild.
-/

namespace HermesCluster

open ClusterStore

/-- What a row says of its task, the times left out. -/
structure TaskContent where
  id : TaskId
  title : String
  requires : List Capability
  dependsOn : List TaskId
  priority : Int
  status : String
  assignedTo : Option NodeId
  version : Int
  failReason : Option String
deriving DecidableEq, Repr

def TaskRow.content (r : TaskRow) : TaskContent :=
  { id := r.id, title := r.title, requires := r.requires, dependsOn := r.dependsOn,
    priority := r.priority, status := r.status, assignedTo := r.assignedTo,
    version := r.version, failReason := r.failReason }

/-- The dictionary of a task row that decodes. -/
def TaskRow.data (r : TaskRow) : TaskData :=
  { id := r.id, title := r.title, requires := r.requires, dependsOn := r.dependsOn,
    priority := r.priority, status := r.status, assignedTo := r.assignedTo,
    createdAt := r.createdAt, updatedAt := r.updatedAt, version := r.version,
    failReason := r.failReason }

/-! ### The snapshot -/

namespace SyncCoordinator

theorem mapM_rowToTask {rows : List TaskRow} {tasks : List Task}
    (h : rows.mapM rowToTask = .ok tasks) :
    tasks.map taskData = rows.map TaskRow.data ∧
      ∀ r ∈ rows, ∃ status : TaskStatus, r.status = status.value := by
  have hdec := mapM_rowToTask_iff.mp ⟨tasks, h⟩
  rw [mapM_rowToTask_ok hdec] at h
  rw [← Except.ok.inj h, List.map_map]
  refine ⟨List.map_congr_left fun r hr => ?_, fun r hr => ?_⟩
  · obtain ⟨status, hs, -⟩ := decodes_iff.mp (hdec r hr)
    rw [Function.comp_apply, readRow_of_status hs, taskData, TaskRow.data, hs]
    rfl
  · obtain ⟨status, hs, -⟩ := decodes_iff.mp (hdec r hr)
    exact ⟨status, hs⟩

/-- Node rows that all decode are the nodes they decode to. -/
theorem mapM_rowToNode {rows nodes : List Node} (h : rows.mapM rowToNode = .ok nodes) :
    nodes = rows := by
  rw [mapM_rowToNode_ok (mapM_rowToNode_iff.mp ⟨nodes, h⟩)] at h
  exact (Except.ok.inj h).symm

/-- A snapshot has the dictionaries of all nodes and of all task rows, which all decode. -/
theorem buildFullState_ok {c : SyncCoordinator} {timestamp : Int} {snap : FullState}
    (h : c.buildFullState timestamp = .ok snap) :
    snap.nodes = c.store.nodes.rows.map nodeData ∧
      snap.tasks = c.store.tasks.rows.map TaskRow.data ∧
      ∀ r ∈ c.store.tasks.rows, ∃ status : TaskStatus, r.status = status.value := by
  unfold buildFullState at h
  cases hn : c.store.getAllNodes with
  | error e => rw [hn] at h; cases h
  | ok nodes =>
    cases ht : c.store.getAllTasks with
    | error e => rw [hn, ht] at h; cases h
    | ok tasks =>
      rw [hn, ht] at h
      cases h
      exact ⟨by rw [mapM_rowToNode hn], mapM_rowToTask ht⟩

end SyncCoordinator

namespace SyncReceiver

/-! ### The loops -/

theorem store_mergeAll {δ : Type} (merge : ClusterStore → δ → Bool × ClusterStore)
    (s : ClusterStore) (l : List δ) :
    (mergeAll merge s l).2.2 = l.foldl (fun s d => (merge s d).2) s := by
  refine (List.foldl_hom (fun acc : Nat × Nat × ClusterStore => acc.2.2) fun acc d => ?_).symm
  rw [mergeOne]
  split
  · next h => rw [h]
  · next h => rw [h]

/-- The merge of a node that is not there registers it. -/
theorem mergeNode_new {s : ClusterStore} {n : Node} (h : s.nodes.get? n.id = none) :
    (mergeNode s (SyncCoordinator.nodeData n)).2 = s.registerNode n := by
  have hnode : (SyncCoordinator.nodeData n).node = .ok n := by
    rw [NodeData.node, SyncCoordinator.nodeData, NodeStatus.ofValue_value]; rfl
  simp only [mergeNode, hnode, getNode, h]

/-- Merging nodes that are not there appends them. -/
theorem foldl_mergeNode (l : List Node) (s : ClusterStore)
    (hnodup : ((s.nodes.rows ++ l).map Keyed.key).Nodup) :
    ((l.map SyncCoordinator.nodeData).foldl (fun s d => (mergeNode s d).2) s).nodes.rows =
        s.nodes.rows ++ l ∧
      ((l.map SyncCoordinator.nodeData).foldl (fun s d => (mergeNode s d).2) s).tasks =
        s.tasks := by
  induction l generalizing s with
  | nil => exact ⟨(List.append_nil _).symm, rfl⟩
  | cons n l ih =>
    have hnew : s.nodes.get? n.id = none := by
      rw [Table.get?_eq_none_iff]
      intro r hr hk
      rw [List.map_append, List.nodup_append] at hnodup
      exact hnodup.2.2 _ (List.mem_map_of_mem hr) _ (List.mem_map_of_mem List.mem_cons_self) hk
    have hrows : (s.registerNode n).nodes.rows = s.nodes.rows ++ [n] :=
      Table.rows_replaceInto_of_get?_none hnew
    have happ : (s.nodes.rows ++ [n]) ++ l = s.nodes.rows ++ n :: l := by simp
    rw [List.map_cons, List.foldl_cons, mergeNode_new hnew]
    have := ih (s.registerNode n) (by rw [hrows, happ]; exact hnodup)
    rwa [hrows, happ] at this

/-! ### The merge of a task -/

/-- The row `create_task` leaves of a new task. -/
def createdRow (now : Time) (d : TaskData) : TaskRow :=
  { id := d.id, title := d.title, requires := d.requires, priority := d.priority,
    status := TaskStatus.ready.value, createdAt := now, updatedAt := now, version := 1 }

/-- What the merge of a dictionary leaves where `old` was. -/
def mergedRow (now : Time) (d : TaskData) (old : Option TaskRow) : Option TaskRow :=
  match TaskStatus.ofValue d.status, old with
  | .error _, _ => old
  | .ok status, none =>
    if fits64 d.priority then
      some (if status = .pending then createdRow now d
        else withStatus now status "" (createdRow now d))
    else none
  | .ok status, some r =>
    if decodes r ∧ r.version < d.version then
      some (withStatus now status (d.failReason.getD "") r)
    else some r

theorem createTask_new {s : ClusterStore} {taskId : TaskId} {priority : Int} (now : Time)
    (title : String) (requires : List Capability) (hnew : s.tasks.get? taskId = none)
    (hfits : fits64 priority) :
    ∃ s', s.createTask now taskId title requires priority = .ok s' ∧ s'.nodes = s.nodes ∧
      ∀ k, s'.tasks.get? k = if k = taskId then
        some { id := taskId, title := title, requires := requires, priority := priority,
               status := TaskStatus.ready.value, createdAt := now, updatedAt := now,
               version := 1 }
        else s.tasks.get? k := by
  obtain ⟨s', hok, hnodes, hget⟩ := createTask_ok s now taskId title requires hfits
  refine ⟨s', hok, hnodes, fun k => (hget k).trans ?_⟩
  by_cases hk : k = taskId
  · rw [if_pos hk, if_pos hk, hk, hnew]
    rfl
  · rw [if_neg hk, if_neg hk]

/-- From `s` to `s'` the row of the dictionary's task is merged and nothing else changes. -/
def MergesTo (now : Time) (d : TaskData) (s s' : ClusterStore) : Prop :=
  s'.nodes = s.nodes ∧ ∀ k, s'.tasks.get? k =
    if k = d.id then mergedRow now d (s.tasks.get? k) else s.tasks.get? k

section Merge

variable {s : ClusterStore} {d : TaskData} {status : TaskStatus} {r : TaskRow}

/-- A merge that keeps the row may leave the store alone. -/
theorem mergesTo_self {now : Time} {old : Option TaskRow} (hget : s.tasks.get? d.id = old)
    (h : mergedRow now d old = old) : MergesTo now d s s := by
  refine ⟨rfl, fun k => ?_⟩
  by_cases hk : k = d.id
  · rw [if_pos hk, hk, hget, h]
  · rw [if_neg hk]

theorem task_ok (hst : TaskStatus.ofValue d.status = .ok status) :
    d.task = .ok { d with status := status } := by
  rw [TaskData.task, hst]; rfl

/-- A task the store does not have. -/
theorem mergesTo_new (now : Time) (hst : TaskStatus.ofValue d.status = .ok status)
    (hget : s.tasks.get? d.id = none) : MergesTo now d s (mergeTask s now d).2 := by
  have hnone : s.getTask d.id = .ok none := by rw [getTask, hget]
  by_cases hfits : fits64 d.priority = true
  · obtain ⟨s', hs', hnodes, htasks⟩ := createTask_new now d.title d.requires hget hfits
    have hrow : mergedRow now d none = some (if status = .pending then createdRow now d
        else withStatus now status "" (createdRow now d)) := by
      simp only [mergedRow, hst, if_pos hfits]
    simp only [mergeTask, task_ok hst, hnone, hs']
    by_cases hp : status = .pending
    · rw [if_pos hp] at hrow ⊢
      refine ⟨hnodes, fun k => (htasks k).trans ?_⟩
      by_cases hk : k = d.id
      · rw [if_pos hk, if_pos hk, hk, hget, hrow]; rfl
      · rw [if_neg hk, if_neg hk]
    · rw [if_neg hp] at hrow ⊢
      refine ⟨hnodes, fun k => (get?_setTaskStatus s' now d.id status "" k).trans ?_⟩
      rw [htasks]
      by_cases hk : k = d.id
      · rw [if_pos hk, if_pos hk, if_pos hk, hk, hget, hrow]; rfl
      · rw [if_neg hk, if_neg hk, if_neg hk]
  · have hcreate : s.createTask now d.id d.title d.requires d.priority =
        .error .overflowError := by rw [createTask, if_neg hfits]
    simp only [mergeTask, task_ok hst, hnone, hcreate]
    exact mergesTo_self hget (by simp only [mergedRow, hst, if_neg hfits])

/-- A task the store has. -/
theorem mergesTo_old (now : Time) (hst : TaskStatus.ofValue d.status = .ok status)
    (hget : s.tasks.get? d.id = some r) : MergesTo now d s (mergeTask s now d).2 := by
  cases hr : decodes r with
  | false =>
    obtain ⟨e, he⟩ := rowToTask_error hr
    have herr : s.getTask d.id = .error e := by simp only [getTask, hget, he]; rfl
    have hrow : mergedRow now d (some r) = some r := by
      simp only [mergedRow, hst, hr]
      exact if_neg fun h => Bool.false_ne_true h.1
    simp only [mergeTask, task_ok hst, herr]
    exact mergesTo_self hget hrow
  | true =>
    obtain ⟨old, hold, hfits⟩ := decodes_iff.mp hr
    have hok : s.getTask d.id = .ok (some (taskOf r old)) := by
      simp only [getTask, hget, rowToTask_ok hold hfits]; rfl
    have hver : (taskOf r old).version = r.version := rfl
    simp only [mergeTask, task_ok hst, hok, hver]
    by_cases hv : r.version < d.version
    · rw [if_pos hv]
      have hrow : mergedRow now d (some r) =
          some (withStatus now status (d.failReason.getD "") r) := by
        simp only [mergedRow, hst, hr]
        exact if_pos ⟨trivial, hv⟩
      refine ⟨rfl, fun k => (get?_setTaskStatus s now d.id status _ k).trans ?_⟩
      by_cases hk : k = d.id
      · rw [if_pos hk, if_pos hk, hk, hget, hrow]; rfl
      · rw [if_neg hk, if_neg hk]
    · rw [if_neg hv]
      exact mergesTo_self hget (by simp only [mergedRow, hst, hv, and_false, if_false])

theorem mergesTo_mergeTask (s : ClusterStore) (now : Time) (d : TaskData) :
    MergesTo now d s (mergeTask s now d).2 := by
  cases hst : TaskStatus.ofValue d.status with
  | error e =>
    have htask : d.task = .error e := by rw [TaskData.task, hst]; rfl
    simp only [mergeTask, htask]
    exact mergesTo_self rfl (by simp only [mergedRow, hst])
  | ok status =>
    cases hget : s.tasks.get? d.id with
    | none => exact mergesTo_new now hst hget
    | some r => exact mergesTo_old now hst hget

end Merge

/-! ### The whole transfer -/

theorem store_receiveFullState (r : SyncReceiver) (now : Time) (snap : FullState) :
    (r.receiveFullState now snap).2.store =
      snap.tasks.foldl (fun s d => (mergeTask s now d).2)
        (snap.nodes.foldl (fun s d => (mergeNode s d).2) r.store) := by
  show (mergeAll (fun s d => mergeTask s now d) (mergeAll mergeNode r.store snap.nodes).2.2
    snap.tasks).2.2 = _
  rw [store_mergeAll, store_mergeAll]

theorem nodes_foldl_mergeTask (now : Time) (l : List TaskData) (s : ClusterStore) :
    (l.foldl (fun s d => (mergeTask s now d).2) s).nodes = s.nodes :=
  Run.exec_keeps ClusterStore.nodes (fun s d => (mergesTo_mergeTask s now d).1) l s

/-- An empty store gets the nodes, and of each task what the merge makes of a new row. -/
theorem receiveFullState_empty {c : SyncCoordinator} {timestamp : Int} {snap : FullState}
    (hsnap : c.buildFullState timestamp = .ok snap) {r : SyncReceiver} (now : Time)
    (hnodes : r.store.nodes = Table.empty) (htasks : r.store.tasks = Table.empty) :
    (r.receiveFullState now snap).2.store.nodes = c.store.nodes ∧
      ∀ k, (r.receiveFullState now snap).2.store.tasks.get? k =
        (c.store.tasks.get? k).bind fun row => mergedRow now row.data none := by
  obtain ⟨hn, ht, -⟩ := SyncCoordinator.buildFullState_ok hsnap
  have hempty : r.store.nodes.rows = [] := by rw [hnodes]; rfl
  obtain ⟨hnode, htask⟩ := foldl_mergeNode c.store.nodes.rows r.store (by
    rw [hempty]; exact c.store.nodes.nodup)
  rw [store_receiveFullState, hn, ht]
  refine ⟨?_, ?_⟩
  · rw [nodes_foldl_mergeTask]
    apply Table.ext
    rw [hnode, hempty]
    rfl
  · intro k
    have hkeys : (c.store.tasks.rows.map TaskRow.data).map TaskData.id =
        c.store.tasks.rows.map Keyed.key := by rw [List.map_map]; rfl
    have hfind : (c.store.tasks.rows.map TaskRow.data).find? (fun d => d.id = k) =
        (c.store.tasks.get? k).map TaskRow.data := List.find?_map
    refine (Table.look_foldl_keyed (I := fun _ => True) (fun s k => s.tasks.get? k)
      (fun s d => (mergeTask s now d).2) TaskData.id (mergedRow now) (fun _ _ _ => trivial)
      (fun s d k _ => (mergesTo_mergeTask s now d).2 k) _ ?_ _ trivial k).trans ?_
    · rw [hkeys]
      exact c.store.tasks.nodup
    · rw [hfind, htask, htasks]
      cases c.store.tasks.get? k with
      | none => rfl
      | some row => rfl

/-- What a row has to be for `create_task` and one `set_task_status` to rebuild it. -/
structure Rebuildable (row : TaskRow) : Prop where
  dependsOn : row.dependsOn = []
  priority : fits64 row.priority
  status : row.status ≠ TaskStatus.pending.value
  assignedTo : row.assignedTo = none
  version : row.version = 2
  failReason : row.failReason = none

theorem rebuilt_iff {row : TaskRow} {status : TaskStatus} (now : Time)
    (h : row.status = status.value) :
    (mergedRow now row.data none).map TaskRow.content = some row.content ↔ Rebuildable row := by
  have hst : TaskStatus.ofValue row.data.status = .ok status := by
    rw [TaskRow.data, h, TaskStatus.ofValue_value]
  have hpending : row.status = TaskStatus.pending.value ↔ status = .pending := by
    rw [h]
    exact TaskStatus.value_inj
  have hrow : mergedRow now row.data none =
      if fits64 row.priority then
        some (if status = .pending then createdRow now row.data
          else withStatus now status "" (createdRow now row.data))
      else none := by
    simp only [mergedRow, hst]
    rfl
  rw [hrow]
  by_cases hfits : fits64 row.priority = true
  · rw [if_pos hfits, Option.map_some, Option.some.injEq]
    by_cases hp : status = .pending
    · -- the new row is ready, the old one pending
      rw [if_pos hp]
      refine iff_of_false (fun hc => ?_) fun hr => hr.status (hpending.mpr hp)
      simp only [TaskRow.content, TaskContent.mk.injEq] at hc
      obtain ⟨-, -, -, -, -, hc, -⟩ := hc
      have hready : TaskStatus.ready.value = TaskStatus.pending.value :=
        hc.trans (hpending.mpr hp)
      cases TaskStatus.value_injective hready
    · rw [if_neg hp]
      refine ⟨?_, ?_⟩
      · intro hc
        simp only [TaskRow.content, TaskContent.mk.injEq] at hc
        obtain ⟨-, -, -, hdeps, -, -, hassigned, hversion, hreason⟩ := hc
        exact ⟨hdeps.symm, hfits, fun e => hp (hpending.mp e), hassigned.symm, hversion.symm,
          hreason.symm⟩
      · rintro ⟨hdeps, -, -, hassigned, hversion, hreason⟩
        simp only [TaskRow.content, hdeps, hassigned, hversion, hreason, h]
        rfl
  · rw [if_neg hfits]
    exact iff_of_false (fun hc => by cases hc) fun hr => hfits hr.priority

/-- `b` has the node table of `a`, and its task table but for the times. -/
def SameState (a b : ClusterStore) : Prop :=
  b.nodes = a.nodes ∧
    ∀ k, (b.tasks.get? k).map TaskRow.content = (a.tasks.get? k).map TaskRow.content

/-- **Full-state transfer.**  An empty store that receives the snapshot of another ends
up with the same nodes and tasks exactly when every task row can be rebuilt. -/
theorem full_state_faithful_iff (c : SyncCoordinator) (timestamp : Int) (snap : FullState)
    (hsnap : c.buildFullState timestamp = .ok snap) (r : SyncReceiver) (now : Time)
    (hnodes : r.store.nodes = Table.empty) (htasks : r.store.tasks = Table.empty) :
    SameState c.store (r.receiveFullState now snap).2.store ↔
      ∀ row ∈ c.store.tasks.rows, Rebuildable row := by
  obtain ⟨-, -, hdecode⟩ := SyncCoordinator.buildFullState_ok hsnap
  obtain ⟨hn, ht⟩ := receiveFullState_empty hsnap now hnodes htasks
  refine ⟨?_, ?_⟩
  · rintro ⟨-, hsame⟩ row hrow
    obtain ⟨status, hst⟩ := hdecode row hrow
    have hget := Table.get?_of_mem hrow
    have h := hsame row.id
    rw [ht, ← key_taskRow, hget] at h
    exact (rebuilt_iff now hst).mp h
  · intro hall
    refine ⟨hn, fun k => ?_⟩
    rw [ht]
    cases hget : c.store.tasks.get? k with
    | none => rfl
    | some row =>
      have hrow := Table.mem_of_get? hget
      obtain ⟨status, hst⟩ := hdecode row hrow
      exact (rebuilt_iff now hst).mpr (hall row hrow)

/-- A task set running by hand, from the store that made it. -/
def runningStore : ClusterStore :=
  { tasks := Table.empty.put
      { id := "t1", title := "build", status := "running", createdAt := 0, updatedAt := 0,
        version := 2 } }

/-- A running task at version 2 arrives as it is. -/
theorem full_state_faithful_example :
    SameState runningStore
      (SyncReceiver.receiveFullState {} 1
        { nodeId := "a", syncVersion := 0, timestamp := 7, nodes := []
          tasks := runningStore.tasks.rows.map TaskRow.data }).2.store :=
  (full_state_faithful_iff { store := runningStore, nodeId := "a" } 7 _ rfl {} 1 rfl rfl).mpr
    fun row hrow => by
      rw [List.mem_singleton.mp hrow]
      exact ⟨rfl, rfl, by decide, rfl, rfl, rfl⟩

/-- A pending task of `n1` that a message put at version 5 arrives ready, unassigned and
at version 1. -/
theorem full_state_unfaithful :
    let msg : SyncMessage :=
      { version := 1, taskState := some ⟨"t1", "build", "pending", some "n1", 5⟩ }
    let a := (SyncReceiver.receiveSingle {} 0 msg).2.store
    ∃ snap, SyncCoordinator.buildFullState { store := a } 7 = .ok snap ∧
      ¬ SameState a (SyncReceiver.receiveFullState {} 1 snap).2.store := by
  refine ⟨_, rfl, fun h => ?_⟩
  have := h.2 "t1"
  revert this
  decide

end SyncReceiver

end HermesCluster
