import HermesCluster.Lib.Grouping
import HermesCluster.Task.Integrity

/-!
# The load of the nodes

`get_node_load` of `hermes_cluster/task_manager.py` groups the active tasks by the node they are
assigned to and then goes over the nodes, so a task assigned to an unknown node is in nobody's
list.  The empty text counts as no node.

* `accounts_iff`: the lists have every active task exactly once if the nodes of all are known.
* `load_accounts`: so they have it in every state of a run whose store calls are given what fits
  the tables.
-/

namespace HermesCluster

open ClusterStore

/-- An entry of the dictionary of `get_node_load`. -/
structure NodeLoad where
  nodeId : NodeId
  name : String
  status : String
  capabilities : List Capability
  load : Load
  activeTasks : Nat
  taskIds : List TaskId
deriving DecidableEq

instance : Keyed NodeLoad NodeId := ⟨NodeLoad.nodeId⟩

namespace TaskManager

/-- `t.assigned_to and t.status in (TaskStatus.assigned, TaskStatus.running)` -/
def active (t : Task) : Bool :=
  t.assignedTo.getD "" ≠ "" ∧ (t.status = .assigned ∨ t.status = .running)

/-- The body of the first loop of `get_node_load`. -/
def addActive (nodeTasks : Table (Bucket NodeId TaskId)) (t : Task) :
    Table (Bucket NodeId TaskId) :=
  if active t then Bucket.add nodeTasks (t.assignedTo.getD "") t.id else nodeTasks

/-- The entry of a node. -/
def loadOf (nodeTasks : Table (Bucket NodeId TaskId)) (node : Node) : NodeLoad :=
  { nodeId := node.id, name := node.name, status := node.status.value,
    capabilities := node.capabilities, load := node.load,
    activeTasks := (Bucket.members nodeTasks node.id).length,
    taskIds := Bucket.members nodeTasks node.id }

/-- `get_node_load` -/
def getNodeLoad (s : ClusterStore) : Except PyError (Table NodeLoad) := do
  let allNodes ← s.getAllNodes
  let allTasks ← s.getAllTasks
  let nodeTasks := allTasks.foldl addActive Table.empty
  return (allNodes.map (loadOf nodeTasks)).foldl Table.put Table.empty

end TaskManager

open TaskManager

namespace ClusterStore

/-- The active tasks with their nodes. -/
def activeTasks (s : ClusterStore) : List (NodeId × TaskId) :=
  (s.tasks.rows.filter fun r => r.assignedTo.getD "" ≠ "" ∧
    (r.status = TaskStatus.assigned.value ∨ r.status = TaskStatus.running.value)).map
      fun r => (r.assignedTo.getD "", r.id)

end ClusterStore

/-- Each node is there, and each active task once, with its node. -/
structure LoadAccounts (s : ClusterStore) (loads : Table NodeLoad) : Prop where
  nodes : loads.keys = s.nodes.keys
  lists : ∀ e ∈ loads.rows, e.activeTasks = e.taskIds.length ∧
    ∀ t, t ∈ e.taskIds ↔ (e.nodeId, t) ∈ s.activeTasks
  once : (loads.rows.flatMap NodeLoad.taskIds).Perm (s.activeTasks.map Prod.snd)

section

variable {s : ClusterStore} {loads : Table NodeLoad}

theorem foldl_addActive (tasks : List Task) (groups : Table (Bucket NodeId TaskId)) :
    tasks.foldl addActive groups =
      ((tasks.filter active).map fun t => (t.assignedTo.getD "", t.id)).foldl
        (fun groups p => Bucket.add groups p.1 p.2) groups := by
  induction tasks generalizing groups with
  | nil => rfl
  | cons t tasks ih =>
    rw [List.foldl_cons, ih, addActive]
    by_cases ht : active t = true
    · rw [if_pos ht, List.filter_cons_of_pos ht]
      rfl
    · rw [if_neg ht, List.filter_cons_of_neg ht]

/-- The tasks that the loop takes are the active ones of the table. -/
theorem activeTasks_eq (s : ClusterStore) :
    ((s.tasks.rows.map readRow).filter active).map (fun t => (t.assignedTo.getD "", t.id)) =
      s.activeTasks := by
  rw [List.filter_map, List.map_map, activeTasks]
  refine congrArg (List.map _) (List.filter_congr fun r _ => ?_)
  have hassigned := readRow_status_iff r .assigned (by decide)
  have hrunning := readRow_status_iff r .running (by decide)
  rw [Function.comp_apply, active, decide_eq_decide, hassigned, hrunning]
  exact Iff.rfl

theorem getNodeLoad_eq (h : getNodeLoad s = .ok loads) :
    loads.rows = s.nodes.rows.map (loadOf (Bucket.group s.activeTasks)) := by
  rw [getNodeLoad] at h
  cases hn : s.getAllNodes with
  | error e =>
    rw [hn] at h
    cases h
  | ok nodes =>
  cases ht : s.getAllTasks with
  | error e =>
    rw [hn, ht] at h
    cases h
  | ok tasks =>
  rw [hn, ht] at h
  obtain rfl := getAllTasks_eq ht
  obtain rfl : nodes = s.nodes.rows :=
    Except.ok.inj (hn.symm.trans (mapM_rowToNode_ok (mapM_rowToNode_iff.mp ⟨nodes, hn⟩)))
  rw [← Except.ok.inj h, foldl_addActive, activeTasks_eq, Table.rows_foldl_put]
  · rfl
  · rw [List.map_map]
    exact s.nodes.nodup
  · exact fun _ _ => rfl

theorem mem_activeTasks_iff {n : NodeId} {t : TaskId} : (n, t) ∈ s.activeTasks ↔
    t ∈ Bucket.members (Bucket.group s.activeTasks) n := by
  rw [Bucket.members_group, List.mem_map]
  refine ⟨fun h => ⟨(n, t), List.mem_filter.mpr ⟨h, decide_eq_true rfl⟩, rfl⟩, ?_⟩
  rintro ⟨p, hp, rfl⟩
  obtain ⟨hmem, hkey⟩ := List.mem_filter.mp hp
  rwa [← of_decide_eq_true hkey]

/-- A task has one row, so it is active on one node. -/
theorem node_unique {n n' : NodeId} {t : TaskId} (h : (n, t) ∈ s.activeTasks)
    (h' : (n', t) ∈ s.activeTasks) : n = n' := by
  obtain ⟨r, hr, heq⟩ := List.mem_map.mp h
  obtain ⟨r', hr', heq'⟩ := List.mem_map.mp h'
  obtain ⟨rfl, rfl⟩ := Prod.mk.inj heq
  obtain ⟨rfl, hid⟩ := Prod.mk.inj heq'
  have hrow : s.tasks.get? r.id = some r := Table.get?_of_mem (List.mem_filter.mp hr).1
  have hrow' : s.tasks.get? r'.id = some r' := Table.get?_of_mem (List.mem_filter.mp hr').1
  rw [hid, hrow] at hrow'
  rw [Option.some.inj hrow']

/-- **The lists are complete** exactly if every active task is on a known node. -/
theorem accounts_iff (h : getNodeLoad s = .ok loads) :
    LoadAccounts s loads ↔ ∀ p ∈ s.activeTasks, p.1 ∈ s.nodes.keys := by
  have hrows := getNodeLoad_eq h
  have hlists : loads.rows.flatMap NodeLoad.taskIds =
      s.nodes.keys.flatMap (Bucket.members (Bucket.group s.activeTasks)) := by
    rw [hrows, List.flatMap_map, Table.keys, List.flatMap_map]
    rfl
  refine ⟨fun haccounts p hp => ?_, fun hknown => ⟨?_, fun e he => ?_, ?_⟩⟩
  · have hlisted : p.2 ∈ loads.rows.flatMap NodeLoad.taskIds :=
      haccounts.once.mem_iff.mpr (List.mem_map_of_mem hp)
    obtain ⟨e, he, ht⟩ := List.mem_flatMap.mp hlisted
    have hnode : (e.nodeId, p.2) ∈ s.activeTasks := ((haccounts.lists e he).2 p.2).mp ht
    rw [node_unique hp hnode, ← haccounts.nodes]
    exact List.mem_map_of_mem he
  · rw [Table.keys, hrows, List.map_map]
    rfl
  · rw [hrows] at he
    obtain ⟨n, -, rfl⟩ := List.mem_map.mp he
    exact ⟨rfl, fun t => mem_activeTasks_iff.symm⟩
  · rw [hlists]
    exact Bucket.perm_groups s.nodes.nodup hknown

/-- In sound tables it is. -/
theorem known_of_sound (h : s.Sound) : ∀ p ∈ s.activeTasks, p.1 ∈ s.nodes.keys := by
  intro p hp
  obtain ⟨r, hr, rfl⟩ := List.mem_map.mp hp
  obtain ⟨hmem, hactive⟩ := List.mem_filter.mp hr
  have hne := (of_decide_eq_true hactive).1
  cases hn : r.assignedTo with
  | none =>
    rw [hn] at hne
    exact absurd rfl hne
  | some n => exact (h.row r hmem).assignee n hn

end

namespace Database

/-- **Every active task is accounted for**, once and at its node, in every state of a run whose
store calls are given what fits the tables they find, whatever is rolled back. -/
theorem load_accounts {d : Database} (h : d.store.Sound) (run : List (Time × DbOp))
    (hproper : Run.EachStep step (fun c i => i.2.Proper c.visible.store) (Connection.opened d)
      run) : Run.Always step (fun c => ∀ loads, getNodeLoad c.visible.store = .ok loads →
        LoadAccounts c.visible.store loads) (Connection.opened d) run := by
  have hsound : Run.Always step SoundTables (Connection.opened d) run :=
    Run.always_of_eachStep (fun _ _ => sound_step) run (Connection.opened d) ⟨h, h⟩ hproper
  exact hsound.imp fun c hc loads hloads => (accounts_iff hloads).mpr (known_of_sound hc.2)

/-- Here the task is on its node for a while. -/
theorem load_accounts_deletedTask : Run.Always step (fun c => ∀ loads,
    getNodeLoad c.visible.store = .ok loads → LoadAccounts c.visible.store loads)
      (Connection.opened {}) deletedTaskRun := by
  refine load_accounts sound_empty deletedTaskRun ?_
  simp only [deletedTaskRun, Run.eachStep_cons]
  exact ⟨trivial, trivial, by decide +kernel, trivial, by decide +kernel, trivial, trivial,
    Run.eachStep_nil _⟩

-- A synced task on a node nobody knows is in no list.
example :
    let ts : TaskSync :=
      { taskId := "task_1", title := "build", status := "running", assignedTo := some "node_b" }
    let s := ({} : ClusterStore).applyTaskState 5 ts
    getNodeLoad s = .ok Table.empty ∧ s.activeTasks = [("node_b", "task_1")] := by
  decide +kernel

end Database

end HermesCluster
