import HermesCluster.Lib.Run
import HermesCluster.State.VersionClock
import HermesCluster.Sync.ReceiverSpec
import Mathlib.Data.List.TakeWhile

/-!
# Stores that can be read

`ClusterStore` reads its rows strictly: one task row whose status text is no `TaskStatus`,
or whose version has left the 64 bits, makes `get_all_tasks` raise, and `schedule_pending`
too if the row says it is ready; so does an online node whose load is NaN.  All rows are
written by the task, node and sync operations (`StoreOp`).

* `neverRaises_iff`: no read of a store raises exactly when its rows are `Readable`.
* `readable_step_iff`: what each operation may write (`Keeps`).
* `neverRaises_always_iff`: a store stays readable exactly along the runs whose operations
  all keep it so.
-/

namespace HermesCluster

namespace ClusterStore

variable {s s' : ClusterStore} {now : Time} {t k : TaskId} {r : TaskRow}

/-- No read of the store raises. -/
structure NeverRaises (s : ClusterStore) : Prop where
  rows : ∀ r ∈ s.tasks.rows, ∃ task, rowToTask r = .ok task
  getTask : ∀ taskId, ∃ task, s.getTask taskId = .ok task
  getAllTasks : ∃ tasks, s.getAllTasks = .ok tasks
  schedulePending : ∀ now, ∃ result, s.schedulePending now = .ok result

/-- All task rows decode. -/
def TasksDecode (s : ClusterStore) : Prop :=
  ∀ k r, s.tasks.get? k = some r → decodes r = true

/-- All online nodes decode. -/
def NodesDecode (s : ClusterStore) : Prop :=
  ∀ k n, s.nodes.get? k = some n → n.status = .online → n.load ≠ .nan

/-- The rows `schedule_pending` and the listings of tasks read. -/
structure Readable (s : ClusterStore) : Prop where
  tasks : s.TasksDecode
  nodes : s.NodesDecode

theorem tasksDecode_iff : s.TasksDecode ↔ ∀ r ∈ s.tasks.rows, decodes r = true := by
  refine ⟨?_, ?_⟩
  · exact fun h r hr => h r.id r (Table.get?_of_mem hr)
  · exact fun h k r hr => h r (Table.mem_of_get? hr)

theorem nodesDecode_iff : s.NodesDecode ↔ ∀ n ∈ s.onlineRows, n.load ≠ .nan := by
  refine ⟨?_, ?_⟩
  · intro h n hn
    obtain ⟨hmem, hon⟩ := List.mem_filter.mp hn
    exact h n.id n (Table.get?_of_mem hmem) (of_decide_eq_true hon)
  · intro h k n hn hon
    exact h n (List.mem_filter.mpr ⟨Table.mem_of_get? hn, decide_eq_true hon⟩)

theorem Readable.schedulable (h : s.Readable) : Schedulable s := by
  refine ⟨nodesDecode_iff.mp h.nodes, fun _ r hr => ?_⟩
  exact h.tasks r.id r (mem_readyRows.mp hr).1

theorem Readable.neverRaises (h : s.Readable) : s.NeverRaises := by
  have hrows := tasksDecode_iff.mp h.tasks
  refine ⟨fun r hr => ⟨_, rowToTask_eq (hrows r hr)⟩, fun taskId => ?_,
    getAllTasks_ok_iff.mpr hrows, fun now => ⟨_, schedulePending_eq h.schedulable⟩⟩
  cases hr : s.tasks.get? taskId with
  | none => exact ⟨_, getTask_of_none hr⟩
  | some r => exact ⟨_, getTask_of_some hr (h.tasks taskId r hr)⟩

theorem neverRaises_iff : s.NeverRaises ↔ s.Readable := by
  refine ⟨fun h => ⟨tasksDecode_iff.mpr (getAllTasks_ok_iff.mp h.getAllTasks), ?_⟩,
    Readable.neverRaises⟩
  obtain ⟨result, hok⟩ := h.schedulePending 0
  exact nodesDecode_iff.mpr (schedulable_of_ok hok).1

/-! ### The operations -/

/-- A task, node or sync operation. -/
inductive StoreOp
  | registerNode (node : Node)
  | updateHeartbeat (nodeId : NodeId) (load : Load)
  | updateCapabilities (nodeId : NodeId) (caps : List Capability)
  | setNodeStatus (nodeId : NodeId) (status : NodeStatus)
  | createTask (taskId : TaskId) (title : String) (requires : List Capability) (priority : Int)
  | mutate (op : TaskMutator)
  | handleBatchSync (messages : List SyncMessage)
deriving DecidableEq

/-- The store after an operation at a clock reading; one that raises changes nothing, except
that the messages of a batch before the one that raised stay applied. -/
def step (s : ClusterStore) (op : Time × StoreOp) : ClusterStore :=
  match op.2 with
  | .registerNode node => s.registerNode node
  | .updateHeartbeat nodeId load => s.updateHeartbeat op.1 nodeId load
  | .updateCapabilities nodeId caps => s.updateCapabilities nodeId caps
  | .setNodeStatus nodeId status => s.setNodeStatus nodeId status
  | .createTask taskId title requires priority =>
    match s.createTask op.1 taskId title requires priority with
    | .ok s' => s'
    | .error _ => s
  | .mutate call => s.mutate op.1 call
  | .handleBatchSync messages => (s.handleBatchSync op.1 messages).2

/-- Whether one can be added to the version of a row that decodes. -/
def HasRoom (r : TaskRow) : Prop := r.version < 9223372036854775807

/-- The text is that of a `TaskStatus`. -/
def IsStatus (text : String) : Prop := ∃ status : TaskStatus, text = status.value

/-- The messages of a batch that are applied: those above the versions before them, up to
the first that SQLite cannot store. -/
def batchApplied (s : ClusterStore) (messages : List SyncMessage) : List SyncMessage :=
  (VersionGate.passed SyncMessage.version s.syncVersion messages).takeWhile storable

/-- The state a message has for a task. -/
def stateFor (taskId : TaskId) (msg : SyncMessage) : Option TaskSync :=
  msg.taskState.filter fun ts => ts.taskId = taskId

/-- The last state the messages have for a task. -/
def lastState (taskId : TaskId) (messages : List SyncMessage) : Option TaskSync :=
  (messages.filterMap (stateFor taskId)).getLast?

/-- The calls of the task methods that leave the rows readable. -/
def MutatorKeeps (s : ClusterStore) : TaskMutator → Prop
  | .setTaskStatus taskId _ _ | .unassignTask taskId | .setDependencies taskId _ =>
    ∀ r, s.tasks.get? taskId = some r → HasRoom r
  | .unblockTask taskId => ∀ r, s.tasks.get? taskId = some r →
      r.status = TaskStatus.blocked.value → HasRoom r
  | .triggerPendingTasks => True
  | .schedulePending => ∀ k r, s.tasks.get? k = some r → r.status = TaskStatus.ready.value →
      (s.firstFit r.requires).isSome → HasRoom r
  | .handleSyncMessage msg => s.syncVersion < msg.version → storable msg →
      ∀ ts, msg.taskState = some ts → IsStatus ts.status

/-- The operations that leave the rows readable. -/
def Keeps (s : ClusterStore) (op : Time × StoreOp) : Prop :=
  match op.2 with
  | .registerNode node => node.status = .online → node.load ≠ .nan
  | .updateHeartbeat nodeId load => (s.nodes.get? nodeId).isSome → load ≠ .nan
  | .updateCapabilities _ _ => True
  | .setNodeStatus nodeId status => ∀ n, s.nodes.get? nodeId = some n →
      status = .online → n.load ≠ .nan
  | .createTask _ _ _ _ => True
  | .mutate call => s.MutatorKeeps call
  | .handleBatchSync messages => ∀ taskId ts,
      lastState taskId (s.batchApplied messages) = some ts → IsStatus ts.status

/-! ### Rows -/

theorem isStatus_value (status : TaskStatus) : IsStatus status.value := ⟨status, rfl⟩

theorem decodes_iff_isStatus : decodes r = true ↔ IsStatus r.status ∧ fits64 r.version = true := by
  rw [decodes_iff]
  refine ⟨?_, ?_⟩
  · intro ⟨status, hs, hv⟩
    exact ⟨⟨status, hs⟩, hv⟩
  · intro ⟨⟨status, hs⟩, hv⟩
    exact ⟨status, hs, hv⟩

/-- An update that counts the version and writes a status. -/
theorem decodes_bumped_iff {q : TaskRow} (h : decodes r = true) (hs : IsStatus q.status)
    (hv : q.version = bumped r.version) : decodes q = true ↔ HasRoom r := by
  rw [decodes_iff_isStatus, hv, fits64_bumped (decodes_iff_isStatus.mp h).2]
  exact ⟨fun hq => hq.2, fun hr => ⟨hs, hr⟩⟩

theorem decodes_unblocked_iff (h : decodes r = true) : decodes (unblocked now r) = true ↔
    (r.status = TaskStatus.blocked.value → HasRoom r) := by
  rw [unblocked]
  by_cases hb : r.status = TaskStatus.blocked.value
  · rw [if_pos hb, decodes_bumped_iff h (isStatus_value .pending) rfl]
    exact ⟨fun hr _ => hr, fun hr => hr hb⟩
  · rw [if_neg hb]
    exact iff_of_true h fun hb' => absurd hb' hb

theorem decodes_withDependencies_iff {deps : List TaskId} (h : decodes r = true) :
    decodes (withDependencies now deps r) = true ↔ HasRoom r := by
  refine decodes_bumped_iff h ?_ rfl
  show IsStatus (if deps ≠ [] ∧ r.status = TaskStatus.ready.value then _ else r.status)
  split
  · exact isStatus_value .pending
  · exact (decodes_iff_isStatus.mp h).1

theorem decodes_scheduled_iff (h : decodes r = true) : decodes (s.scheduled now r) = true ↔
    (r.status = TaskStatus.ready.value → (s.firstFit r.requires).isSome → HasRoom r) := by
  rw [scheduled]
  by_cases hr : r.status = TaskStatus.ready.value
  · rw [if_pos hr]
    cases hf : s.firstFit r.requires with
    | none => exact iff_of_true h fun _ hsome => absurd hsome Bool.false_ne_true
    | some node =>
      refine (decodes_bumped_iff h (isStatus_value .running) rfl).trans ?_
      exact ⟨fun hroom _ _ => hroom, fun hroom => hroom hr rfl⟩
  · rw [if_neg hr]
    exact iff_of_true h fun hr' => absurd hr' hr

/-- The row a task state writes, over an old row or as a new one. -/
theorem decodes_written_iff {ts : TaskSync} (hv : fits64 ts.version = true)
    (old : Option TaskRow) :
    decodes (old.elim (syncedNew now ts) (synced now ts)) = true ↔ IsStatus ts.status := by
  cases old with
  | none => exact decodes_iff_isStatus.trans (and_iff_left hv)
  | some r => exact decodes_iff_isStatus.trans (and_iff_left hv)

/-! ### Tables -/

theorem TasksDecode.update_iff {f : TaskRow → TaskRow} (h : s.TasksDecode)
    (hget : ∀ k, s'.tasks.get? k = if k = t then (s.tasks.get? k).map f else s.tasks.get? k) :
    s'.TasksDecode ↔ ∀ r, s.tasks.get? t = some r → decodes (f r) = true := by
  refine ⟨?_, ?_⟩
  · intro h' r hr
    refine h' t (f r) ?_
    rw [hget, if_pos rfl, hr]
    rfl
  · intro hf k q hq
    rw [hget] at hq
    by_cases hk : k = t
    · rw [if_pos hk] at hq
      obtain ⟨r, hr, rfl⟩ := Option.map_eq_some_iff.mp hq
      exact hf r (hk ▸ hr)
    · rw [if_neg hk] at hq
      exact h k q hq

theorem tasksDecode_map_iff {f : TaskRow → TaskRow}
    (hget : ∀ k, s'.tasks.get? k = (s.tasks.get? k).map f) :
    s'.TasksDecode ↔ ∀ k r, s.tasks.get? k = some r → decodes (f r) = true := by
  refine ⟨?_, ?_⟩
  · intro h' k r hr
    exact h' k (f r) (by rw [hget, hr]; rfl)
  · intro hf k q hq
    rw [hget] at hq
    obtain ⟨r, hr, rfl⟩ := Option.map_eq_some_iff.mp hq
    exact hf k r hr

/-- A row that is created decodes, and one that was there is at most promoted. -/
theorem decodes_created (h : s.TasksDecode) {title : String} {requires : List Capability}
    {priority : Int} : decodes (madeReady now
      ((s.tasks.get? t).getD (insertedRow now t title requires priority))) = true := by
  cases hr : s.tasks.get? t with
  | none => rfl
  | some r => exact (decodes_madeReady now r).trans (h t r hr)

/-! ### Messages -/

theorem stateFor_eq_some {ts : TaskSync} {msg : SyncMessage} :
    stateFor t msg = some ts ↔ msg.taskState = some ts ∧ ts.taskId = t := by
  rw [stateFor, Option.filter_eq_some_iff, decide_eq_true_eq]

theorem stateFor_of_ne {ts : TaskSync} {msg : SyncMessage} (hts : msg.taskState = some ts)
    (ht : t ≠ ts.taskId) : stateFor t msg = none := by
  rw [stateFor, hts]
  exact Option.filter_some_neg (by simpa using ht.symm)

theorem lastState_append (taskId : TaskId) (l : List SyncMessage) (msg : SyncMessage) :
    lastState taskId (l ++ [msg]) = (stateFor taskId msg).or (lastState taskId l) := by
  rw [lastState, List.filterMap_append, lastState]
  cases hm : stateFor taskId msg with
  | none => rw [List.filterMap_cons_none hm, List.filterMap_nil, List.append_nil]; rfl
  | some ts =>
    rw [List.filterMap_cons_some hm, List.filterMap_nil, List.getLast?_concat]
    rfl

/-- The row of a task after messages that can be stored. -/
theorem decodes_foldl_logged (h : s.TasksDecode) (l : List SyncMessage) :
    (∀ msg ∈ l, storable msg = true) →
    ((∀ r, (l.foldl (fun s msg => s.logged now msg) s).tasks.get? k = some r →
      decodes r = true) ↔ ∀ ts, lastState k l = some ts → IsStatus ts.status) := by
  induction l using List.reverseRecOn with
  | nil => exact fun _ => iff_of_true (fun r hr => h k r hr) fun ts hts => by cases hts
  | append_singleton l msg ih =>
    intro hl
    have hmsg := hl msg (List.mem_append_right l (List.mem_singleton.mpr rfl))
    have ih := ih fun m hm => hl m (List.mem_append_left [msg] hm)
    rw [List.foldl_append, List.foldl_cons, List.foldl_nil, lastState_append, logged]
    cases hts : msg.taskState with
    | none =>
      rw [stateFor, hts]
      exact ih
    | some ts =>
      have hfits : fits64 ts.version = true := by
        rw [storable, hts, Bool.and_eq_true] at hmsg
        exact hmsg.2
      simp only [get?_applyTaskState]
      by_cases hk : k = ts.taskId
      · rw [stateFor_eq_some.mpr ⟨hts, hk.symm⟩, if_pos hk]
        show _ ↔ ∀ ts', some ts = some ts' → _
        simp only [Option.some.injEq, forall_eq']
        exact decodes_written_iff hfits _
      · rw [stateFor_of_ne hts hk, if_neg hk]
        exact ih

theorem tasksDecode_logged_iff (h : s.TasksDecode) {msg : SyncMessage}
    (hs : storable msg = true) :
    (s.logged now msg).TasksDecode ↔ ∀ ts, msg.taskState = some ts → IsStatus ts.status := by
  have hone : ∀ k, (∀ r, (s.logged now msg).tasks.get? k = some r → decodes r = true) ↔
      ∀ ts, lastState k [msg] = some ts → IsStatus ts.status :=
    fun k => decodes_foldl_logged h [msg] fun m hm => (List.mem_singleton.mp hm) ▸ hs
  have hlast : ∀ k, lastState k [msg] = stateFor k msg := fun k =>
    (lastState_append k [] msg).trans (Option.or_none)
  simp only [hlast, stateFor_eq_some] at hone
  refine ⟨?_, ?_⟩
  · intro hl ts hts
    exact (hone ts.taskId).mp (hl ts.taskId) ts ⟨hts, rfl⟩
  · intro hall k
    exact (hone k).mpr fun ts hts => hall ts hts.1

theorem handleBatchSync_snd (s : ClusterStore) (now : Time) (messages : List SyncMessage) :
    (s.handleBatchSync now messages).2 =
      (s.batchApplied messages).foldl (fun s msg => s.logged now msg) s := by
  rw [batchApplied]
  induction messages generalizing s with
  | nil => rfl
  | cons msg messages ih =>
    rw [handleBatchSync]
    by_cases hv : msg.version ≤ s.syncVersion
    · rw [VersionGate.passed_cons_of_le _ hv, handleSyncMessage, if_pos hv]
      exact ih s
    · have hlt := not_le.mp hv
      rw [VersionGate.passed_cons_of_lt _ hlt]
      by_cases hs : storable msg = true
      · rw [handleSyncMessage_applied now hlt hs, List.takeWhile_cons_of_pos hs,
          List.foldl_cons, ← syncVersion_logged now hlt]
        exact ih (s.logged now msg)
      · rw [handleSyncMessage_raises now hlt hs, List.takeWhile_cons_of_neg hs]
        rfl

theorem storable_of_mem_batchApplied {messages : List SyncMessage} {msg : SyncMessage}
    (h : msg ∈ s.batchApplied messages) : storable msg = true :=
  List.mem_takeWhile_imp h

/-! ### What the task and sync operations leave alone -/

theorem nodes_logged (s : ClusterStore) (now : Time) (msg : SyncMessage) :
    (s.logged now msg).nodes = s.nodes := by
  rw [logged]
  cases msg.taskState with
  | none => rfl
  | some ts =>
    show (applyTaskState _ now ts).nodes = _
    rw [applyTaskState]
    split <;> rfl

theorem nodes_foldl_logged (l : List SyncMessage) (s : ClusterStore) :
    (l.foldl (fun s msg => s.logged now msg) s).nodes = s.nodes :=
  Run.exec_keeps nodes (fun s msg => nodes_logged s now msg) l s

theorem mutate_schedulePending (h : Schedulable s) :
    (s.mutate now .schedulePending).nodes = s.nodes ∧
      ∀ k, (s.mutate now .schedulePending).tasks.get? k =
        (s.tasks.get? k).map (s.scheduled now) := by
  obtain ⟨n, s', hok, hspec⟩ := schedulePending_ok now h
  have hs' : s.mutate now .schedulePending = s' := by rw [mutate, hok]
  rw [hs']
  exact hspec

theorem mutate_handleSyncMessage (s : ClusterStore) (now : Time) (msg : SyncMessage) :
    s.mutate now (.handleSyncMessage msg) =
      if s.syncVersion < msg.version ∧ storable msg = true then s.logged now msg else s := by
  rw [mutate]
  by_cases hv : s.syncVersion < msg.version
  · by_cases hs : storable msg = true
    · rw [if_pos ⟨hv, hs⟩, handleSyncMessage_applied now hv hs]
    · rw [if_neg fun h => hs h.2, handleSyncMessage_raises now hv hs]
  · rw [if_neg fun h => hv h.1, handleSyncMessage, if_pos (not_lt.mp hv)]

theorem nodes_mutate (h : s.Readable) (now : Time) (call : TaskMutator) :
    (s.mutate now call).nodes = s.nodes := by
  cases call with
  | triggerPendingTasks => exact nodes_foldl_triggerOne _ (0, s)
  | schedulePending => exact (mutate_schedulePending h.schedulable).1
  | handleSyncMessage msg =>
    rw [mutate_handleSyncMessage]
    split
    · exact nodes_logged s now msg
    · rfl
  | setTaskStatus | unassignTask | unblockTask | setDependencies => rfl

/-! ### Steps -/

theorem tasksDecode_mutate_iff (h : s.Readable) (now : Time) (call : TaskMutator) :
    (s.mutate now call).TasksDecode ↔ s.MutatorKeeps call := by
  cases call with
  | setTaskStatus t status reason =>
    refine (h.tasks.update_iff fun k => get?_setTaskStatus s now t status reason k).trans ?_
    exact forall₂_congr fun r hr =>
      decodes_bumped_iff (h.tasks t r hr) (isStatus_value status) rfl
  | unassignTask t =>
    refine (h.tasks.update_iff fun k => get?_unassignTask).trans ?_
    exact forall₂_congr fun r hr =>
      decodes_bumped_iff (h.tasks t r hr) (isStatus_value .ready) rfl
  | unblockTask t =>
    refine (h.tasks.update_iff fun k => get?_unblockTask).trans ?_
    exact forall₂_congr fun r hr => decodes_unblocked_iff (h.tasks t r hr)
  | setDependencies t deps =>
    refine (h.tasks.update_iff fun k => get?_setDependencies deps).trans ?_
    exact forall₂_congr fun r hr => decodes_withDependencies_iff (h.tasks t r hr)
  | triggerPendingTasks =>
    refine (tasksDecode_map_iff fun k => get?_triggerPendingTasks).trans ?_
    exact iff_of_true (fun k r hr => (decodes_promoted now r).trans (h.tasks k r hr)) trivial
  | schedulePending =>
    refine (tasksDecode_map_iff (mutate_schedulePending h.schedulable).2).trans ?_
    exact forall₃_congr fun k r hr => decodes_scheduled_iff (h.tasks k r hr)
  | handleSyncMessage msg =>
    rw [mutate_handleSyncMessage]
    by_cases hm : s.syncVersion < msg.version ∧ storable msg = true
    · rw [if_pos hm]
      refine (tasksDecode_logged_iff h.tasks hm.2).trans ?_
      exact ⟨fun hs _ _ => hs, fun hs => hs hm.1 hm.2⟩
    · rw [if_neg hm]
      exact iff_of_true h.tasks fun hv hs => absurd ⟨hv, hs⟩ hm

theorem tasksDecode_handleBatchSync_iff (h : s.TasksDecode) (now : Time)
    (messages : List SyncMessage) : (s.handleBatchSync now messages).2.TasksDecode ↔
      ∀ taskId ts, lastState taskId (s.batchApplied messages) = some ts → IsStatus ts.status := by
  rw [handleBatchSync_snd]
  exact forall_congr' fun k =>
    decodes_foldl_logged h _ fun msg hmsg => storable_of_mem_batchApplied hmsg

theorem nodesDecode_update_iff {nodeId : NodeId} {f : Node → Node} (h : s.NodesDecode)
    (hget : ∀ k, s'.nodes.get? k =
      if k = nodeId then (s.nodes.get? k).map f else s.nodes.get? k) :
    s'.NodesDecode ↔ ∀ n, s.nodes.get? nodeId = some n →
      (f n).status = .online → (f n).load ≠ .nan := by
  refine ⟨?_, ?_⟩
  · intro h' n hn
    refine h' nodeId (f n) ?_
    rw [hget, if_pos rfl, hn]
    rfl
  · intro hf k m hm
    rw [hget] at hm
    by_cases hk : k = nodeId
    · rw [if_pos hk] at hm
      obtain ⟨n, hn, rfl⟩ := Option.map_eq_some_iff.mp hm
      exact hf n (hk ▸ hn)
    · rw [if_neg hk] at hm
      exact h k m hm

theorem nodesDecode_registerNode_iff (h : s.NodesDecode) (node : Node) :
    (s.registerNode node).NodesDecode ↔ (node.status = .online → node.load ≠ .nan) := by
  refine ⟨?_, ?_⟩
  · intro h'
    refine h' node.id node ?_
    exact (Table.get?_replaceInto s.nodes node node.id).trans (if_pos rfl)
  · intro hnode k n hn
    replace hn := (Table.get?_replaceInto s.nodes node k).symm.trans hn
    by_cases hk : k = node.id
    · rw [key_node, if_pos hk] at hn
      rw [← Option.some.inj hn]
      exact hnode
    · rw [key_node, if_neg hk] at hn
      exact h k n hn

/-- **One step.**  From a readable store an operation leads to a readable store exactly
when it keeps the rows readable. -/
theorem readable_step_iff (h : s.Readable) (op : Time × StoreOp) :
    (s.step op).Readable ↔ s.Keeps op := by
  have hiff : ∀ s' : ClusterStore, s'.Readable ↔ s'.TasksDecode ∧ s'.NodesDecode :=
    fun s' => ⟨fun hr => ⟨hr.tasks, hr.nodes⟩, fun hr => ⟨hr.1, hr.2⟩⟩
  obtain ⟨now, op⟩ := op
  rw [hiff]
  cases op with
  | registerNode node =>
    exact (and_iff_right h.tasks).trans (nodesDecode_registerNode_iff h.nodes node)
  | updateHeartbeat nodeId load =>
    refine (and_iff_right h.tasks).trans ((nodesDecode_update_iff h.nodes fun k =>
      Table.get?_modify s.nodes nodeId (beaten now load) (fun _ => rfl) k).trans ?_)
    refine ⟨?_, ?_⟩
    · intro hn hsome
      obtain ⟨n, hget⟩ := Option.isSome_iff_exists.mp hsome
      exact hn n hget rfl
    · intro hload n hget _
      exact hload (by rw [hget]; rfl)
  | updateCapabilities nodeId caps =>
    refine (and_iff_right h.tasks).trans ((nodesDecode_update_iff h.nodes fun k =>
      Table.get?_modify s.nodes nodeId (fun n => { n with capabilities := caps })
        (fun _ => rfl) k).trans ?_)
    exact iff_of_true (fun n hn => h.nodes nodeId n hn) trivial
  | setNodeStatus nodeId status =>
    refine (and_iff_right h.tasks).trans ((nodesDecode_update_iff h.nodes fun k =>
      Table.get?_modify s.nodes nodeId (fun n => { n with status := status })
        (fun _ => rfl) k).trans ?_)
    exact Iff.rfl
  | createTask taskId title requires priority =>
    refine iff_of_true ?_ trivial
    by_cases hp : fits64 priority = true
    · obtain ⟨s', hok, hnodes, hget⟩ := createTask_ok s now taskId title requires hp
      have hs' : s.step (now, .createTask taskId title requires priority) = s' := by
        simp only [step, hok]
      rw [hs']
      refine ⟨fun k r hr => ?_, fun k n hn => h.nodes k n (hnodes ▸ hn)⟩
      rw [hget] at hr
      split at hr
      next hk =>
        rw [← Option.some.inj hr, hk]
        exact decodes_created h.tasks
      · exact h.tasks k r hr
    · have hs' : s.step (now, .createTask taskId title requires priority) = s := by
        simp only [step, createTask_raises title requires hp]
      rw [hs']
      exact ⟨h.tasks, h.nodes⟩
  | mutate call =>
    have hnodes : (s.mutate now call).NodesDecode := fun k n hn =>
      h.nodes k n (nodes_mutate h now call ▸ hn)
    exact (and_iff_left hnodes).trans (tasksDecode_mutate_iff h now call)
  | handleBatchSync messages =>
    have hnodes : (s.handleBatchSync now messages).2.NodesDecode := by
      rw [handleBatchSync_snd]
      exact fun k n hn => h.nodes k n (nodes_foldl_logged _ s ▸ hn)
    exact (and_iff_left hnodes).trans (tasksDecode_handleBatchSync_iff h.tasks now messages)

/-- **Readable stores.**  No read raises in any state of a run from an empty store exactly
when each operation of the run keeps the rows readable. -/
theorem neverRaises_always_iff (run : List (Time × StoreOp)) :
    Run.Always step NeverRaises {} run ↔ Run.EachStep step Keeps {} run := by
  have hempty : NeverRaises {} :=
    neverRaises_iff.mpr ⟨(fun k r hr => by cases hr), (fun k n hn => by cases hn)⟩
  exact Run.always_iff_eachStep (I := NeverRaises) (A := fun _ _ => True) (fun _ h => h)
    (fun s op h _ => neverRaises_iff.trans (readable_step_iff (neverRaises_iff.mp h) op))
    (fun _ _ _ _ hP => hP) run {} hempty (fun _ _ _ => trivial)

/-- A peer's message with a status this node does not know: its row no longer decodes. -/
theorem poisoned_by_message :
    ¬ Run.Always step NeverRaises {} [(0, .mutate (.handleSyncMessage
      { version := 1, senderNode := "n2", timestamp := 1,
        taskState := some { taskId := "task_a", title := "build", status := "paused",
                            version := 1 } }))] := by
  intro h
  have hrows := tasksDecode_iff.mp (neverRaises_iff.mp (h _ (List.prefix_refl _))).tasks
  have hrow := hrows
    { id := "task_a", title := "build", status := "paused", version := 1, createdAt := 0,
      updatedAt := 0 } (by decide)
  exact absurd hrow (by decide)

end ClusterStore

end HermesCluster
