import HermesCluster.Lib.Raise
import HermesCluster.Lib.Run
import HermesCluster.State.ClusterStore

/-!
# What the methods of `ClusterStore` do

The task rows and their readers, one lemma a method, at one task id.  Every method that
counts the version writes `bumped`, which is one more as long as the version fits 64 bits.

* `getAllTasks_ok_iff`, `getAllNodes_ok_iff`: a listing succeeds exactly when every row
  decodes.
* `get?_triggerPendingTasks`: each pending row is promoted or not by the table as it was
  before the loop (`promoted`).
* `schedulePending_ok`, `schedulePending_raises`: what `schedule_pending` needs to succeed;
  it then sends each ready row to the first online node that fits it (`scheduled`).
* `handleSyncMessage_applied`, `syncVersion_logged`: a message that is applied is logged,
  which makes its version the sync version, and its task state is written.
-/

namespace HermesCluster.ClusterStore

variable {s : ClusterStore} {now : Time} {t k : TaskId} {r : TaskRow}

/-! ### Integers -/

theorem fits64_iff {n : Int} :
    fits64 n = true ↔ -9223372036854775808 ≤ n ∧ n ≤ 9223372036854775807 := by
  rw [fits64, decide_eq_true_eq]

theorem bumped_of_lt {version : Int} (h : version < 9223372036854775808) :
    bumped version = version + 1 := if_pos h

theorem bumped_of_not_lt {version : Int} (h : ¬ version < 9223372036854775808) :
    bumped version = version := if_neg h

theorem bumped_of_fits {version : Int} (h : fits64 version = true) :
    bumped version = version + 1 := by
  rw [fits64_iff] at h
  exact bumped_of_lt (by omega)

theorem fits64_bumped {version : Int} (h : fits64 version = true) :
    fits64 (bumped version) = true ↔ version < 9223372036854775807 := by
  rw [bumped_of_fits h, fits64_iff]
  rw [fits64_iff] at h
  omega

/-! ### Reading -/

/-- The task of a row; a text that is no status counts as pending. -/
def readRow (r : TaskRow) : Task :=
  taskOf r (match TaskStatus.ofValue r.status with
    | .ok status => status
    | .error _ => .pending)

theorem readRow_of_status {status : TaskStatus} (h : r.status = status.value) :
    readRow r = taskOf r status := by
  rw [readRow, h, TaskStatus.ofValue_value]

theorem rowToTask_eq (h : decodes r = true) : rowToTask r = .ok (readRow r) := by
  obtain ⟨status, hs, hv⟩ := decodes_iff.mp h
  rw [rowToTask_ok hs hv, readRow_of_status hs]

@[simp] theorem readRow_id (r : TaskRow) : (readRow r).id = r.id := rfl

theorem getTask_of_some (hr : s.tasks.get? t = some r) (h : decodes r = true) :
    s.getTask t = .ok (some (readRow r)) := by
  rw [getTask, hr]
  show (rowToTask r).map some = _
  rw [rowToTask_eq h]
  rfl

theorem getTask_of_none (hr : s.tasks.get? t = none) : s.getTask t = .ok none := by
  rw [getTask, hr]

theorem mapM_rowToTask_ok {rows : List TaskRow} (h : ∀ r ∈ rows, decodes r = true) :
    rows.mapM rowToTask = .ok (rows.map readRow) :=
  Raise.mapM_ok fun r hr => rowToTask_eq (h r hr)

theorem mapM_rowToTask_iff {rows : List TaskRow} :
    (∃ tasks, rows.mapM rowToTask = .ok tasks) ↔ ∀ r ∈ rows, decodes r = true := by
  refine ⟨?_, ?_⟩
  · intro ⟨tasks, h⟩ r hr
    by_contra hd
    obtain ⟨e, he⟩ := rowToTask_error (Bool.eq_false_iff.mpr hd)
    obtain ⟨e', he'⟩ := Raise.mapM_error hr he
    rw [h] at he'
    cases he'
  · exact fun h => ⟨_, mapM_rowToTask_ok h⟩

theorem mapM_rowToNode_ok {rows : List Node} (h : ∀ n ∈ rows, n.load ≠ .nan) :
    rows.mapM rowToNode = .ok rows := by
  have hone : ∀ n ∈ rows, rowToNode n = .ok (id n) := fun n hn => if_neg (h n hn)
  rw [Raise.mapM_ok hone, List.map_id]

theorem mapM_rowToNode_iff {rows : List Node} :
    (∃ nodes, rows.mapM rowToNode = .ok nodes) ↔ ∀ n ∈ rows, n.load ≠ .nan := by
  refine ⟨?_, ?_⟩
  · intro ⟨nodes, h⟩ n hn hnan
    obtain ⟨e, he⟩ := Raise.mapM_error (f := rowToNode) hn (if_pos hnan)
    rw [h] at he
    cases he
  · exact fun h => ⟨rows, mapM_rowToNode_ok h⟩

theorem getNode_of_some {n : NodeId} {node : Node} (hn : s.nodes.get? n = some node)
    (h : node.load ≠ .nan) : s.getNode n = .ok (some node) := by
  rw [getNode, hn]
  exact congrArg (Except.map some) (if_neg h)

theorem getNode_of_nan {n : NodeId} {node : Node} (hn : s.nodes.get? n = some node)
    (h : node.load = .nan) :
    s.getNode n = .error (.valueError "load should be a valid number") := by
  rw [getNode, hn]
  exact congrArg (Except.map some) (if_pos h)

theorem getAllTasks_ok_iff :
    (∃ tasks, s.getAllTasks = .ok tasks) ↔ ∀ r ∈ s.tasks.rows, decodes r = true :=
  mapM_rowToTask_iff

/-- A listing that returns has the tasks of the rows. -/
theorem getAllTasks_eq {tasks : List Task} (h : s.getAllTasks = .ok tasks) :
    tasks = s.tasks.rows.map readRow := by
  have hrows := mapM_rowToTask_ok (getAllTasks_ok_iff.mp ⟨tasks, h⟩)
  exact Except.ok.inj (h.symm.trans hrows)

/-! ### Single updates -/

theorem get?_setTaskStatus (s : ClusterStore) (now : Time) (taskId : TaskId)
    (status : TaskStatus) (failReason : String) (k : TaskId) :
    (s.setTaskStatus now taskId status failReason).tasks.get? k =
      if k = taskId then (s.tasks.get? k).map (withStatus now status failReason)
      else s.tasks.get? k :=
  Table.get?_modify s.tasks taskId (withStatus now status failReason) (fun _ => rfl) k

theorem get?_unassignTask : (s.unassignTask now t).tasks.get? k =
    if k = t then (s.tasks.get? k).map (unassigned now) else s.tasks.get? k :=
  Table.get?_modify _ _ (unassigned now) (fun _ => rfl) _

theorem get?_unblockTask : (s.unblockTask now t).2.tasks.get? k =
    if k = t then (s.tasks.get? k).map (unblocked now) else s.tasks.get? k :=
  Table.get?_modify _ _ (unblocked now) (key_unblocked now) _

theorem get?_setDependencies (dependsOn : List TaskId) :
    (s.setDependencies now t dependsOn).tasks.get? k =
      if k = t then (s.tasks.get? k).map (withDependencies now dependsOn) else s.tasks.get? k :=
  Table.get?_modify _ _ (withDependencies now dependsOn) (fun _ => rfl) _

theorem get?_promote : (s.promote now t).tasks.get? k =
    if k = t then (s.tasks.get? k).map (madeReady now) else s.tasks.get? k :=
  Table.get?_modify _ _ (madeReady now) (key_madeReady now) _

theorem get?_assignTask (nodeId : NodeId) : (s.assignTask now t nodeId).tasks.get? k =
    if k = t then (s.tasks.get? k).map (assignedOn now nodeId) else s.tasks.get? k :=
  Table.get?_modify _ _ (assignedOn now nodeId) (fun _ => rfl) _

/-- An applied task state writes the row of its task, old or new, and no other. -/
theorem get?_applyTaskState (s : ClusterStore) (now : Time) (ts : TaskSync) (taskId : TaskId) :
    (s.applyTaskState now ts).tasks.get? taskId =
      if taskId = ts.taskId then
        some ((s.tasks.get? taskId).elim (syncedNew now ts) (synced now ts))
      else s.tasks.get? taskId := by
  unfold applyTaskState
  cases hget : s.tasks.get? ts.taskId with
  | none =>
    refine (Table.get?_put _ _ _).trans ?_
    by_cases hid : taskId = ts.taskId
    · rw [if_pos hid, hid, hget]
      exact if_pos rfl
    · rw [if_neg hid]
      exact if_neg hid
  | some r =>
    refine (Table.get?_modify s.tasks ts.taskId (synced now ts) (fun _ => rfl) taskId).trans ?_
    by_cases hid : taskId = ts.taskId
    · rw [if_pos hid, if_pos hid, hid, hget]
      rfl
    · rw [if_neg hid, if_neg hid]

/-! ### `create_task` -/

/-- The row `create_task` inserts. -/
def insertedRow (now : Time) (taskId : TaskId) (title : String) (requires : List Capability)
    (priority : Int) : TaskRow :=
  { id := taskId, title := title, requires := requires, dependsOn := [], priority := priority,
    status := TaskStatus.pending.value, createdAt := now, updatedAt := now, version := 1 }

/-- A `create_task` that does not raise promotes the row under its id, old or new. -/
theorem createTask_ok (s : ClusterStore) (now : Time) (t : TaskId) {priority : Int}
    (title : String) (requires : List Capability) (h : fits64 priority = true) :
    ∃ s', s.createTask now t title requires priority = .ok s' ∧ s'.nodes = s.nodes ∧
      ∀ k, s'.tasks.get? k =
        if k = t then
          some (madeReady now
            ((s.tasks.get? k).getD (insertedRow now t title requires priority)))
        else s.tasks.get? k := by
  rw [createTask, if_pos h]
  refine ⟨_, rfl, rfl, fun k => ?_⟩
  refine (Table.get?_modify _ t (madeReady now) (key_madeReady now) k).trans ?_
  by_cases hk : k = t
  · rw [if_pos hk, if_pos hk, Table.get?_insertIgnore]
    exact congrArg (Option.map (madeReady now)) (if_pos hk)
  · rw [if_neg hk, if_neg hk, Table.get?_insertIgnore]
    exact if_neg hk

theorem createTask_raises {priority : Int} (title : String) (requires : List Capability)
    (h : ¬ fits64 priority = true) :
    s.createTask now t title requires priority = .error .overflowError := by
  rw [createTask, if_neg h]

/-! ### `trigger_pending_tasks` -/

/-- `t` has a row with the text `completed`. -/
def Completed (s : ClusterStore) (t : TaskId) : Prop :=
  ∃ r, s.tasks.get? t = some r ∧ r.status = TaskStatus.completed.value

theorem not_completed_of_none (h : s.tasks.get? t = none) : ¬ s.Completed t := by
  rintro ⟨r, hr, -⟩
  rw [h] at hr
  cases hr

theorem completed_of_some (h : s.tasks.get? t = some r) :
    s.Completed t ↔ r.status = TaskStatus.completed.value := by
  refine ⟨?_, fun hst => ⟨r, h, hst⟩⟩
  rintro ⟨r', hr', hst⟩
  rw [h] at hr'
  cases hr'
  exact hst

/-- An update of every row that completes none and undoes no completion. -/
theorem completed_of_map {s' : ClusterStore} {f : TaskRow → TaskRow}
    (hget : ∀ k, s'.tasks.get? k = (s.tasks.get? k).map f)
    (hf : ∀ r, (f r).status = TaskStatus.completed.value ↔
      r.status = TaskStatus.completed.value) (d : TaskId) : s'.Completed d ↔ s.Completed d := by
  rw [Completed, hget]
  cases hd : s.tasks.get? d with
  | none => simp [not_completed_of_none hd]
  | some r =>
    rw [completed_of_some hd, Option.map_some]
    simp only [Option.some.injEq, exists_eq_left']
    exact hf r

theorem allDone_iff {deps : List TaskId} : s.allDone deps ↔ ∀ d ∈ deps, s.Completed d := by
  rw [allDone, List.all_eq_true]
  refine forall₂_congr (fun d _ => ?_)
  cases h : s.tasks.get? d with
  | none => simp [not_completed_of_none h]
  | some x => simp [completed_of_some h]

theorem allDone_congr {s' : ClusterStore} (h : ∀ d, s'.Completed d ↔ s.Completed d)
    (deps : List TaskId) : s'.allDone deps = s.allDone deps := by
  rw [Bool.eq_iff_iff, allDone_iff, allDone_iff]
  exact forall₂_congr (fun d _ => h d)

theorem madeReady_status_completed (r : TaskRow) :
    (madeReady now r).status = TaskStatus.completed.value ↔
      r.status = TaskStatus.completed.value := by
  unfold madeReady
  split
  next h =>
    have hne : TaskStatus.ready.value ≠ TaskStatus.completed.value := by decide
    have hne' : TaskStatus.pending.value ≠ TaskStatus.completed.value := by decide
    rw [h]
    exact iff_of_false hne hne'
  · exact Iff.rfl

/-- A promotion completes nothing and undoes no completion. -/
theorem completed_promote (d : TaskId) : (s.promote now t).Completed d ↔ s.Completed d := by
  rw [Completed, get?_promote]
  by_cases hd : d = t
  · rw [if_pos hd]
    cases h : s.tasks.get? d with
    | none => simp [Completed, h]
    | some r => simp [Completed, h, madeReady_status_completed]
  · rw [if_neg hd, Completed]

/-- Promotion leaves the version as it is, so it makes no row unreadable. -/
theorem decodes_madeReady (now : Time) (r : TaskRow) : decodes (madeReady now r) = decodes r := by
  rw [madeReady]
  split
  · rename_i h
    rw [decodes, decodes, h]
    rfl
  · rfl

/-- What `trigger_pending_tasks` does to a row of the table `s`. -/
def promoted (s : ClusterStore) (now : Time) (r : TaskRow) : TaskRow :=
  if s.allDone r.dependsOn then madeReady now r else r

@[simp] theorem promoted_dependsOn (r : TaskRow) :
    (s.promoted now r).dependsOn = r.dependsOn := by
  rw [promoted, madeReady]
  split
  · split
    · rfl
    · rfl
  · rfl

@[simp] theorem promoted_requires (r : TaskRow) : (s.promoted now r).requires = r.requires := by
  rw [promoted, madeReady]
  split
  · split
    · rfl
    · rfl
  · rfl

theorem promoted_status_completed (r : TaskRow) :
    (s.promoted now r).status = TaskStatus.completed.value ↔
      r.status = TaskStatus.completed.value := by
  rw [promoted]
  split
  · exact madeReady_status_completed r
  · exact Iff.rfl

theorem decodes_promoted (now : Time) (r : TaskRow) :
    decodes (s.promoted now r) = decodes r := by
  rw [promoted]
  split
  · exact decodes_madeReady now r
  · rfl

/-- One turn of the loop: the empty dependency list needs no case of its own. -/
theorem triggerOne_eq (acc : Nat × ClusterStore) (r : TaskRow) : triggerOne now acc r =
    if acc.2.allDone r.dependsOn then (acc.1 + 1, acc.2.promote now r.id) else acc := by
  rw [triggerOne]
  by_cases hd : r.dependsOn = []
  · rw [if_pos hd, if_pos (by rw [hd]; rfl)]
  · rw [if_neg hd]

theorem nodes_foldl_triggerOne (l : List TaskRow) (acc : Nat × ClusterStore) :
    (l.foldl (triggerOne now) acc).2.nodes = acc.2.nodes := by
  refine Run.exec_keeps (fun acc : Nat × ClusterStore => acc.2.nodes) (fun acc r => ?_) l acc
  rw [triggerOne_eq]
  split <;> rfl

/-- A turn of the loop, while the completed tasks are those of `s`. -/
theorem get?_triggerOne (acc : Nat × ClusterStore) (a : TaskRow) (k : TaskId)
    (hc : ∀ d, acc.2.Completed d ↔ s.Completed d) :
    (triggerOne now acc a).2.tasks.get? k =
      if k = a.id then
        (acc.2.tasks.get? k).map fun r => if s.allDone a.dependsOn then madeReady now r else r
      else acc.2.tasks.get? k := by
  rw [triggerOne_eq, allDone_congr hc]
  by_cases h : s.allDone a.dependsOn = true
  · simp only [if_pos h]
    exact get?_promote
  · simp only [if_neg h, Option.map_id_fun', id]
    exact (ite_self _).symm

theorem completed_triggerOne (acc : Nat × ClusterStore) (a : TaskRow)
    (hc : ∀ d, acc.2.Completed d ↔ s.Completed d) :
    ∀ d, (triggerOne now acc a).2.Completed d ↔ s.Completed d := by
  intro d
  rw [triggerOne_eq]
  split
  · exact (completed_promote d).trans (hc d)
  · exact hc d

/-- **Promotion.**  `trigger_pending_tasks` makes each pending row ready exactly when its
dependencies are completed, and changes no other row. -/
theorem get?_triggerPendingTasks :
    (s.triggerPendingTasks now).2.tasks.get? k = (s.tasks.get? k).map (s.promoted now) := by
  have hnodup : ((s.tasks.rows.filter (·.status = TaskStatus.pending.value)).map
      TaskRow.id).Nodup := (List.filter_sublist.map TaskRow.id).nodup s.tasks.nodup
  refine (Table.look_foldl_keyed (fun acc : Nat × ClusterStore => acc.2.tasks.get?)
    (triggerOne now) TaskRow.id
    (fun a o => o.map fun r => if s.allDone a.dependsOn then madeReady now r else r)
    (I := fun acc => ∀ d, acc.2.Completed d ↔ s.Completed d) completed_triggerOne
    get?_triggerOne _ hnodup (0, s) (fun _ => Iff.rfl) k).trans ?_
  cases hk : s.tasks.get? k with
  | none => split <;> rfl
  | some r =>
    have hid : r.id = k := Table.key_of_get? hk
    split
    next a hf =>
      -- the pending row under `k` is the row of the table
      have ha := (List.mem_filter.mp (List.mem_of_find?_eq_some hf)).1
      have hak : a.id = k := by simpa using List.find?_some hf
      have hget := Table.get?_of_mem ha
      rw [key_taskRow, hak, hk] at hget
      rw [Option.some.inj hget]
      rfl
    next hf =>
      have hnot : r.status ≠ TaskStatus.pending.value := by
        intro hp
        have hmem : r ∈ s.tasks.rows.filter (·.status = TaskStatus.pending.value) :=
          List.mem_filter.mpr ⟨Table.mem_of_get? hk, by simpa using hp⟩
        have hne := List.find?_eq_none.mp hf r hmem
        simp [hid] at hne
      have hsame : s.promoted now r = r := by
        rw [promoted, madeReady, if_neg hnot, ite_self]
      rw [Option.map_some, hsame]

/-! ### `schedule_pending` -/

/-- The node the inner loop of `schedule_pending` stops at. -/
def firstFit (s : ClusterStore) (requires : List Capability) : Option Node :=
  s.onlineRows.find? (ClusterState.fits requires)

/-- What `schedule_pending` does to a row of the table `s`. -/
def scheduled (s : ClusterStore) (now : Time) (r : TaskRow) : TaskRow :=
  if r.status = TaskStatus.ready.value then
    match s.firstFit r.requires with
    | some node => assignedOn now node.id r
    | none => r
  else r

/-- What a turn of the loop makes of the row `r` for the task `x`. -/
def scheduledRow (online : List Node) (now : Time) (x : Task) (r : TaskRow) : TaskRow :=
  match online.find? (ClusterState.fits x.requires) with
  | some node => assignedOn now node.id r
  | none => r

theorem mem_readyRows : r ∈ s.readyRows ↔
    s.tasks.get? r.id = some r ∧ r.status = TaskStatus.ready.value := by
  rw [readyRows, List.mem_insertionSort, List.mem_filter, Table.mem_rows_iff]
  simp

theorem nodup_readyRows : (s.readyRows.map TaskRow.id).Nodup := by
  have hp : s.readyRows.Perm (s.tasks.rows.filter (·.status = TaskStatus.ready.value)) :=
    List.perm_insertionSort _ _
  rw [(hp.map TaskRow.id).nodup_iff]
  exact (List.filter_sublist.map TaskRow.id).nodup s.tasks.nodup

theorem get?_scheduleOne (online : List Node) (acc : Nat × ClusterStore) (x : Task) :
    (scheduleOne online now acc x).2.tasks.get? k =
      if k = x.id then (acc.2.tasks.get? k).map (scheduledRow online now x)
      else acc.2.tasks.get? k := by
  rw [scheduleOne]
  cases hf : online.find? (ClusterState.fits x.requires) with
  | none =>
    have hrow : scheduledRow online now x = fun r => r := by
      funext r
      rw [scheduledRow, hf]
    rw [hrow, Option.map_id', ite_self]
  | some node =>
    have hrow : scheduledRow online now x = assignedOn now node.id := by
      funext r
      rw [scheduledRow, hf]
    rw [hrow]
    exact get?_assignTask node.id

theorem nodes_foldl_scheduleOne (online : List Node) (l : List Task)
    (acc : Nat × ClusterStore) :
    (l.foldl (scheduleOne online now) acc).2.nodes = acc.2.nodes := by
  refine Run.exec_keeps (fun acc : Nat × ClusterStore => acc.2.nodes) (fun acc x => ?_) l acc
  rw [scheduleOne]
  split <;> rfl

/-- The rows of the online nodes decode and, if there is an online node, those of the ready
tasks do. -/
def Schedulable (s : ClusterStore) : Prop :=
  (∀ n ∈ s.onlineRows, n.load ≠ .nan) ∧
    (s.onlineRows ≠ [] → ∀ r ∈ s.readyRows, decodes r = true)

/-- A pass that reads the nodes and, if there are any, the tasks. -/
theorem pass_of_online {α : Type} {nodes : Except PyError (List Node)} {online : List Node}
    (idle : α) (tasks : Except PyError (List Task)) (loop : List Node → List Task → α)
    (hnodes : nodes = .ok online) (hne : online ≠ []) :
    (nodes >>= fun online => if online = [] then pure idle
      else tasks >>= fun ready => pure (loop online ready)) = tasks.map (loop online) := by
  rw [hnodes]
  show (if online = [] then _ else _) = _
  rw [if_neg hne]
  cases tasks with
  | error e => rfl
  | ok ready => rfl

/-- The pass when there are online nodes. -/
theorem schedulePending_of_online {online : List Node}
    (honline : s.onlineRows.mapM rowToNode = .ok online) (hne : online ≠ []) :
    s.schedulePending now = (s.readyRows.mapM rowToTask).map
      fun ready => ready.foldl (scheduleOne online now) (0, s) :=
  pass_of_online (0, s) (s.readyRows.mapM rowToTask)
    (fun online ready => ready.foldl (scheduleOne online now) (0, s)) honline hne

theorem schedulePending_eq (h : Schedulable s) :
    s.schedulePending now = .ok (if s.onlineRows = [] then (0, s)
      else (s.readyRows.map readRow).foldl (scheduleOne s.onlineRows now) (0, s)) := by
  have honline := mapM_rowToNode_ok h.1
  by_cases he : s.onlineRows = []
  · rw [schedulePending, honline, if_pos he, he]
    rfl
  · rw [schedulePending_of_online honline he, mapM_rowToTask_ok (h.2 he), if_neg he]
    rfl

theorem schedulePending_raises (now : Time) (h : ¬ Schedulable s) :
    ∃ e, s.schedulePending now = .error e := by
  by_cases hn : ∀ n ∈ s.onlineRows, n.load ≠ .nan
  · have hready : ¬ (s.onlineRows ≠ [] → ∀ r ∈ s.readyRows, decodes r = true) :=
      fun hr => h ⟨hn, hr⟩
    obtain ⟨he, hr⟩ := Classical.not_imp.mp hready
    cases hm : s.readyRows.mapM rowToTask with
    | ok tasks => exact absurd (mapM_rowToTask_iff.mp ⟨tasks, hm⟩) hr
    | error e =>
      refine ⟨e, ?_⟩
      rw [schedulePending_of_online (mapM_rowToNode_ok hn) he, hm]
      rfl
  · cases hm : s.onlineRows.mapM rowToNode with
    | ok nodes => exact absurd (mapM_rowToNode_iff.mp ⟨nodes, hm⟩) hn
    | error e =>
      refine ⟨e, ?_⟩
      rw [schedulePending, hm]
      rfl

theorem schedulable_of_ok {p : Nat × ClusterStore} (h : s.schedulePending now = .ok p) :
    Schedulable s := by
  by_contra hnot
  obtain ⟨e, he⟩ := schedulePending_raises now hnot
  rw [h] at he
  cases he

/-- **Scheduling.**  A `schedule_pending` that succeeds assigns each ready row to the first
online node that has its capabilities, and changes no other row. -/
theorem schedulePending_ok (now : Time) (h : Schedulable s) :
    ∃ n s', s.schedulePending now = .ok (n, s') ∧ s'.nodes = s.nodes ∧
      ∀ k, s'.tasks.get? k = (s.tasks.get? k).map (s.scheduled now) := by
  rw [schedulePending_eq h]
  by_cases he : s.onlineRows = []
  · rw [if_pos he]
    refine ⟨0, s, rfl, rfl, fun k => ?_⟩
    have hid : s.scheduled now = id := by
      funext r
      simp only [scheduled, firstFit, he, List.find?_nil, ite_self, id]
    rw [hid, Option.map_id]
    rfl
  · rw [if_neg he]
    refine ⟨_, _, rfl, nodes_foldl_scheduleOne _ _ _, fun k => ?_⟩
    have hnodup : ((s.readyRows.map readRow).map Task.id).Nodup := by
      rw [List.map_map]
      exact nodup_readyRows
    refine (Table.look_foldl_keyed (fun acc : Nat × ClusterStore => acc.2.tasks.get?)
      (scheduleOne s.onlineRows now) Task.id (fun x o => o.map (scheduledRow s.onlineRows now x))
      (I := fun _ => True) (fun _ _ _ => trivial)
      (fun acc x k _ => get?_scheduleOne s.onlineRows acc x) _ hnodup (0, s) trivial k).trans ?_
    cases hk : s.tasks.get? k with
    | none => split <;> rfl
    | some r =>
      have hid : r.id = k := Table.key_of_get? hk
      split
      next x hf =>
        -- the listed task under `k` is that of the row
        obtain ⟨a, ha, hax⟩ := List.mem_map.mp (List.mem_of_find?_eq_some hf)
        have hak : a.id = k := by
          have hxk := List.find?_some hf
          rw [← hax, readRow_id] at hxk
          exact of_decide_eq_true hxk
        obtain ⟨hget, hready⟩ := mem_readyRows.mp ha
        rw [hak, hk] at hget
        rw [Option.map_some, Option.map_some, ← hax, Option.some.inj hget, scheduled,
          if_pos hready]
        rfl
      next hf =>
        have hnot : r.status ≠ TaskStatus.ready.value := by
          intro hr
          have hmem : readRow r ∈ s.readyRows.map readRow :=
            List.mem_map_of_mem (mem_readyRows.mpr ⟨hid ▸ hk, hr⟩)
          have hne := List.find?_eq_none.mp hf _ hmem
          exact hne (decide_eq_true hid)
        rw [Option.map_some, scheduled, if_neg hnot]

/-- What a `schedule_pending` that returned did. -/
theorem schedulePending_inv {n : Nat} {s' : ClusterStore}
    (h : s.schedulePending now = .ok (n, s')) :
    s'.nodes = s.nodes ∧ ∀ k, s'.tasks.get? k = (s.tasks.get? k).map (s.scheduled now) := by
  obtain ⟨m, s₁, hok, hdone⟩ := schedulePending_ok now (schedulable_of_ok h)
  rw [h] at hok
  cases hok
  exact hdone

theorem schedulePending_raises_iff (now : Time) :
    (∃ e, s.schedulePending now = .error e) ↔ ¬ Schedulable s := by
  refine ⟨fun ⟨e, he⟩ h => ?_, schedulePending_raises now⟩
  rw [schedulePending_eq h] at he
  cases he

/-! ### `handle_sync_message` -/

/-- The store with the message in its log and the message's task state written. -/
def logged (s : ClusterStore) (now : Time) (msg : SyncMessage) : ClusterStore :=
  let s := { s with syncLog := s.syncLog ++ [msg] }
  match msg.taskState with
  | some ts => s.applyTaskState now ts
  | none => s

theorem handleSyncMessage_applied {s : ClusterStore} {msg : SyncMessage} (now : Time)
    (hv : s.syncVersion < msg.version) (hs : storable msg) :
    s.handleSyncMessage now msg = .ok (true, s.logged now msg) := by
  rw [handleSyncMessage, if_neg (not_le.mpr hv), if_pos hs]
  rfl

theorem handleSyncMessage_raises {s : ClusterStore} {msg : SyncMessage} (now : Time)
    (hv : s.syncVersion < msg.version) (hs : ¬ storable msg) :
    s.handleSyncMessage now msg = .error .overflowError := by
  rw [handleSyncMessage, if_neg (not_le.mpr hv), if_neg hs]

theorem syncLog_applyTaskState (s : ClusterStore) (now : Time) (ts : TaskSync) :
    (s.applyTaskState now ts).syncLog = s.syncLog := by
  unfold applyTaskState
  split <;> rfl

theorem syncLog_logged (s : ClusterStore) (now : Time) (msg : SyncMessage) :
    (s.logged now msg).syncLog = s.syncLog ++ [msg] := by
  unfold logged
  cases msg.taskState with
  | none => rfl
  | some ts => exact syncLog_applyTaskState _ now ts

theorem le_syncVersion {s : ClusterStore} {msg : SyncMessage} (h : msg ∈ s.syncLog) :
    msg.version ≤ s.syncVersion := by
  have hmem : msg.version ∈ s.syncLog.map SyncMessage.version := List.mem_map_of_mem h
  unfold syncVersion
  cases hmax : (s.syncLog.map SyncMessage.version).max? with
  | none =>
    rw [List.max?_eq_none_iff] at hmax
    rw [hmax] at hmem
    exact absurd hmem List.not_mem_nil
  | some v => exact (List.max?_eq_some_iff.mp hmax).2 _ hmem

/-- A message that passes the gate sets the sync version. -/
theorem syncVersion_logged {s : ClusterStore} {msg : SyncMessage} (now : Time)
    (hv : s.syncVersion < msg.version) : (s.logged now msg).syncVersion = msg.version := by
  have hmax : ((s.logged now msg).syncLog.map SyncMessage.version).max? = some msg.version := by
    rw [syncLog_logged, List.map_append, List.map_singleton, List.max?_eq_some_iff]
    refine ⟨List.mem_append_right _ (List.mem_singleton.mpr rfl), fun v hmem => ?_⟩
    rcases List.mem_append.mp hmem with hold | hnew
    · obtain ⟨old, holds, rfl⟩ := List.mem_map.mp hold
      exact (lt_of_le_of_lt (le_syncVersion holds) hv).le
    · exact (List.mem_singleton.mp hnew).le
  unfold syncVersion
  rw [hmax]

end HermesCluster.ClusterStore
