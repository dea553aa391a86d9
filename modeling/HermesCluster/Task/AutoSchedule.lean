import HermesCluster.Sync.Readable
import HermesCluster.Task.Runnable

/-!
# What `auto_schedule` reports

`auto_schedule` promotes, schedules, and then makes up its result from the table as it is after
that: `task_ids_scheduled` are the tasks that run on a node by then.  The numbers are right
whenever it returns (`autoSchedule_counts`), but the ids are those of its own work only if no
task ran before the call (`auto_schedule_own_work_iff`).
-/

namespace HermesCluster

namespace ClusterStore

variable {s s' : ClusterStore} {now : Time} {t k : TaskId} {r : TaskRow}

/-! ### What the result is to say -/

/-- How many tasks have the status. -/
def countStatus (s : ClusterStore) (status : TaskStatus) : Nat :=
  s.tasks.rows.countP (·.status = status.value)

/-- The task was pending, and is ready or running in `s'`. -/
def MovedOn (s' : ClusterStore) (r : TaskRow) : Prop :=
  r.status = TaskStatus.pending.value ∧
    (s'.statusOf r.id = some TaskStatus.ready.value ∨
      s'.statusOf r.id = some TaskStatus.running.value)

instance : Decidable (MovedOn s' r) := by unfold MovedOn; infer_instance

/-- The result of a call that took `s` to `s'` says what the call did. -/
structure ReportsOwnWork (s s' : ClusterStore) (result : ScheduleResult) : Prop where
  ids : ∀ k, k ∈ result.taskIdsScheduled ↔
    s.statusOf k ≠ some TaskStatus.running.value ∧ s'.statusOf k = some TaskStatus.running.value
  number : result.taskIdsScheduled.length = result.scheduled
  promoted : result.promoted = s.tasks.rows.countP (MovedOn s')
  totalReady : result.totalReady = s'.countStatus .ready
  totalPending : result.totalPending = s'.countStatus .pending

/-! ### The two passes, row by row -/

/-- The task is ready once the pending tasks are promoted. -/
def TakesTurn (s : ClusterStore) (r : TaskRow) : Prop :=
  r.status = TaskStatus.ready.value ∨
    (r.status = TaskStatus.pending.value ∧ s.allDone r.dependsOn)

theorem TakesTurn.not_running (h : s.TakesTurn r) : r.status ≠ TaskStatus.running.value := by
  have hne : TaskStatus.ready.value ≠ TaskStatus.running.value := by decide
  have hne' : TaskStatus.pending.value ≠ TaskStatus.running.value := by decide
  rcases h with hr | ⟨hp, -⟩
  · rw [hr]
    exact hne
  · rw [hp]
    exact hne'

/-- What promotion and scheduling make of a row. -/
def autoScheduled (s : ClusterStore) (now : Time) (r : TaskRow) : TaskRow :=
  s.scheduled now (s.promoted now r)

theorem promoted_of_not_takesTurn (h : ¬ s.TakesTurn r) : s.promoted now r = r := by
  rw [promoted]
  split
  · rename_i hdone
    rw [madeReady, if_neg fun hp => h (.inr ⟨hp, hdone⟩)]
  · rfl

theorem promoted_version (r : TaskRow) : (s.promoted now r).version = r.version := by
  rw [promoted, madeReady]
  split
  · split
    · rfl
    · rfl
  · rfl

theorem autoScheduled_placed (h : s.TakesTurn r) {node : Node}
    (hf : s.firstFit r.requires = some node) :
    s.autoScheduled now r = assignedOn now node.id (s.promoted now r) := by
  rw [autoScheduled, scheduled, if_pos ((promoted_status_ready now r).mpr h), promoted_requires, hf]

theorem autoScheduled_waits (h : s.TakesTurn r) (hf : s.firstFit r.requires = none) :
    (s.autoScheduled now r).status = TaskStatus.ready.value := by
  have hready := (promoted_status_ready now r).mpr h
  rw [autoScheduled, scheduled, if_pos hready, promoted_requires, hf]
  exact hready

theorem autoScheduled_same (h : ¬ s.TakesTurn r) : s.autoScheduled now r = r := by
  rw [autoScheduled, promoted_of_not_takesTurn h, scheduled, if_neg fun hr => h (.inl hr)]

/-- A row comes out as running if it takes a turn and finds a node, or ran before. -/
theorem autoScheduled_running_iff (r : TaskRow) :
    (s.autoScheduled now r).status = TaskStatus.running.value ↔
      (s.TakesTurn r ∧ (s.firstFit r.requires).isSome) ∨ r.status = TaskStatus.running.value := by
  by_cases h : s.TakesTurn r
  · cases hf : s.firstFit r.requires with
    | none =>
      have hne : TaskStatus.ready.value ≠ TaskStatus.running.value := by decide
      rw [autoScheduled_waits h hf]
      exact iff_of_false hne fun hor => hor.elim (fun ha => by cases ha.2) h.not_running
    | some node =>
      rw [autoScheduled_placed h hf]
      exact iff_of_true rfl (.inl ⟨h, rfl⟩)
  · rw [autoScheduled_same h]
    exact ⟨.inr, fun hor => hor.elim (fun ha => absurd ha.1 h) id⟩

/-- A pending row is promoted if its dependencies are completed, and stays pending if not. -/
theorem autoScheduled_moved_iff (hp : r.status = TaskStatus.pending.value) :
    ((s.autoScheduled now r).status = TaskStatus.ready.value ∨
      (s.autoScheduled now r).status = TaskStatus.running.value) ↔ s.allDone r.dependsOn := by
  by_cases hdone : s.allDone r.dependsOn = true
  · refine iff_of_true ?_ hdone
    have h : s.TakesTurn r := .inr ⟨hp, hdone⟩
    cases hf : s.firstFit r.requires with
    | none => exact .inl (autoScheduled_waits h hf)
    | some node =>
      rw [autoScheduled_placed h hf]
      exact .inr rfl
  · have h : ¬ s.TakesTurn r := by
      rintro (hr | ⟨-, hd⟩)
      · rw [hp] at hr
        exact absurd hr (by decide)
      · exact hdone hd
    rw [autoScheduled_same h, hp]
    exact iff_of_false (by decide) hdone

/-- Scheduling changes a row if it takes a turn and finds a node. -/
theorem autoScheduled_ne_iff (r : TaskRow) : s.autoScheduled now r ≠ s.promoted now r ↔
    s.TakesTurn r ∧ (s.firstFit r.requires).isSome := by
  by_cases h : s.TakesTurn r
  · have hready := (promoted_status_ready now r).mpr h
    cases hf : s.firstFit r.requires with
    | none =>
      refine iff_of_false (fun hne => hne ?_) fun ha => by cases ha.2
      rw [autoScheduled, scheduled, if_pos hready, promoted_requires, hf]
    | some node =>
      refine iff_of_true (fun heq => ?_) ⟨h, rfl⟩
      have hne : TaskStatus.running.value ≠ TaskStatus.ready.value := by decide
      rw [← heq, autoScheduled_placed h hf] at hready
      exact hne hready
  · rw [autoScheduled_same h, promoted_of_not_takesTurn h]
    exact iff_of_false (fun hne => hne rfl) fun ha => h ha.1

/-! ### The numbers -/

/-- The loop of `trigger_pending_tasks` counts the rows whose dependencies are completed. -/
theorem foldl_triggerOne_fst (l : List TaskRow) (acc : Nat × ClusterStore)
    (hc : ∀ d, acc.2.Completed d ↔ s.Completed d) :
    (l.foldl (triggerOne now) acc).1 = acc.1 + l.countP (fun r => s.allDone r.dependsOn) := by
  induction l generalizing acc with
  | nil => rfl
  | cons a l ih =>
    rw [List.foldl_cons, ih _ (completed_triggerOne acc a hc), List.countP_cons, triggerOne_eq,
      allDone_congr hc]
    split
    · omega
    · omega

theorem triggerPendingTasks_fst (s : ClusterStore) (now : Time) : (s.triggerPendingTasks now).1 =
    s.tasks.rows.countP fun r => r.status = TaskStatus.pending.value ∧ s.allDone r.dependsOn := by
  rw [triggerPendingTasks, foldl_triggerOne_fst _ (0, s) fun _ => Iff.rfl, List.countP_filter,
    Nat.zero_add]
  refine List.countP_congr fun r _ => ?_
  simp [and_comm]

/-- The tasks that run on a node: `task_ids_scheduled`, when every row is read. -/
def runners (s : ClusterStore) : List TaskId :=
  (s.tasks.rows.filter fun r =>
    r.status = TaskStatus.running.value ∧ r.assignedTo.getD "" ≠ "").map TaskRow.id

theorem mem_runners : k ∈ s.runners ↔ ∃ r, s.tasks.get? k = some r ∧
    r.status = TaskStatus.running.value ∧ r.assignedTo.getD "" ≠ "" := by
  refine Table.mem_map_key_filter.trans ?_
  simp only [decide_eq_true_eq]

theorem nodup_runners (s : ClusterStore) : s.runners.Nodup :=
  (List.filter_sublist.map TaskRow.id).nodup s.tasks.nodup

theorem readRow_status_of_decodes (h : decodes r = true) (status : TaskStatus) :
    (readRow r).status = status ↔ r.status = status.value := by
  rw [readRow_status h, TaskStatus.value_inj]

theorem length_filter_readRow (h : s.TasksDecode) (status : TaskStatus) :
    ((s.tasks.rows.map readRow).filter (·.status = status)).length = s.countStatus status := by
  rw [← List.countP_eq_length_filter, List.countP_map, countStatus]
  refine List.countP_congr fun r hr => ?_
  simp [readRow_status_of_decodes (tasksDecode_iff.mp h r hr)]

theorem map_filter_readRow (h : s.TasksDecode) :
    ((s.tasks.rows.map readRow).filter fun t =>
      t.status = .running ∧ t.assignedTo.getD "" ≠ "").map Task.id = s.runners := by
  rw [List.filter_map, List.map_map, runners]
  refine congrArg (List.map TaskRow.id) (List.filter_congr fun r hr => ?_)
  have hst := readRow_status_of_decodes (tasksDecode_iff.mp h r hr) .running
  simp only [Function.comp_apply, hst]
  rfl

/-! ### The call -/

/-- The result when every row is read after the two passes. -/
def resultOf (promoted scheduled : Nat) (s' : ClusterStore) : ScheduleResult where
  promoted := promoted
  scheduled := scheduled
  totalReady := s'.countStatus .ready
  totalPending := s'.countStatus .pending
  taskIdsScheduled := s'.runners

theorem run_autoSchedule_returns {n : Nat}
    (h : (s.triggerPendingTasks now).2.schedulePending now = .ok (n, s')) (hd : s'.TasksDecode) :
    (TaskManager.autoSchedule now).run s =
      (.ok (resultOf (s.triggerPendingTasks now).1 n s'), s') := by
  have hpromote : (Session.triggerPendingTasks now).run s = (.ok _, _) := Prog.run_write _ s
  have hschedule : (Session.schedulePending now).run (s.triggerPendingTasks now).2 =
      (.ok n, s') := Prog.run_tx_ok h
  have hread : Session.getAllTasks.run s' = (.ok (s'.tasks.rows.map readRow), s') :=
    Prog.run_read_ok (mapM_rowToTask_ok (tasksDecode_iff.mp hd))
  rw [TaskManager.autoSchedule, Prog.run_bind_ok _ hpromote, Prog.run_bind_ok _ hschedule,
    Prog.run_bind_ok _ hread, length_filter_readRow hd, length_filter_readRow hd,
    map_filter_readRow hd]
  rfl

theorem run_autoSchedule_inv {result : ScheduleResult}
    (h : (TaskManager.autoSchedule now).run s = (.ok result, s')) :
    ∃ n, (s.triggerPendingTasks now).2.schedulePending now = .ok (n, s') ∧ s'.TasksDecode := by
  have hpromote : (Session.triggerPendingTasks now).run s = (.ok _, _) := Prog.run_write _ s
  rw [TaskManager.autoSchedule, Prog.run_bind_ok _ hpromote] at h
  obtain ⟨n, s₁, hschedule, hrest⟩ := Prog.ok_of_run_bind h
  obtain ⟨tasks, s₂, hread, hresult⟩ := Prog.ok_of_run_bind hrest
  obtain ⟨rfl, -, hdec⟩ := getAllTasks_inv hread
  cases hresult
  exact ⟨n, Prog.ok_of_run_tx hschedule, tasksDecode_iff.mpr hdec⟩

/-! ### Its own work -/

instance : Decidable (s.TakesTurn r) := by unfold TakesTurn; infer_instance

/-- The tasks that take a turn and find a node. -/
def started (s : ClusterStore) : List TaskId :=
  (s.tasks.rows.filter fun r => s.TakesTurn r ∧ (s.firstFit r.requires).isSome).map TaskRow.id

theorem mem_started : k ∈ s.started ↔
    ∃ r, s.tasks.get? k = some r ∧ s.TakesTurn r ∧ (s.firstFit r.requires).isSome := by
  refine Table.mem_map_key_filter.trans ?_
  simp only [decide_eq_true_eq]

theorem nodup_started (s : ClusterStore) : s.started.Nodup :=
  (List.filter_sublist.map TaskRow.id).nodup s.tasks.nodup

/-- No task ran on a node before, and none comes to run on a node whose id is empty. -/
structure NoOtherRunner (s : ClusterStore) : Prop where
  idle : ∀ k r, s.tasks.get? k = some r → r.status = TaskStatus.running.value →
    r.assignedTo.getD "" = ""
  named : ∀ k r node, s.tasks.get? k = some r → s.TakesTurn r →
    s.firstFit r.requires = some node → node.id ≠ ""

section Passed

variable {n : Nat} (h : (s.triggerPendingTasks now).2.schedulePending now = .ok (n, s'))

include h

theorem get?_autoSchedule (k : TaskId) :
    s'.tasks.get? k = (s.tasks.get? k).map (s.autoScheduled now) := by
  rw [(schedulePending_inv h).2, get?_triggerPendingTasks, Option.map_map,
    TaskManager.scheduled_triggerPendingTasks]
  rfl

theorem statusOf_autoSchedule (hr : s.tasks.get? k = some r) :
    s'.statusOf k = some (s.autoScheduled now r).status := by
  rw [statusOf, get?_autoSchedule h, hr]
  rfl

theorem mem_started_iff : k ∈ s.started ↔ s.statusOf k ≠ some TaskStatus.running.value ∧
    s'.statusOf k = some TaskStatus.running.value := by
  rw [mem_started]
  cases hr : s.tasks.get? k with
  | none =>
    have hnone : s'.statusOf k = none := by
      rw [statusOf, get?_autoSchedule h, hr]
      rfl
    rw [hnone]
    refine iff_of_false ?_ fun ha => by cases ha.2
    rintro ⟨r, hr', -⟩
    cases hr'
  | some r =>
    have hold : s.statusOf k = some r.status := by rw [statusOf, hr]; rfl
    rw [statusOf_autoSchedule h hr, hold, Ne, Option.some.injEq, Option.some.injEq,
      autoScheduled_running_iff]
    refine ⟨?_, ?_⟩
    · rintro ⟨r', hr', hturn, hfit⟩
      cases hr'
      exact ⟨hturn.not_running, .inl ⟨hturn, hfit⟩⟩
    · rintro ⟨hnot, hor⟩
      exact ⟨r, rfl, hor.resolve_right hnot⟩

/-- The number `schedule_pending` returns is that of the tasks it starts. -/
theorem length_started : s.started.length = n := by
  obtain ⟨m, s₁, hok, hall⟩ := schedulesAll_schedulePending now (schedulable_of_ok h)
  rw [h] at hok
  cases hok
  have hkeys : ((s.triggerPendingTasks now).2.tasks.keys.filter fun k =>
      s'.tasks.get? k ≠ (s.triggerPendingTasks now).2.tasks.get? k).Nodup :=
    List.filter_sublist.nodup (s.triggerPendingTasks now).2.tasks.nodup
  rw [hall.counted, List.countP_eq_length_filter]
  refine ((List.perm_ext_iff_of_nodup (nodup_started s) hkeys).mpr fun k => ?_).length_eq
  rw [mem_started, List.mem_filter, decide_eq_true_eq, Table.mem_keys, get?_autoSchedule h,
    get?_triggerPendingTasks]
  cases hr : s.tasks.get? k with
  | none => simp
  | some r => simp [autoScheduled_ne_iff]

theorem mem_runners_autoSchedule : k ∈ s'.runners ↔ ∃ r, s.tasks.get? k = some r ∧
    ((s.TakesTurn r ∧ ∃ node, s.firstFit r.requires = some node ∧ node.id ≠ "") ∨
      (r.status = TaskStatus.running.value ∧ r.assignedTo.getD "" ≠ "")) := by
  rw [mem_runners, get?_autoSchedule h]
  cases hr : s.tasks.get? k with
  | none => simp
  | some r =>
    simp only [Option.map_some, Option.some.injEq, exists_eq_left']
    by_cases hturn : s.TakesTurn r
    · rw [or_iff_left fun ha => hturn.not_running ha.1, and_iff_right hturn]
      cases hf : s.firstFit r.requires with
      | none =>
        have hne : TaskStatus.ready.value ≠ TaskStatus.running.value := by decide
        rw [autoScheduled_waits hturn hf]
        exact iff_of_false (fun ha => hne ha.1) fun ⟨_, hnode, _⟩ => by cases hnode
      | some node =>
        rw [autoScheduled_placed hturn hf]
        exact ⟨fun ha => ⟨node, rfl, ha.2⟩, fun ⟨_, hnode, hne⟩ => by cases hnode; exact ⟨rfl, hne⟩⟩
    · rw [autoScheduled_same hturn]
      exact ⟨.inr, fun ha => ha.resolve_left fun ha' => hturn ha'.1⟩

/-- The numbers of the result are right whenever there is one. -/
theorem autoSchedule_counts :
    (s.triggerPendingTasks now).1 = s.tasks.rows.countP (MovedOn s') := by
  rw [triggerPendingTasks_fst]
  refine List.countP_congr fun r hr => ?_
  have hget : s.tasks.get? r.id = some r := Table.get?_of_mem hr
  simp only [decide_eq_true_eq, MovedOn, statusOf_autoSchedule h hget, Option.some.injEq]
  exact and_congr_right fun hp => (autoScheduled_moved_iff hp).symm

/-- The ids of the result are those of the tasks that were started. -/
theorem runners_iff_started :
    (∀ k, k ∈ s'.runners ↔ k ∈ s.started) ↔ s.NoOtherRunner := by
  refine ⟨fun hids => ⟨fun k r hr hrun => ?_, fun k r node hr hturn hf hid => ?_⟩, fun hno k => ?_⟩
  · by_contra hnode
    have hmem := (hids k).mp ((mem_runners_autoSchedule h).mpr ⟨r, hr, .inr ⟨hrun, hnode⟩⟩)
    obtain ⟨r', hr', hturn, -⟩ := mem_started.mp hmem
    rw [hr] at hr'
    cases hr'
    exact hturn.not_running hrun
  · have hmem := (hids k).mpr (mem_started.mpr ⟨r, hr, hturn, by rw [hf]; rfl⟩)
    obtain ⟨r', hr', hor⟩ := (mem_runners_autoSchedule h).mp hmem
    rw [hr] at hr'
    cases hr'
    rcases hor with ⟨-, node', hf', hne⟩ | ⟨hrun, -⟩
    · rw [hf] at hf'
      cases hf'
      exact hne hid
    · exact hturn.not_running hrun
  · rw [mem_runners_autoSchedule h, mem_started]
    refine exists_congr fun r => and_congr_right fun hr => ⟨?_, ?_⟩
    · rintro (⟨hturn, node, hf, -⟩ | ⟨hrun, hnode⟩)
      · exact ⟨hturn, by rw [hf]; rfl⟩
      · exact absurd (hno.idle k r hr hrun) hnode
    · rintro ⟨hturn, hfit⟩
      obtain ⟨node, hf⟩ := Option.isSome_iff_exists.mp hfit
      exact .inl ⟨hturn, node, hf, hno.named k r node hr hturn hf⟩

/-- The result is right if the ids are. -/
theorem reportsOwnWork_iff :
    ReportsOwnWork s s' (resultOf (s.triggerPendingTasks now).1 n s') ↔ s.NoOtherRunner := by
  rw [← runners_iff_started h]
  refine ⟨fun hown k => (hown.ids k).trans (mem_started_iff h).symm, fun hids => ?_⟩
  have hperm : s'.runners.Perm s.started :=
    (List.perm_ext_iff_of_nodup (nodup_runners s') (nodup_started s)).mpr hids
  exact ⟨fun k => (hids k).trans (mem_started_iff h), hperm.length_eq.trans (length_started h),
    autoSchedule_counts h, rfl, rfl⟩

end Passed

/-! ### When the call returns -/

/-- The call can read every row, before the passes and after them. -/
structure ReadsAll (s : ClusterStore) : Prop where
  readable : s.Readable
  room : ∀ k r, s.tasks.get? k = some r → s.TakesTurn r → (s.firstFit r.requires).isSome →
    HasRoom r

theorem decodes_autoScheduled_iff (hd : decodes r = true) :
    decodes (s.autoScheduled now r) = true ↔
      (s.TakesTurn r → (s.firstFit r.requires).isSome → HasRoom r) := by
  rw [autoScheduled, decodes_scheduled_iff (by rw [decodes_promoted]; exact hd),
    promoted_status_ready, promoted_requires, HasRoom, promoted_version]
  exact Iff.rfl

theorem autoSchedule_returns_iff (s : ClusterStore) (now : Time) :
    (∃ result s', (TaskManager.autoSchedule now).run s = (.ok result, s')) ↔ s.ReadsAll := by
  refine ⟨?_, fun hall => ?_⟩
  · rintro ⟨result, s', hrun⟩
    obtain ⟨n, hok, htasks⟩ := run_autoSchedule_inv hrun
    have hafter := (schedulable_triggerPendingTasks now).mp (schedulable_of_ok hok)
    have hrow : ∀ k r, s.tasks.get? k = some r → decodes (s.autoScheduled now r) = true :=
      fun k r hr => htasks k _ (by rw [get?_autoSchedule hok, hr]; rfl)
    have hbefore : s.TasksDecode := by
      intro k r hr
      by_cases hturn : s.TakesTurn r ∧ (s.firstFit r.requires).isSome
      · obtain ⟨hturn, hfit⟩ := hturn
        obtain ⟨node, hf⟩ := Option.isSome_iff_exists.mp hfit
        exact hafter.2 (List.ne_nil_of_mem (List.mem_of_find?_eq_some hf)) r
          (Table.mem_of_get? hr) hturn
      · have hsame : s.autoScheduled now r = s.promoted now r :=
          Classical.not_not.mp fun hne => hturn ((autoScheduled_ne_iff r).mp hne)
        rw [← decodes_promoted (s := s) now r, ← hsame]
        exact hrow k r hr
    exact ⟨⟨hbefore, nodesDecode_iff.mpr hafter.1⟩, fun k r hr =>
      (decodes_autoScheduled_iff (hbefore k r hr)).mp (hrow k r hr)⟩
  · have hrows := tasksDecode_iff.mp hall.readable.tasks
    have hafter : s.SchedulableAfterPromotion :=
      ⟨nodesDecode_iff.mp hall.readable.nodes, fun _ r hr _ => hrows r hr⟩
    obtain ⟨n, s', hok, -⟩ :=
      schedulePending_ok now ((schedulable_triggerPendingTasks now).mpr hafter)
    refine ⟨_, s', run_autoSchedule_returns hok fun k r hr => ?_⟩
    rw [get?_autoSchedule hok] at hr
    obtain ⟨r₀, hr₀, rfl⟩ := Option.map_eq_some_iff.mp hr
    exact (decodes_autoScheduled_iff (hall.readable.tasks k r₀ hr₀)).mpr (hall.room k r₀ hr₀)

/-- **`auto_schedule` reports its own work** in every state where it raises, and otherwise
exactly if no task ran on a node before and none is given to a node whose id is empty. -/
theorem auto_schedule_own_work_iff (s : ClusterStore) (now : Time) :
    (∀ result s', (TaskManager.autoSchedule now).run s = (.ok result, s') →
      ReportsOwnWork s s' result) ↔ (s.ReadsAll → s.NoOtherRunner) := by
  rw [← autoSchedule_returns_iff s now]
  refine ⟨?_, fun hno result s' hrun => ?_⟩
  · rintro hown ⟨result, s', hrun⟩
    obtain ⟨n, hok, hd⟩ := run_autoSchedule_inv hrun
    exact (reportsOwnWork_iff hok).mp (hown _ s' (run_autoSchedule_returns hok hd))
  · obtain ⟨n, hok, hd⟩ := run_autoSchedule_inv hrun
    have hresult := run_autoSchedule_returns hok hd
    rw [hrun] at hresult
    cases hresult
    exact (reportsOwnWork_iff hok).mpr (hno ⟨_, s', hrun⟩)

/-- One task that runs on a node, and none to promote or schedule. -/
def busyStore : ClusterStore where
  nodes := Table.empty.put { id := "n1", name := "worker", lastHeartbeat := ⟨0, none⟩ }
  tasks := Table.empty.put
    { id := "task_a", title := "build", status := "running", assignedTo := some "n1",
      createdAt := 1, updatedAt := 1, version := 2 }

/-- The call does nothing, and lists the task that runs as scheduled. -/
theorem autoSchedule_lists_running :
    (TaskManager.autoSchedule 2).run busyStore =
        (.ok { taskIdsScheduled := ["task_a"] }, busyStore) ∧
      ¬ ∀ result s', (TaskManager.autoSchedule 2).run busyStore = (.ok result, s') →
        ReportsOwnWork busyStore s' result := by
  have hrun : (TaskManager.autoSchedule 2).run busyStore =
      (.ok { taskIdsScheduled := ["task_a"] }, busyStore) := by decide +kernel
  refine ⟨hrun, fun hown => ?_⟩
  have hlisted := ((hown _ _ hrun).ids "task_a").mp List.mem_cons_self
  exact hlisted.1 (by decide)

end ClusterStore

end HermesCluster
