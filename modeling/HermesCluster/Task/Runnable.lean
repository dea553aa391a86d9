import HermesCluster.State.Failures
import HermesCluster.State.Scheduling
import HermesCluster.Task.Creation

/-!
# Which tasks `TaskManager` starts

`StartsRunnable s s'` asks of each task that runs in `s'` and did not in `s` that it may run:
its node is online and has the capabilities, and its dependencies are completed.  Four calls
start tasks, and each checks something else: `create_task` only that the node is there,
`schedule_task_to_node` the node but not the dependencies, and `auto_schedule` the dependencies
of the tasks it promotes but not of those that were ready.
-/

namespace HermesCluster

namespace ClusterStore

variable {s s' : ClusterStore} {t k : TaskId} {r : TaskRow}

/-- `n` is a registered node that is online and has all the capabilities. -/
def Suits (s : ClusterStore) (n : NodeId) (requires : List Capability) : Prop :=
  ∃ node, s.nodes.get? n = some node ∧ node.status = .online ∧
    ∀ cap ∈ requires, cap ∈ node.capabilities

/-- The task is assigned to a node that suits it, and its dependencies are completed. -/
def MayRun (s : ClusterStore) (r : TaskRow) : Prop :=
  (∃ n, r.assignedTo = some n ∧ s.Suits n r.requires) ∧ ∀ d ∈ r.dependsOn, s.Completed d

/-- The call moved the task into status running. -/
def Starts (s s' : ClusterStore) (k : TaskId) (r : TaskRow) : Prop :=
  s'.tasks.get? k = some r ∧ r.status = TaskStatus.running.value ∧
    s.statusOf k ≠ some TaskStatus.running.value

/-- Every task the call starts may run. -/
def StartsRunnable (s s' : ClusterStore) : Prop := ∀ k r, Starts s s' k r → s'.MayRun r

/-! ### What a task may run on -/

/-- The same nodes and the same completed tasks. -/
def SameGround (s s' : ClusterStore) : Prop :=
  s'.nodes = s.nodes ∧ ∀ d, s'.Completed d ↔ s.Completed d

theorem SameGround.refl (s : ClusterStore) : SameGround s s := ⟨rfl, fun _ => Iff.rfl⟩

theorem SameGround.trans {s₁ : ClusterStore} (h : SameGround s s₁) (h' : SameGround s₁ s') :
    SameGround s s' := ⟨h'.1.trans h.1, fun d => (h'.2 d).trans (h.2 d)⟩

theorem SameGround.suits (h : SameGround s s') (n : NodeId) (requires : List Capability) :
    s'.Suits n requires ↔ s.Suits n requires := by
  rw [Suits, Suits, h.1]

theorem SameGround.mayRun (h : SameGround s s') (r : TaskRow) : s'.MayRun r ↔ s.MayRun r := by
  rw [MayRun, MayRun]
  refine and_congr ?_ (forall₂_congr fun d _ => h.2 d)
  exact exists_congr fun n => and_congr_right fun _ => h.suits n r.requires

/-- Writing a row that is not completed, before or after. -/
theorem SameGround.of_only (hnodes : s'.nodes = s.nodes) (h : OnlyTasks [t] s s')
    (hbefore : ¬ s.Completed t) (hafter : ¬ s'.Completed t) : SameGround s s' := by
  refine ⟨hnodes, fun d => ?_⟩
  by_cases hd : d = t
  · rw [hd]
    exact iff_of_false hafter hbefore
  · rw [Completed, Completed, h d fun hm => hd (List.mem_singleton.mp hm)]

/-! ### Calls that start nothing -/

/-- A task that runs after the call ran before. -/
def StartsNone (s s' : ClusterStore) : Prop :=
  ∀ k, s'.statusOf k = some TaskStatus.running.value →
    s.statusOf k = some TaskStatus.running.value

theorem StartsNone.refl (s : ClusterStore) : StartsNone s s := fun _ h => h

theorem StartsNone.trans {s₁ : ClusterStore} (h : StartsNone s s₁) (h' : StartsNone s₁ s') :
    StartsNone s s' := fun k hk => h k (h' k hk)

theorem StartsNone.startsRunnable (h : StartsNone s s') : StartsRunnable s s' := by
  rintro k r ⟨hr, hrun, hnot⟩
  refine absurd (h k ?_) hnot
  rw [statusOf, hr]
  exact congrArg some hrun

theorem StartsNone.of_map {f : TaskRow → TaskRow}
    (hget : ∀ k, s'.tasks.get? k = (s.tasks.get? k).map f)
    (hf : ∀ r, (f r).status = TaskStatus.running.value → r.status = TaskStatus.running.value) :
    StartsNone s s' := by
  intro k hk
  rw [statusOf, hget, Option.map_map] at hk
  obtain ⟨r, hr, hst⟩ := Option.map_eq_some_iff.mp hk
  rw [statusOf, hr]
  exact congrArg some (hf r hst)

theorem StartsNone.of_update {f : TaskRow → TaskRow}
    (hget : ∀ k, s'.tasks.get? k = if k = t then (s.tasks.get? k).map f else s.tasks.get? k)
    (hf : ∀ r, (f r).status = TaskStatus.running.value → r.status = TaskStatus.running.value) :
    StartsNone s s' := by
  intro k hk
  rw [statusOf, hget] at hk
  by_cases hkt : k = t
  · rw [if_pos hkt, Option.map_map] at hk
    obtain ⟨r, hr, hst⟩ := Option.map_eq_some_iff.mp hk
    rw [statusOf, hr]
    exact congrArg some (hf r hst)
  · rw [if_neg hkt] at hk
    exact hk

theorem OnlyCancels.startsNone {ids : List TaskId} (h : OnlyCancels ids s s') :
    StartsNone s s' := by
  intro k hk
  rcases h k with e | ⟨-, hf, -⟩
  · rw [← e]
    exact hk
  · rw [hf] at hk
    exact absurd (Option.some.inj hk) (by decide)

theorem OnlyDeletes.startsNone {ids : List TaskId} (h : OnlyDeletes ids s s') :
    StartsNone s s' := by
  intro k hk
  rcases h k with e | ⟨-, hd, -⟩
  · rw [← e]
    exact hk
  · rw [hd] at hk
    cases hk

/-! ### Calls that start one task, and sequences -/

/-- A call that writes one row, and makes it run. -/
theorem startsRunnable_one (h : OnlyTasks [t] s s') (hr : s'.tasks.get? t = some r)
    (hrun : r.status = TaskStatus.running.value)
    (hnot : s.statusOf t ≠ some TaskStatus.running.value) :
    StartsRunnable s s' ↔ s'.MayRun r := by
  refine ⟨fun hall => hall t r ⟨hr, hrun, hnot⟩, fun hmay => ?_⟩
  rintro k r' ⟨hr', hrun', hnot'⟩
  by_cases hk : k = t
  · rw [hk, hr] at hr'
    cases hr'
    exact hmay
  · rw [h k fun hm => hk (List.mem_singleton.mp hm)] at hr'
    rw [statusOf, hr', Option.map_some, hrun'] at hnot'
    exact absurd rfl hnot'

/-- Two calls that write the rows of different ids. -/
theorem startsRunnable_trans {s₁ : ClusterStore} {ids ids' : List TaskId}
    (h : OnlyTasks ids s s₁) (h' : OnlyTasks ids' s₁ s') (hdisjoint : ∀ k ∈ ids, k ∉ ids')
    (hground : SameGround s₁ s') :
    StartsRunnable s s' ↔ StartsRunnable s s₁ ∧ StartsRunnable s₁ s' := by
  have hsecond : ∀ k, k ∉ ids → s₁.statusOf k = s.statusOf k := fun k hk => by
    rw [statusOf, statusOf, h k hk]
  have hfirst : ∀ k r, Starts s s₁ k r → k ∈ ids := by
    rintro k r ⟨hr, hrun, hnot⟩
    by_contra hk
    rw [← hsecond k hk, statusOf, hr] at hnot
    exact hnot (congrArg some hrun)
  refine ⟨fun hall => ⟨?_, ?_⟩, fun hall => ?_⟩
  · intro k r hk
    refine (hground.mayRun r).mp (hall k r ⟨?_, hk.2⟩)
    rw [h' k (hdisjoint k (hfirst k r hk))]
    exact hk.1
  · rintro k r ⟨hr, hrun, hnot⟩
    refine hall k r ⟨hr, hrun, ?_⟩
    rw [← hsecond k]
    · exact hnot
    intro hk
    rw [statusOf, ← h' k (hdisjoint k hk), hr] at hnot
    exact hnot (congrArg some hrun)
  · rintro k r ⟨hr, hrun, hnot⟩
    by_cases hk : s₁.statusOf k = some TaskStatus.running.value
    · have hmem : k ∈ ids := by
        by_contra hmem
        exact hnot ((hsecond k hmem).symm.trans hk)
      refine (hground.mayRun r).mpr (hall.1 k r ⟨?_, hrun, hnot⟩)
      rw [← h' k (hdisjoint k hmem)]
      exact hr
    · exact hall.2 k r ⟨hr, hrun, hk⟩

end ClusterStore

namespace TaskManager

open ClusterStore

variable {s : ClusterStore} {now : Time} {t : TaskId} {token title : String}
  {requires : List Capability} {priority : Int} {deps : List TaskId} {assignTo : Option NodeId}

/-! ### `create_task` -/

/-- If the call comes to assign the task to a node, the task may run there. -/
def CreateRunnable (s : ClusterStore) (title : String) (requires : List Capability)
    (priority : Int) (deps : List TaskId) (assignTo : Option NodeId) : Prop :=
  ¬ Refused title priority → ∀ n, assignee assignTo = some n → NodeRead s n →
    s.Suits n requires ∧ ∀ d ∈ deps, s.Completed d

theorem statusOf_ne_of_fresh (h : s.tasks.get? t = none) (u : TaskStatus) :
    s.statusOf t ≠ some u.value := by
  rw [statusOf, h]
  intro he
  cases he

theorem Created.status_ne {s₂ : ClusterStore} {r : TaskRow}
    (h : Created t requires deps s s₂ r) {u : TaskStatus} (hp : u ≠ .pending) (hr : u ≠ .ready) :
    s₂.statusOf t ≠ some u.value := by
  rw [statusOf, h.row]
  intro he
  have hst : r.status = u.value := Option.some.inj he
  rcases h.waits with hw | hw
  · exact hp (TaskStatus.value_injective (hst.symm.trans hw))
  · exact hr (TaskStatus.value_injective (hst.symm.trans hw))

theorem not_completed_of_statusOf_ne (h : s.statusOf t ≠ some TaskStatus.completed.value) :
    ¬ s.Completed t := by
  rintro ⟨r, hr, hst⟩
  rw [statusOf, hr] at h
  exact h (congrArg some hst)

/-- A new row that waits starts nothing. -/
theorem Created.startsRunnable {s₂ : ClusterStore} {r : TaskRow}
    (h : Created t requires deps s s₂ r) (hfresh : s.tasks.get? t = none) :
    SameGround s s₂ ∧ StartsRunnable s s₂ := by
  refine ⟨SameGround.of_only h.nodes h.others (not_completed_of_none hfresh)
    (not_completed_of_statusOf_ne (h.status_ne (by decide) (by decide))), ?_⟩
  refine StartsNone.startsRunnable fun k hk => ?_
  by_cases hkt : k = t
  · rw [hkt] at hk
    exact absurd hk (h.status_ne (by decide) (by decide))
  · rw [statusOf, h.others k fun hm => hkt (List.mem_singleton.mp hm)] at hk
    exact hk

/-- The row of a new task that runs. -/
theorem Created.assigned {s₂ : ClusterStore} {r : TaskRow} (h : Created t requires deps s s₂ r)
    (now : Time) (n : NodeId) :
    ((s₂.setTaskStatus now t .running).setAssignee t n).tasks.get? t =
      some (withAssignee n (withStatus now .running "" r)) := by
  rw [get?_setAssignee, if_pos rfl, get?_setTaskStatus, if_pos rfl, h.row]
  rfl

/-- A new task that runs on a node may run there or not. -/
theorem Created.startsRunnable_assigned {s₂ : ClusterStore} {r : TaskRow}
    (h : Created t requires deps s s₂ r) (hfresh : s.tasks.get? t = none) (now : Time)
    (n : NodeId) :
    SameGround s ((s₂.setTaskStatus now t .running).setAssignee t n) ∧
      (StartsRunnable s ((s₂.setTaskStatus now t .running).setAssignee t n) ↔
        s.Suits n requires ∧ ∀ d ∈ deps, s.Completed d) := by
  have hrow := h.assigned now n
  have honly : OnlyTasks [t] s ((s₂.setTaskStatus now t .running).setAssignee t n) :=
    (h.others.trans (OnlyTasks.of_update (get?_setTaskStatus s₂ now t .running ""))).trans
      (OnlyTasks.of_update (get?_setAssignee n))
  have hafter : ¬ ((s₂.setTaskStatus now t .running).setAssignee t n).Completed t := by
    rw [completed_of_some hrow]
    have hne : TaskStatus.running.value ≠ TaskStatus.completed.value := by decide
    exact hne
  have hground : SameGround s ((s₂.setTaskStatus now t .running).setAssignee t n) :=
    SameGround.of_only h.nodes honly (not_completed_of_none hfresh) hafter
  refine ⟨hground, ?_⟩
  rw [startsRunnable_one honly hrow rfl (statusOf_ne_of_fresh hfresh .running), hground.mayRun,
    MayRun]
  have hrequires : (withAssignee n (withStatus now .running "" r)).requires = requires :=
    h.requires
  have hdeps : (withAssignee n (withStatus now .running "" r)).dependsOn = deps := h.dependsOn
  rw [hrequires, hdeps]
  refine and_congr_left fun _ => ⟨?_, fun hn => ⟨n, rfl, hn⟩⟩
  rintro ⟨n', hn', hsuits⟩
  cases hn'
  exact hsuits

/-- **`create_task`** starts what may run if it is not to assign the task, or to a node that
suits the task whose dependencies are completed. -/
theorem startsRunnable_createTask (now : Time) (title : String) (requires : List Capability)
    (priority : Int) (deps : List TaskId) (assignTo : Option NodeId)
    (hfresh : s.tasks.get? (generateId "task" token) = none) :
    SameGround s ((createTask now token title requires priority deps assignTo).run s).2 ∧
    (StartsRunnable s ((createTask now token title requires priority deps assignTo).run s).2 ↔
      CreateRunnable s title requires priority deps assignTo) := by
  by_cases hr : Refused title priority
  · obtain ⟨msg, hrun⟩ := run_createTask_refused hr s now token requires deps assignTo
    rw [hrun]
    exact ⟨SameGround.refl s, iff_of_true (StartsNone.refl s).startsRunnable
      fun h => absurd hr h⟩
  cases ha : assignee assignTo with
  | none =>
    obtain ⟨task, s₂, r, hcreated, hrun⟩ := run_createTask_plain hfresh hr ha now requires deps
    obtain ⟨hground, hstarts⟩ := hcreated.startsRunnable hfresh
    rw [hrun]
    exact ⟨hground, iff_of_true hstarts fun _ n h => by rw [ha] at h; cases h⟩
  | some n =>
    by_cases hn : NodeRead s n
    · obtain ⟨task, s₂, r, hcreated, hrun⟩ :=
        run_createTask_assigned hfresh hr ha hn now requires deps
      obtain ⟨hground, hiff⟩ := hcreated.startsRunnable_assigned hfresh now n
      rw [hrun]
      refine ⟨hground, hiff.trans ⟨fun h _ n' hn' _ => ?_, fun h => h hr n ha hn⟩⟩
      rw [ha] at hn'
      cases hn'
      exact h
    · obtain ⟨msg, s₂, r, hcreated, hrun⟩ :=
        run_createTask_unknown hfresh hr ha hn now requires deps
      obtain ⟨hground, hstarts⟩ := hcreated.startsRunnable hfresh
      rw [hrun]
      refine ⟨hground, iff_of_true hstarts fun _ n' hn' hread => ?_⟩
      rw [ha] at hn'
      cases hn'
      exact absurd hread hn

/-! ### `bulk_create` -/

/-- `create_task` raises for the element. -/
def CreateRaises (s : ClusterStore) (new : NewTask) : Prop :=
  Refused new.title new.priority ∨ ∃ n, assignee new.assignTo = some n ∧ ¬ NodeRead s n

/-- Each element may run where it is assigned, up to the first for which `create_task` raises. -/
def BulkRunnable (s : ClusterStore) : List NewTask → Prop
  | [] => True
  | new :: tasks =>
    if new.title = "" then BulkRunnable s tasks
    else CreateRunnable s new.title new.requires new.priority new.dependsOn new.assignTo ∧
      (¬ CreateRaises s new → BulkRunnable s tasks)

theorem createRaises_iff (now : Time) {new : NewTask}
    (hfresh : s.tasks.get? (generateId "task" new.token) = none) :
    (CreateRaises s new ∧ ∃ e s', (createTask now new.token new.title new.requires new.priority
        new.dependsOn new.assignTo).run s = (.error e, s')) ∨
      (¬ CreateRaises s new ∧ ∃ task s', (createTask now new.token new.title new.requires
        new.priority new.dependsOn new.assignTo).run s = (.ok task, s')) := by
  by_cases hr : Refused new.title new.priority
  · obtain ⟨msg, hrun⟩ :=
      run_createTask_refused hr s now new.token new.requires new.dependsOn new.assignTo
    exact .inl ⟨.inl hr, _, _, hrun⟩
  cases ha : assignee new.assignTo with
  | none =>
    obtain ⟨task, s₂, r, -, hrun⟩ :=
      run_createTask_plain hfresh hr ha now new.requires new.dependsOn
    refine .inr ⟨not_or.mpr ⟨hr, ?_⟩, _, _, hrun⟩
    rintro ⟨n, hn, -⟩
    rw [ha] at hn
    cases hn
  | some n =>
    by_cases hn : NodeRead s n
    · obtain ⟨task, s₂, r, -, hrun⟩ :=
        run_createTask_assigned hfresh hr ha hn now new.requires new.dependsOn
      refine .inr ⟨not_or.mpr ⟨hr, ?_⟩, _, _, hrun⟩
      rintro ⟨n', hn', hnot⟩
      rw [ha] at hn'
      cases hn'
      exact hnot hn
    · obtain ⟨msg, s₂, r, -, hrun⟩ :=
        run_createTask_unknown hfresh hr ha hn now new.requires new.dependsOn
      exact .inl ⟨.inr ⟨n, ha, hn⟩, _, _, hrun⟩

theorem nodeRead_congr {s' : ClusterStore} (h : SameGround s s') (n : NodeId) :
    NodeRead s' n ↔ NodeRead s n := by
  rw [NodeRead, NodeRead, getNode, getNode, h.1]

theorem bulkRunnable_congr {s' : ClusterStore} (h : SameGround s s') (tasks : List NewTask) :
    BulkRunnable s' tasks ↔ BulkRunnable s tasks := by
  induction tasks with
  | nil => exact Iff.rfl
  | cons new tasks ih =>
    have hraises : CreateRaises s' new ↔ CreateRaises s new :=
      or_congr_right (exists_congr fun n => and_congr_right fun _ =>
        not_congr (nodeRead_congr h n))
    have hcreate : CreateRunnable s' new.title new.requires new.priority new.dependsOn
        new.assignTo ↔ CreateRunnable s new.title new.requires new.priority new.dependsOn
        new.assignTo :=
      imp_congr_right fun _ => forall₂_congr fun n _ => imp_congr (nodeRead_congr h n)
        (and_congr (h.suits n new.requires) (forall₂_congr fun d _ => h.2 d))
    rw [BulkRunnable, BulkRunnable]
    split
    · exact ih
    · rw [hcreate, hraises, ih]

/-- **`bulk_create`** does for each element what `create_task` does, and ends at the first for
which it raises. -/
theorem startsRunnable_bulkCreate (now : Time) (tasks : List NewTask) (s : ClusterStore)
    (hfresh : ∀ k ∈ tasks.map fun new => generateId "task" new.token, s.tasks.get? k = none)
    (hnodup : (tasks.map fun new => generateId "task" new.token).Nodup) :
    SameGround s ((bulkCreate now tasks).run s).2 ∧
      (StartsRunnable s ((bulkCreate now tasks).run s).2 ↔ BulkRunnable s tasks) := by
  induction tasks generalizing s with
  | nil => exact ⟨SameGround.refl s, iff_of_true (StartsNone.refl s).startsRunnable trivial⟩
  | cons new tasks ih =>
    obtain ⟨hnew, htail⟩ := List.nodup_cons.mp hnodup
    have hone := hfresh _ List.mem_cons_self
    have hrest := fun k hk => hfresh k (List.mem_cons_of_mem _ hk)
    rw [bulkCreate, BulkRunnable]
    by_cases ht : new.title = ""
    · rw [if_pos ht, if_pos ht]
      exact ih s hrest htail
    rw [if_neg ht, if_neg ht]
    have hcreate := startsRunnable_createTask now new.title new.requires new.priority
      new.dependsOn new.assignTo hone
    have honly := onlyTasks_createTask now new.token new.title new.requires new.priority
      new.dependsOn new.assignTo s
    rcases createRaises_iff now hone with ⟨hraises, e, s₁, hrun⟩ | ⟨hreturns, task, s₁, hrun⟩
    · rw [hrun] at hcreate
      rw [Prog.run_bind_error _ hrun]
      exact ⟨hcreate.1, hcreate.2.trans (and_iff_left fun h => absurd hraises h).symm⟩
    · rw [hrun] at hcreate honly
      rw [Prog.run_bind_ok _ hrun, Prog.run_bind_pure_snd]
      have hfresh' : ∀ k ∈ tasks.map fun new => generateId "task" new.token,
          s₁.tasks.get? k = none := by
        intro k hk
        rw [honly k]
        · exact hrest k hk
        intro hm
        rw [List.mem_singleton.mp hm] at hk
        exact hnew hk
      obtain ⟨hground, hstarts⟩ := ih s₁ hfresh' htail
      refine ⟨hcreate.1.trans hground, ?_⟩
      rw [startsRunnable_trans honly (onlyTasks_bulkCreate now tasks s₁) ?_ hground, hcreate.2,
        hstarts, bulkRunnable_congr hcreate.1]
      · exact and_congr_right fun _ => (imp_iff_right hreturns).symm
      · intro k hk hm
        rw [List.mem_singleton.mp hk] at hm
        exact hnew hm

/-! ### `schedule_task_to_node` -/

/-- What the call checks: the task can be read and waits, and the node can be read and suits
it. -/
def Assignable (s : ClusterStore) (t : TaskId) (n : NodeId) (r : TaskRow) : Prop :=
  s.tasks.get? t = some r ∧ decodes r = true ∧
    (r.status = TaskStatus.ready.value ∨ r.status = TaskStatus.pending.value) ∧
    NodeRead s n ∧ s.Suits n r.requires

theorem get?_of_getNode {n : NodeId} {node : Node} (h : s.getNode n = .ok (some node)) :
    s.nodes.get? n = some node := by
  cases hrow : s.nodes.get? n with
  | none =>
    rw [getNode, hrow] at h
    cases h
  | some row =>
    by_cases hload : row.load = .nan
    · rw [getNode_of_nan hrow hload] at h
      cases h
    · rw [getNode_of_some hrow hload] at h
      exact Except.ok.inj h

/-- The checks pass, and the task is assigned. -/
theorem run_scheduleTaskToNode {r : TaskRow} {n : NodeId} (h : Assignable s t n r) (now : Time) :
    ((scheduleTaskToNode now t n).run s).2 = s.assignTask now t n := by
  obtain ⟨hr, hd, hopen, ⟨node, hnode⟩, node', hget, honline, hcaps⟩ := h
  obtain rfl : node = node' := by
    rw [get?_of_getNode hnode] at hget
    exact Option.some.inj hget
  have hread : (Session.getNode n).run s = (.ok (some node), s) := Prog.run_read_ok hnode
  have hwaits : ¬ ((readRow r).status ≠ .ready ∧ (readRow r).status ≠ .pending) := by
    rintro ⟨hready, hpending⟩
    rw [readRow_status hd, TaskStatus.value_inj, TaskStatus.value_inj] at hopen
    exact hopen.elim hready hpending
  have hfits : ClusterState.fits (readRow r).requires node = true := fits_iff.mpr hcaps
  rw [scheduleTaskToNode, Prog.run_bind_ok _ (Session.run_getTask_ok (getTask_of_some hr hd))]
  dsimp only
  rw [if_neg hwaits, Prog.run_bind_ok _ hread]
  dsimp only
  rw [if_neg (not_not.mpr honline), if_neg (by rw [hfits]; decide)]
  rfl

/-- Some check fails, and nothing changes. -/
theorem run_scheduleTaskToNode_refused {n : NodeId} (h : ¬ ∃ r, Assignable s t n r) (now : Time) :
    ((scheduleTaskToNode now t n).run s).2 = s := by
  rw [scheduleTaskToNode]
  refine rel_getTask_row (R := fun a b => b = a) rfl rfl fun r hr hd => ?_
  dsimp only
  split
  · rfl
  rename_i hwaits
  refine Prog.rel_read_bind (R := fun a b => b = a) rfl fun found hfound => ?_
  split
  · rfl
  rename_i node
  split
  · rfl
  rename_i honline
  split
  · rfl
  rename_i hfits
  refine absurd ⟨r, hr, hd, ?_, ⟨node, hfound⟩, node, get?_of_getNode hfound,
    not_not.mp honline, fits_iff.mp (Bool.not_eq_false _ ▸ hfits)⟩ h
  rw [readRow_status hd, TaskStatus.value_inj, TaskStatus.value_inj]
  by_contra hnot
  exact hwaits (not_or.mp hnot)

/-- **`schedule_task_to_node`** starts what may run if the dependencies of a task it assigns are
completed. -/
theorem startsRunnable_scheduleTaskToNode (s : ClusterStore) (now : Time) (t : TaskId)
    (n : NodeId) : StartsRunnable s ((scheduleTaskToNode now t n).run s).2 ↔
      ∀ r, Assignable s t n r → ∀ d ∈ r.dependsOn, s.Completed d := by
  by_cases hsome : ∃ r, Assignable s t n r
  · obtain ⟨r, h⟩ := hsome
    have ⟨hr, _, hopen, _, hsuits⟩ := h
    have hrow : (s.assignTask now t n).tasks.get? t = some (assignedOn now n r) := by
      rw [get?_assignTask, if_pos rfl, hr]
      rfl
    have honly : OnlyTasks [t] s (s.assignTask now t n) :=
      OnlyTasks.of_update fun k => get?_assignTask n
    have hne : ∀ u : TaskStatus, u ≠ .ready → u ≠ .pending → r.status ≠ u.value := by
      intro u hready hpending hu
      rw [hu, TaskStatus.value_inj, TaskStatus.value_inj] at hopen
      exact hopen.elim hready hpending
    have hground : SameGround s (s.assignTask now t n) := by
      refine SameGround.of_only rfl honly ?_ ?_
      · rw [completed_of_some hr]
        exact hne .completed (by decide) (by decide)
      · rw [completed_of_some hrow]
        have hne' : TaskStatus.running.value ≠ TaskStatus.completed.value := by decide
        exact hne'
    have hnot : s.statusOf t ≠ some TaskStatus.running.value := by
      rw [statusOf, hr]
      exact fun he => hne .running (by decide) (by decide) (Option.some.inj he)
    rw [run_scheduleTaskToNode h, startsRunnable_one honly hrow rfl hnot, hground.mayRun, MayRun]
    refine ⟨fun hmay r' hr' => ?_, fun hdeps => ⟨⟨n, rfl, hsuits⟩, ?_⟩⟩
    · have hget := hr'.1
      rw [hr] at hget
      cases hget
      exact hmay.2
    · exact hdeps r h
  · rw [run_scheduleTaskToNode_refused hsome]
    exact iff_of_true (StartsNone.refl s).startsRunnable fun r h => absurd ⟨r, h⟩ hsome

/-! ### `auto_schedule` -/

theorem scheduled_triggerPendingTasks (s : ClusterStore) (now : Time) :
    (s.triggerPendingTasks now).2.scheduled now = s.scheduled now := by
  funext r
  rw [scheduled, scheduled, firstFit, firstFit, onlineRows_triggerPendingTasks]

/-- The rows can be read: the tasks that are due are promoted, and the ready ones placed. -/
theorem run_autoSchedule_ok (h : s.SchedulableAfterPromotion) (now : Time) : ∃ s',
    ((autoSchedule now).run s).2 = s' ∧ s'.nodes = s.nodes ∧
      ∀ k, s'.tasks.get? k =
        (s.tasks.get? k).map fun r => s.scheduled now (s.promoted now r) := by
  obtain ⟨n, s', hok, hnodes, hget⟩ :=
    schedulePending_ok now ((schedulable_triggerPendingTasks now).mpr h)
  have hpromote : (Session.triggerPendingTasks now).run s = (.ok _, _) := Prog.run_write _ s
  have hschedule : (Session.schedulePending now).run (s.triggerPendingTasks now).2 =
      (.ok n, s') := Prog.run_tx_ok hok
  refine ⟨s', ?_, hnodes.trans (nodes_foldl_triggerOne _ _), fun k => ?_⟩
  · rw [autoSchedule, Prog.run_bind_ok _ hpromote, Prog.run_bind_ok _ hschedule,
      Prog.run_bind_pure_snd, Session.getAllTasks, Prog.run_read_snd]
  · rw [hget, get?_triggerPendingTasks, Option.map_map, scheduled_triggerPendingTasks]
    rfl

/-- The rows cannot be read: the tasks that are due are promoted, and the call raises. -/
theorem run_autoSchedule_raised (h : ¬ s.SchedulableAfterPromotion) (now : Time) :
    ((autoSchedule now).run s).2 = (s.triggerPendingTasks now).2 := by
  obtain ⟨e, he⟩ := schedulePending_raises now
    (fun hs => h ((schedulable_triggerPendingTasks now).mp hs))
  have hpromote : (Session.triggerPendingTasks now).run s = (.ok _, _) := Prog.run_write _ s
  have hschedule : (Session.schedulePending now).run (s.triggerPendingTasks now).2 =
      (.error e, (s.triggerPendingTasks now).2) := Prog.run_tx_error he
  rw [autoSchedule, Prog.run_bind_ok _ hpromote, Prog.run_bind_error _ hschedule]

theorem promoted_running {r : TaskRow}
    (h : (s.promoted now r).status = TaskStatus.running.value) :
    r.status = TaskStatus.running.value := by
  have hne : TaskStatus.ready.value ≠ TaskStatus.running.value := by decide
  rw [promoted, madeReady] at h
  split at h
  · split at h
    · exact absurd h hne
    · exact h
  · exact h

theorem startsNone_triggerPendingTasks (s : ClusterStore) (now : Time) :
    StartsNone s (s.triggerPendingTasks now).2 :=
  StartsNone.of_map (fun _ => get?_triggerPendingTasks) fun _ => promoted_running

/-- What a pass after a promotion makes of a row. -/
theorem scheduled_cases (s : ClusterStore) (now : Time) (r : TaskRow) :
    (∃ node, r.status = TaskStatus.ready.value ∧ s.firstFit r.requires = some node ∧
      s.scheduled now r = assignedOn now node.id r) ∨
    ¬ (r.status = TaskStatus.ready.value ∧ (s.firstFit r.requires).isSome) ∧
      s.scheduled now r = r := by
  rw [scheduled]
  by_cases hr : r.status = TaskStatus.ready.value
  · rw [if_pos hr]
    cases hf : s.firstFit r.requires with
    | none => exact .inr ⟨fun h => absurd h.2 (by decide), rfl⟩
    | some node => exact .inl ⟨node, hr, rfl, rfl⟩
  · rw [if_neg hr]
    exact .inr ⟨fun h => hr h.1, rfl⟩

theorem scheduled_status_completed (s : ClusterStore) (now : Time) (r : TaskRow) :
    (s.scheduled now r).status = TaskStatus.completed.value ↔
      r.status = TaskStatus.completed.value := by
  rcases scheduled_cases s now r with ⟨node, hr, -, h⟩ | ⟨-, h⟩
  · rw [h, hr]
    have hne : TaskStatus.running.value ≠ TaskStatus.completed.value := by decide
    exact iff_of_false hne (by decide)
  · rw [h]

theorem suits_of_firstFit {r : List Capability} {node : Node} (h : s.firstFit r = some node) :
    s.Suits node.id r := by
  have hfound : (onlineOf s.nodes).find? (ClusterState.fits r) = some node := h
  obtain ⟨hget, honline, hcaps⟩ := find?_online hfound
  exact ⟨node, hget, honline, hcaps⟩

/-- **`auto_schedule`** starts what may run if the rows cannot be read, or the dependencies are
completed of every task that was ready before the call and is placed. -/
theorem startsRunnable_autoSchedule (s : ClusterStore) (now : Time) :
    StartsRunnable s ((autoSchedule now).run s).2 ↔
      (s.SchedulableAfterPromotion → ∀ k r, s.tasks.get? k = some r →
        r.status = TaskStatus.ready.value → (s.firstFit r.requires).isSome →
          ∀ d ∈ r.dependsOn, s.Completed d) := by
  by_cases hs : s.SchedulableAfterPromotion
  swap
  · rw [run_autoSchedule_raised hs]
    exact iff_of_true (startsNone_triggerPendingTasks s now).startsRunnable
      fun h => absurd h hs
  obtain ⟨s', hrun, hnodes, hget⟩ := run_autoSchedule_ok hs now
  have hground : SameGround s s' := ⟨hnodes, completed_of_map hget fun r =>
    (scheduled_status_completed s now _).trans (promoted_status_completed r)⟩
  rw [hrun, imp_iff_right hs]
  refine ⟨fun h k r hr hready hfit d hd => ?_, fun h k r' hstart => ?_⟩
  · obtain ⟨node, hf⟩ := Option.isSome_iff_exists.mp hfit
    have hpromoted : (s.promoted now r).status = TaskStatus.ready.value :=
      (promoted_status_ready now r).mpr (.inl hready)
    have hrow : s.scheduled now (s.promoted now r) =
        assignedOn now node.id (s.promoted now r) := by
      rw [scheduled, if_pos hpromoted, promoted_requires, hf]
    have hmay := h k (assignedOn now node.id (s.promoted now r)) ⟨?_, rfl, ?_⟩
    · refine (hground.2 d).mp (hmay.2 d ?_)
      show d ∈ (s.promoted now r).dependsOn
      rw [promoted_dependsOn]
      exact hd
    · rw [hget, hr, Option.map_some, hrow]
    · rw [statusOf, hr, Option.map_some, hready]
      decide
  · obtain ⟨hr', hrunning, hnot⟩ := hstart
    rw [hget] at hr'
    obtain ⟨r, hr, rfl⟩ := Option.map_eq_some_iff.mp hr'
    rcases scheduled_cases s now (s.promoted now r) with ⟨node, hready, hf, hrow⟩ | ⟨-, hrow⟩
    · rw [promoted_requires] at hf
      rw [hrow, hground.mayRun]
      refine ⟨⟨node.id, rfl, ?_⟩, fun d hd => ?_⟩
      · show s.Suits node.id (s.promoted now r).requires
        rw [promoted_requires]
        exact suits_of_firstFit hf
      have hd' : d ∈ (s.promoted now r).dependsOn := hd
      rw [promoted_dependsOn] at hd'
      rcases (promoted_status_ready now r).mp hready with hwas | ⟨-, hdone⟩
      · exact h k r hr hwas (by rw [hf]; rfl) d hd'
      · exact allDone_iff.mp hdone d hd'
    · rw [hrow] at hrunning
      rw [statusOf, hr] at hnot
      exact absurd (congrArg some (promoted_running hrunning)) hnot

/-! ### The other calls -/

theorem startsRunnable_duplicateTask (now : Time) (titleSuffix : String) (t : TaskId)
    (hfresh : s.tasks.get? (generateId "task" token) = none) :
    StartsRunnable s ((duplicateTask now token t titleSuffix).run s).2 := by
  rw [duplicateTask]
  refine rel_getTask (R := StartsRunnable) (StartsNone.refl s).startsRunnable
    (StartsNone.refl s).startsRunnable fun task r _ _ => ?_
  rw [Prog.run_bind_pure_snd]
  exact (startsRunnable_createTask now _ _ _ _ none hfresh).2.mpr fun _ n h => by cases h

theorem startsNone_updateTask (now : Time) (t : TaskId) (title : Option String)
    (priority : Option Int) (requires : Option (List Capability)) (deps : Option (List TaskId))
    (s : ClusterStore) :
    StartsNone s ((updateTask now t title priority requires deps).run s).2 := by
  rw [updateTask]
  refine rel_getTask (StartsNone.refl s) (StartsNone.refl s) fun task r _ _ => ?_
  dsimp only
  refine Prog.rel_bind (fun a b c => @StartsNone.trans a c b) (fun s => ?_) (fun _ s => ?_) s
  · refine Prog.rel_tx StartsNone.refl fun _ s' h => ?_
    refine StartsNone.of_update (updateTask_ok h) fun r hr => ?_
    rw [updatedBy] at hr
    split at hr
    · exact hr
    · dsimp only at hr
      split at hr
      · exact absurd hr (by decide)
      · exact hr
  · rw [Session.run_getTask_snd]
    exact StartsNone.refl s

theorem startsNone_retryTask (now : Time) (t : TaskId) (s : ClusterStore) :
    StartsNone s ((retryTask now t).run s).2 := by
  have htrans := fun a b c => @StartsNone.trans a c b
  rw [retryTask]
  refine rel_getTask (StartsNone.refl s) (StartsNone.refl s) fun task r _ _ => ?_
  dsimp only
  split
  · exact StartsNone.refl s
  refine Prog.rel_bind htrans (fun s => ?_) (fun _ s => ?_) s
  · have hne : TaskStatus.pending.value ≠ TaskStatus.running.value := by decide
    exact StartsNone.of_update (get?_setTaskStatus s now t .pending "") fun r h => absurd h hne
  refine Prog.rel_bind htrans (p := Session.triggerPendingTasks now)
    (fun s => startsNone_triggerPendingTasks s now) (fun _ s => ?_) s
  rw [Session.run_getTask_snd]
  exact StartsNone.refl s

end TaskManager

namespace TaskOp

open ClusterStore TaskManager

/-- What a call asks of the tasks it starts. -/
def Runnable (s : ClusterStore) : TaskOp → Prop
  | .create _ title requires priority deps assignTo =>
    CreateRunnable s title requires priority deps assignTo
  | .autoSchedule => s.SchedulableAfterPromotion → ∀ k r, s.tasks.get? k = some r →
      r.status = TaskStatus.ready.value → (s.firstFit r.requires).isSome →
        ∀ d ∈ r.dependsOn, s.Completed d
  | .scheduleTo taskId nodeId => ∀ r, Assignable s taskId nodeId r →
      ∀ d ∈ r.dependsOn, s.Completed d
  | .bulkCreate tasks => BulkRunnable s tasks
  | _ => True

/-- **Every task a call starts may run** exactly when the call assigns a new task to a node that
suits it and with its dependencies completed, assigns an old one with its dependencies completed,
or places no task that was ready without. -/
theorem startsRunnable_iff (s : ClusterStore) (now : Time) (op : TaskOp)
    (hfresh : Fresh s (now, op)) (hnodup : op.newIds.Nodup) :
    StartsRunnable s (step s (now, op)) ↔ op.Runnable s := by
  rw [step]
  cases op with
  | create token title requires priority deps assignTo =>
    simp only [program, Prog.run_bind_pure_snd]
    exact (startsRunnable_createTask now title requires priority deps assignTo
      (hfresh _ List.mem_cons_self)).2
  | duplicate token t titleSuffix =>
    simp only [program, Prog.run_bind_pure_snd]
    exact iff_of_true (startsRunnable_duplicateTask now titleSuffix t
      (hfresh _ List.mem_cons_self)) trivial
  | update t title priority requires deps =>
    simp only [program, Prog.run_bind_pure_snd]
    exact iff_of_true
      (startsNone_updateTask now t title priority requires deps s).startsRunnable trivial
  | cancel t =>
    simp only [program, Prog.run_bind_pure_snd]
    exact iff_of_true (onlyCancels_cancelTask now t s).startsNone.startsRunnable trivial
  | retry t =>
    simp only [program, Prog.run_bind_pure_snd]
    exact iff_of_true (startsNone_retryTask now t s).startsRunnable trivial
  | delete t =>
    simp only [program, Prog.run_bind_pure_snd]
    exact iff_of_true (onlyDeletes_deleteTask t s).startsNone.startsRunnable trivial
  | purge older =>
    simp only [program, Prog.run_bind_pure_snd]
    obtain ⟨ids, hids⟩ := onlyDeletes_purgeCompleted now older s
    exact iff_of_true hids.startsNone.startsRunnable trivial
  | autoSchedule =>
    simp only [program, Prog.run_bind_pure_snd]
    exact startsRunnable_autoSchedule s now
  | scheduleTo t nodeId =>
    simp only [program, Prog.run_bind_pure_snd]
    exact startsRunnable_scheduleTaskToNode s now t nodeId
  | bulkCreate tasks =>
    simp only [program, Prog.run_bind_pure_snd]
    exact (startsRunnable_bulkCreate now tasks s hfresh hnodup).2
  | bulkCancel ids =>
    simp only [program, Prog.run_bind_pure_snd]
    exact iff_of_true (onlyCancels_bulkCancel now ids s).startsNone.startsRunnable trivial
  | bulkDelete ids =>
    simp only [program, Prog.run_bind_pure_snd]
    exact iff_of_true (onlyDeletes_bulkDelete ids s).startsNone.startsRunnable trivial

/-- A node that is offline, and one that is online. -/
def twoNodes : Table Node :=
  let worker : Node := { id := "n1", name := "worker", lastHeartbeat := ⟨0, none⟩ }
  (Table.empty.put { worker with status := .offline }).put { worker with id := "n2" }

/-- It waits for `task_a`. -/
def deployRow : TaskRow where
  id := "task_b"
  title := "deploy"
  dependsOn := ["task_a"]
  createdAt := 1
  updatedAt := 1
  version := 1

def waitingTasks : ClusterStore where
  nodes := twoNodes
  tasks := (Table.empty.put { deployRow with id := "task_a", dependsOn := [] }).put deployRow

theorem startsRunnable_waitingTasks :
    ((step waitingTasks (2, .scheduleTo "task_a" "n2")).tasks.get? "task_a").map
        (fun r => (r.status, r.assignedTo)) = some ("running", some "n2") ∧
      StartsRunnable waitingTasks (step waitingTasks (2, .scheduleTo "task_a" "n2")) := by
  refine ⟨by decide +kernel, ?_⟩
  refine (startsRunnable_iff waitingTasks 2 (.scheduleTo "task_a" "n2")
    (fun _ h => absurd h List.not_mem_nil) List.nodup_nil).mpr fun r hr d hd => ?_
  have hrow : waitingTasks.tasks.get? "task_a" =
      some { deployRow with id := "task_a", dependsOn := [] } := by decide +kernel
  rw [hr.1] at hrow
  rw [Option.some.inj hrow] at hd
  exact absurd hd List.not_mem_nil

/-- `create_task` starts a task on a node that is offline, and `schedule_task_to_node` one whose
dependency is not completed. -/
theorem starts_unrunnable :
    let create : Time × TaskOp := (2, .create "c" "test" [] 3 [] (some "n1"))
    let assign : Time × TaskOp := (2, .scheduleTo "task_b" "n2")
    ((step waitingTasks create).tasks.get? "task_c").map (fun r => (r.status, r.assignedTo)) =
        some ("running", some "n1") ∧
      ¬ StartsRunnable waitingTasks (step waitingTasks create) ∧
      ((step waitingTasks assign).tasks.get? "task_b").map (fun r => (r.status, r.assignedTo)) =
        some ("running", some "n2") ∧
      ¬ StartsRunnable waitingTasks (step waitingTasks assign) := by
  refine ⟨by decide +kernel, fun h => ?_, by decide +kernel, fun h => ?_⟩
  · simp only [step, program, Prog.run_bind_pure_snd] at h
    have hcreate := (startsRunnable_createTask 2 "test" [] 3 [] (some "n1") rfl).2.mp h
    have hok : ¬ Refused "test" 3 := by
      rw [Refused]
      decide
    obtain ⟨⟨node, hnode, honline, -⟩, -⟩ := hcreate hok "n1" rfl ⟨_, rfl⟩
    have hoffline : (twoNodes.get? "n1").map Node.status = some .offline := by decide +kernel
    have hnode' : twoNodes.get? "n1" = some node := hnode
    rw [hnode', Option.map_some, honline] at hoffline
    cases hoffline
  · simp only [step, program, Prog.run_bind_pure_snd] at h
    have hdeps := (startsRunnable_scheduleTaskToNode waitingTasks 2 "task_b" "n2").mp h deployRow
    have hassignable : Assignable waitingTasks "task_b" "n2" deployRow :=
      ⟨rfl, by decide, .inr rfl, ⟨_, rfl⟩, _, rfl, rfl, fun _ hcap => absurd hcap List.not_mem_nil⟩
    obtain ⟨r, hr, hcompleted⟩ := hdeps hassignable "task_a" List.mem_cons_self
    have hpending : (waitingTasks.tasks.get? "task_a").map TaskRow.status = some "pending" := by
      decide +kernel
    rw [hr, Option.map_some, hcompleted] at hpending
    exact absurd hpending (by decide)

end TaskOp

end HermesCluster
