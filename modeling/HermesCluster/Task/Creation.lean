import HermesCluster.Sync.Readable
import HermesCluster.Task.LifeCycle

/-!
# What `create_task` writes, and where it raises

On an id that no task has, `create_task` of the manager inserts a row, adds the dependencies
and then looks at the node: `run_createTask_plain`, `run_createTask_unknown` and
`run_createTask_assigned` are its three ends, all of which leave the row behind (`Created`).
-/

namespace HermesCluster.TaskManager

open ClusterStore

/-- The checks of `create_task` and `update_task` on a title and a priority refuse them. -/
def Refused (title : String) (priority : Int) : Prop :=
  blank title = true ∨ priority < 1 ∨ 5 < priority

/-- The node a new task is to be assigned to; an empty id is none. -/
def assignee (assignTo : Option NodeId) : Option NodeId := assignTo.filter (· ≠ "")

/-- What `create_task` has written under `t` when it comes to the node. -/
structure Created (t : TaskId) (requires : List Capability) (deps : List TaskId)
    (s s' : ClusterStore) (r : TaskRow) : Prop where
  nodes : s'.nodes = s.nodes
  others : OnlyTasks [t] s s'
  row : s'.tasks.get? t = some r
  requires : r.requires = requires
  dependsOn : r.dependsOn = deps
  waits : r.status = TaskStatus.pending.value ∨ r.status = TaskStatus.ready.value
  decodes : decodes r = true
  version : r.version ≤ 2

variable {s : ClusterStore} {now : Time} {t : TaskId} {token title : String}
  {requires : List Capability} {priority : Int} {deps : List TaskId} {assignTo : Option NodeId}

theorem refused_or (title : String) (priority : Int) :
    Refused title priority ∨ ¬ blank title = true ∧ ¬ (priority < 1 ∨ 5 < priority) := by
  by_cases h : Refused title priority
  · exact .inl h
  · exact .inr (not_or.mp h)

/-- A call that is refused raises before it writes. -/
theorem run_createTask_refused (h : Refused title priority) (s : ClusterStore) (now : Time)
    (token : String) (requires : List Capability) (deps : List TaskId)
    (assignTo : Option NodeId) : ∃ msg,
      (createTask now token title requires priority deps assignTo).run s =
        (.error (.valueError msg), s) := by
  rw [createTask]
  by_cases hb : blank title = true
  · rw [if_pos hb]
    exact ⟨_, rfl⟩
  · rw [if_neg hb, if_pos (h.resolve_left hb)]
    exact ⟨_, rfl⟩

/-- The row a new task has before its dependencies are set. -/
theorem created_of_createTask (hfresh : s.tasks.get? t = none) {s₁ : ClusterStore}
    (h : s.createTask now t title requires priority = .ok s₁) (hp : fits64 priority = true) :
    Created t requires [] s s₁ (madeReady now (insertedRow now t title requires priority)) := by
  obtain ⟨s', hok, hnodes, hget⟩ := createTask_ok s now t title requires hp
  rw [h] at hok
  cases hok
  refine ⟨hnodes, ClusterStore.onlyTasks_createTask h, ?_, rfl, rfl, .inr rfl, rfl, ?_⟩
  · rw [hget, if_pos rfl, hfresh]
    rfl
  · show (1 : Int) ≤ 2
    decide

/-- The row with its dependencies. -/
theorem Created.withDependencies {s₁ : ClusterStore} {r : TaskRow}
    (h : Created t requires [] s s₁ r) (hv : r.version ≤ 1) (now : Time) (deps : List TaskId) :
    Created t requires deps s (s₁.setDependencies now t deps) (withDependencies now deps r) := by
  obtain ⟨-, -, hfits⟩ := decodes_iff.mp h.decodes
  refine ⟨h.nodes, h.others.trans (OnlyTasks.of_update fun k => get?_setDependencies deps), ?_,
    h.requires, rfl, ?_, ?_, ?_⟩
  · rw [get?_setDependencies, if_pos rfl, h.row]
    rfl
  · show (if _ then _ else r.status) = _ ∨ (if _ then _ else r.status) = _
    split
    · exact .inl rfl
    · exact h.waits
  · refine (decodes_withDependencies_iff h.decodes).mpr ?_
    show r.version < _
    omega
  · show bumped r.version ≤ 2
    rw [bumped_of_fits hfits]
    omega

/-- The two steps before the node is looked at. -/
theorem run_created (hfresh : s.tasks.get? t = none) (hp : fits64 priority = true) (now : Time)
    (title : String) (requires : List Capability) (deps : List TaskId) : ∃ task s₁ s₂ r,
      (Session.createTask now t title requires priority).run s = (.ok task, s₁) ∧
      (addDependencies now t deps).run s₁ = (.ok (), s₂) ∧ Created t requires deps s s₂ r := by
  obtain ⟨s₁, hok, hrun, -⟩ := run_createTask (s := s) (t := t) now title requires hp
  obtain ⟨task, hrun⟩ := hrun fun r hr => by rw [hfresh] at hr; cases hr
  have hcreated := created_of_createTask hfresh hok hp
  refine ⟨task, s₁, ?_⟩
  rw [addDependencies]
  by_cases hd : deps = []
  · rw [if_pos hd, hd]
    exact ⟨s₁, _, hrun, rfl, hcreated⟩
  · rw [if_neg hd]
    exact ⟨s₁.setDependencies now t deps, _, hrun, rfl,
      hcreated.withDependencies (le_refl _) now deps⟩

/-! ### The node -/

/-- The node can be read. -/
def NodeRead (s : ClusterStore) (n : NodeId) : Prop := ∃ node, s.getNode n = .ok (some node)

/-- A node that cannot be read is not there, or its row does not decode. -/
theorem getNode_of_not_read {n : NodeId} (h : ¬ NodeRead s n) :
    s.getNode n = .ok none ∨ ∃ msg, s.getNode n = .error (.valueError msg) := by
  cases hrow : s.nodes.get? n with
  | none => exact .inl (by rw [getNode, hrow])
  | some row =>
    by_cases hload : row.load = .nan
    · exact .inr ⟨_, getNode_of_nan hrow hload⟩
    · exact absurd ⟨row, getNode_of_some hrow hload⟩ h

theorem run_assign_none (ha : assignee assignTo = none) (s : ClusterStore) (now : Time)
    (t : TaskId) : (assign now t assignTo).run s = (.ok (), s) := by
  rw [assignee] at ha
  rw [assign, ha]
  rfl

theorem run_assign_unknown {n : NodeId} (ha : assignee assignTo = some n) (hn : ¬ NodeRead s n)
    (now : Time) (t : TaskId) :
    ∃ msg, (assign now t assignTo).run s = (.error (.valueError msg), s) := by
  rw [assignee] at ha
  rw [assign, ha]
  dsimp only
  rcases getNode_of_not_read hn with hnode | ⟨msg, hnode⟩
  · have hread : (Session.getNode n).run s = (.ok none, s) := Prog.run_read_ok hnode
    rw [Prog.run_bind_ok _ hread, if_pos rfl]
    exact ⟨_, rfl⟩
  · have hread : (Session.getNode n).run s = (.error (.valueError msg), s) :=
      Prog.run_read_error hnode
    exact ⟨msg, Prog.run_bind_error _ hread⟩

theorem run_assign_some {n : NodeId} (ha : assignee assignTo = some n) (hn : NodeRead s n)
    (now : Time) (t : TaskId) : (assign now t assignTo).run s =
      (.ok (), (s.setTaskStatus now t .running).setAssignee t n) := by
  obtain ⟨node, hn⟩ := hn
  have hread : (Session.getNode n).run s = (.ok (some node), s) := Prog.run_read_ok hn
  rw [assignee] at ha
  rw [assign, ha]
  dsimp only
  rw [Prog.run_bind_ok _ hread, if_neg (Option.some_ne_none node)]
  rfl

/-! ### The ends of `create_task` -/

/-- `assign` and what comes after it, on a store with the row. -/
theorem run_createTask_assign (hfresh : s.tasks.get? (generateId "task" token) = none)
    (h : ¬ Refused title priority) (now : Time) (requires : List Capability)
    (deps : List TaskId) (assignTo : Option NodeId) : ∃ task s₂ r,
      Created (generateId "task" token) requires deps s s₂ r ∧
      (createTask now token title requires priority deps assignTo).run s =
        (assign now (generateId "task" token) assignTo >>= fun _ =>
          Session.getTask (generateId "task" token) >>= fun stored =>
            pure (stored.getD task)).run s₂ := by
  obtain ⟨hb, hp⟩ := (refused_or title priority).resolve_left h
  have hfits : fits64 priority = true := fits64_iff.mpr (by omega)
  obtain ⟨task, s₁, s₂, r, hcreate, hdeps, hcreated⟩ :=
    run_created hfresh hfits now title requires deps
  refine ⟨task, s₂, r, hcreated, ?_⟩
  rw [createTask, if_neg hb, if_neg hp, Prog.run_bind_ok _ hcreate, Prog.run_bind_ok _ hdeps]

/-- The end of `create_task`: a row that decodes is read. -/
theorem run_getD {r : TaskRow} (hr : s.tasks.get? t = some r) (hd : decodes r = true)
    (task : Task) : (Session.getTask t >>= fun stored => pure (stored.getD task)).run s =
      (.ok (readRow r), s) := by
  rw [Prog.run_bind_ok _ (Session.run_getTask_ok (getTask_of_some hr hd))]
  rfl

theorem Created.nodeRead {s₂ : ClusterStore} {r : TaskRow}
    (h : Created t requires deps s s₂ r) (n : NodeId) : NodeRead s₂ n ↔ NodeRead s n := by
  rw [NodeRead, NodeRead, getNode, getNode, h.nodes]

/-- Without a node, the call returns. -/
theorem run_createTask_plain (hfresh : s.tasks.get? (generateId "task" token) = none)
    (h : ¬ Refused title priority) (ha : assignee assignTo = none) (now : Time)
    (requires : List Capability) (deps : List TaskId) : ∃ task s₂ r,
      Created (generateId "task" token) requires deps s s₂ r ∧
      (createTask now token title requires priority deps assignTo).run s = (.ok task, s₂) := by
  obtain ⟨task, s₂, r, hcreated, hrun⟩ :=
    run_createTask_assign hfresh h now requires deps assignTo
  refine ⟨readRow r, s₂, r, hcreated, hrun.trans ?_⟩
  rw [Prog.run_bind_ok _ (run_assign_none ha s₂ now _)]
  exact run_getD hcreated.row hcreated.decodes task

/-- With a node that cannot be read, the call raises a `ValueError` after it wrote the row. -/
theorem run_createTask_unknown (hfresh : s.tasks.get? (generateId "task" token) = none)
    (h : ¬ Refused title priority) {n : NodeId} (ha : assignee assignTo = some n)
    (hn : ¬ NodeRead s n) (now : Time) (requires : List Capability) (deps : List TaskId) :
    ∃ msg s₂ r, Created (generateId "task" token) requires deps s s₂ r ∧
      (createTask now token title requires priority deps assignTo).run s =
        (.error (.valueError msg), s₂) := by
  obtain ⟨task, s₂, r, hcreated, hrun⟩ :=
    run_createTask_assign hfresh h now requires deps assignTo
  obtain ⟨msg, hassign⟩ := run_assign_unknown (s := s₂) ha
    (fun hr => hn ((hcreated.nodeRead n).mp hr)) now (generateId "task" token)
  exact ⟨msg, s₂, r, hcreated, hrun.trans (Prog.run_bind_error _ hassign)⟩

/-- With a node that can be read, the call returns, and the task runs on it. -/
theorem run_createTask_assigned (hfresh : s.tasks.get? (generateId "task" token) = none)
    (h : ¬ Refused title priority) {n : NodeId} (ha : assignee assignTo = some n)
    (hn : NodeRead s n) (now : Time) (requires : List Capability) (deps : List TaskId) :
    ∃ task s₂ r, Created (generateId "task" token) requires deps s s₂ r ∧
      (createTask now token title requires priority deps assignTo).run s = (.ok task,
        (s₂.setTaskStatus now (generateId "task" token) .running).setAssignee
          (generateId "task" token) n) := by
  obtain ⟨task, s₂, r, hcreated, hrun⟩ :=
    run_createTask_assign hfresh h now requires deps assignTo
  have hv := hcreated.version
  refine ⟨readRow (withAssignee n (withStatus now .running "" r)), s₂, r, hcreated,
    hrun.trans ?_⟩
  rw [Prog.run_bind_ok _ (run_assign_some ha ((hcreated.nodeRead n).mpr hn) now _)]
  refine run_getD ?_ ?_ task
  · rw [get?_setAssignee, if_pos rfl, get?_setTaskStatus, if_pos rfl, hcreated.row]
    rfl
  · refine (decodes_bumped_iff hcreated.decodes (isStatus_value .running) rfl).mpr ?_
    show r.version < _
    omega

end HermesCluster.TaskManager
