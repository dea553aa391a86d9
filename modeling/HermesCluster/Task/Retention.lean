import HermesCluster.Task.Rules

/-!
# How long a finished task is kept

`purge_completed` deletes the finished tasks whose `updated_at` is older than the retention time.
Every method that creates a task or changes its status writes the clock reading into that column,
and none takes the column back.

* `touches_step`: what a step does to the status of a task it does at its clock reading.
* `purge_keeps`: so in a run with a clock that does not go back, a purge leaves every task that was
  created or changed its status within the retention time.
-/

namespace HermesCluster

namespace ClusterStore

/-- The row was written at the clock reading, or neither its status nor its time has changed. -/
def TouchedAt (now : Time) (r r' : TaskRow) : Prop :=
  r'.updatedAt = now ∨ (r'.status = r.status ∧ r'.updatedAt = r.updatedAt)

/-- Every row was written at the clock reading, or was there before with its status and its
time. -/
def Touches (now : Time) (s s' : ClusterStore) : Prop :=
  ∀ k r', s'.tasks.get? k = some r' →
    r'.updatedAt = now ∨
      ∃ r, s.tasks.get? k = some r ∧ r'.status = r.status ∧ r'.updatedAt = r.updatedAt

variable {now : Time} {s s' : ClusterStore} {r : TaskRow} {t : TaskId}

theorem Touches.refl (s : ClusterStore) : Touches now s s := fun _ r' h => .inr ⟨r', h, rfl, rfl⟩

theorem Touches.trans (a b c : ClusterStore) (h₁ : Touches now a b) (h₂ : Touches now b c) :
    Touches now a c := by
  intro k r₂ hr₂
  rcases h₂ k r₂ hr₂ with hnow | ⟨r₁, hr₁, hstatus₂, htime₂⟩
  · exact .inl hnow
  rcases h₁ k r₁ hr₁ with hnow | ⟨r, hr, hstatus₁, htime₁⟩
  · exact .inl (htime₂.trans hnow)
  · exact .inr ⟨r, hr, hstatus₂.trans hstatus₁, htime₂.trans htime₁⟩

theorem Touches.of_tasks (h : s'.tasks = s.tasks) : Touches now s s' := by
  intro k r' hr'
  rw [h] at hr'
  exact Touches.refl s k r' hr'

/-- An update of every row. -/
theorem Touches.of_map {f : TaskRow → TaskRow}
    (hget : ∀ k, s'.tasks.get? k = (s.tasks.get? k).map f) (hf : ∀ r, TouchedAt now r (f r)) :
    Touches now s s' := by
  intro k r' hr'
  rw [hget] at hr'
  obtain ⟨r, hr, rfl⟩ := Option.map_eq_some_iff.mp hr'
  exact (hf r).imp_right fun hsame => ⟨r, hr, hsame⟩

/-- An update of one row. -/
theorem Touches.of_update {f : TaskRow → TaskRow}
    (hget : ∀ k, s'.tasks.get? k = if k = t then (s.tasks.get? k).map f else s.tasks.get? k)
    (hf : ∀ r, TouchedAt now r (f r)) : Touches now s s' := by
  intro k r' hr'
  by_cases hk : k = t
  · rw [hget, if_pos hk] at hr'
    obtain ⟨r, hr, rfl⟩ := Option.map_eq_some_iff.mp hr'
    exact (hf r).imp_right fun hsame => ⟨r, hr, hsame⟩
  · rw [hget, if_neg hk] at hr'
    exact Touches.refl s k r' hr'

/-! ### The updates of a row -/

theorem touchedAt_madeReady (r : TaskRow) : TouchedAt now r (madeReady now r) := by
  rw [madeReady]
  split
  · exact .inl rfl
  · exact .inr ⟨rfl, rfl⟩

theorem touchedAt_promoted (r : TaskRow) : TouchedAt now r (s.promoted now r) := by
  rw [promoted]
  split
  · exact touchedAt_madeReady r
  · exact .inr ⟨rfl, rfl⟩

theorem touchedAt_unblocked (r : TaskRow) : TouchedAt now r (unblocked now r) := by
  rw [unblocked]
  split
  · exact .inl rfl
  · exact .inr ⟨rfl, rfl⟩

theorem touchedAt_scheduled (r : TaskRow) : TouchedAt now r (s.scheduled now r) := by
  rw [scheduled]
  split
  · split
    · exact .inl rfl
    · exact .inr ⟨rfl, rfl⟩
  · exact .inr ⟨rfl, rfl⟩

theorem touchedAt_updatedBy (title : Option String) (priority : Option Int)
    (requires : Option (List Capability)) (deps : Option (List TaskId)) (r : TaskRow) :
    TouchedAt now r (updatedBy now title priority requires deps r) := by
  rw [updatedBy]
  split
  · exact .inr ⟨rfl, rfl⟩
  · exact .inl rfl

/-! ### The store's methods -/

/-- A row that is new is promoted at once, so it has the clock reading in any case. -/
theorem touches_createTask {title : String} {requires : List Capability} {priority : Int}
    (h : s.createTask now t title requires priority = .ok s') : Touches now s s' := by
  by_cases hp : fits64 priority = true
  · obtain ⟨s₁, hok, -, hget⟩ := createTask_ok s now t title requires hp
    rw [h] at hok
    cases hok
    intro k r' hr'
    by_cases hk : k = t
    · rw [hget, if_pos hk] at hr'
      obtain rfl := Option.some.inj hr'
      cases hr : s.tasks.get? k with
      | none => exact .inl rfl
      | some r => exact (touchedAt_madeReady r).imp_right fun hsame => ⟨r, rfl, hsame⟩
    · rw [hget, if_neg hk] at hr'
      exact Touches.refl s k r' hr'
  · rw [createTask_raises title requires hp] at h
    cases h

theorem touches_setTaskStatus (status : TaskStatus) (failReason : String) :
    Touches now s (s.setTaskStatus now t status failReason) :=
  Touches.of_update (get?_setTaskStatus s now t status failReason) fun _ => .inl rfl

theorem touches_setDependencies (deps : List TaskId) :
    Touches now s (s.setDependencies now t deps) :=
  Touches.of_update (fun _ => get?_setDependencies deps) fun _ => .inl rfl

/-- The node alone is written without a time. -/
theorem touches_setAssignee (nodeId : NodeId) : Touches now s (s.setAssignee t nodeId) :=
  Touches.of_update (get?_setAssignee nodeId) fun _ => .inr ⟨rfl, rfl⟩

theorem touches_assignTask (nodeId : NodeId) : Touches now s (s.assignTask now t nodeId) :=
  Touches.of_update (fun _ => get?_assignTask nodeId) fun _ => .inl rfl

theorem touches_unassignTask : Touches now s (s.unassignTask now t) :=
  Touches.of_update (fun _ => get?_unassignTask) fun _ => .inl rfl

theorem touches_unblockTask : Touches now s (s.unblockTask now t).2 :=
  Touches.of_update (fun _ => get?_unblockTask) touchedAt_unblocked

theorem touches_deleteTasks (ids : List TaskId) : Touches now s (s.deleteTasks ids) := by
  intro k r' hr'
  rw [get?_deleteTasks] at hr'
  split at hr'
  · cases hr'
  · exact Touches.refl s k r' hr'

theorem touches_applyTaskState (ts : TaskSync) : Touches now s (s.applyTaskState now ts) := by
  intro k r' hr'
  rw [get?_applyTaskState] at hr'
  split at hr'
  · obtain rfl := Option.some.inj hr'
    cases s.tasks.get? k with
    | none => exact .inl rfl
    | some r => exact .inl rfl
  · exact Touches.refl s k r' hr'

theorem touches_tasks (now : Time) : TaskRules now (Touches now) where
  of_tasks := Touches.of_tasks
  trans := Touches.trans
  createTask h := touches_createTask h
  setDependencies _ _ deps := touches_setDependencies deps
  setTaskStatus _ _ status failReason := touches_setTaskStatus status failReason
  setAssignee _ _ n := touches_setAssignee n
  updateTask h := Touches.of_update (updateTask_ok h) (touchedAt_updatedBy _ _ _ _)
  triggerPendingTasks _ := Touches.of_map (fun _ => get?_triggerPendingTasks) touchedAt_promoted
  schedulePending h := Touches.of_map (schedulePending_inv h).2 touchedAt_scheduled
  assignTask _ _ n := touches_assignTask n
  unassignTask _ _ := touches_unassignTask
  unblockTask _ _ := touches_unblockTask
  applyTaskState _ ts := touches_applyTaskState ts

end ClusterStore

open ClusterStore

/-- **One call of `TaskManager`.** -/
theorem TaskOp.touches (now : Time) (op : TaskOp) (s : ClusterStore) :
    Touches now s ((op.program now).run s).2 :=
  op.keeps { toKeepRules := (touches_tasks now).keepRules
             deleteTasks := fun _ ids => touches_deleteTasks ids } s

/-! ### Runs -/

namespace Database

theorem touches_step {c : Connection Database} (hc : TasksCommitted c) (i : Time × DbOp) :
    TasksCommitted (step c i) ∧ Touches i.1 c.visible.store (step c i).visible.store :=
  tasks_step hc (touches_tasks i.1) fun call _ => call.touches i.1 c.visible.store

/-- The task, if it is there, was last written at the clock reading or later. -/
def WrittenSince (u : Time) (k : TaskId) (c : Connection Database) : Prop :=
  TasksCommitted c ∧ ∀ r, c.visible.store.tasks.get? k = some r → u ≤ r.updatedAt

theorem writtenSince_step {u : Time} {k : TaskId} {c : Connection Database} {i : Time × DbOp}
    (h : WrittenSince u k c) (hi : u ≤ i.1) : WrittenSince u k (step c i) := by
  obtain ⟨hcommitted, htouches⟩ := touches_step h.1 i
  refine ⟨hcommitted, fun r' hr' => ?_⟩
  rcases htouches k r' hr' with hnow | ⟨r, hr, -, htime⟩
  · rwa [hnow]
  · rw [htime]
    exact h.2 r hr

/-- The task is new or in another status. -/
def Changed (k : TaskId) (s s' : ClusterStore) : Prop :=
  s'.statusOf k ≠ none ∧ s'.statusOf k ≠ s.statusOf k

instance (k : TaskId) (s s' : ClusterStore) : Decidable (Changed k s s') :=
  inferInstanceAs (Decidable (_ ∧ _))

theorem writtenSince_of_changed {k : TaskId} {c : Connection Database} {i : Time × DbOp}
    (hc : TasksCommitted c) (h : Changed k c.visible.store (step c i).visible.store) :
    WrittenSince i.1 k (step c i) := by
  obtain ⟨hcommitted, htouches⟩ := touches_step hc i
  refine ⟨hcommitted, fun r' hr' => ?_⟩
  rcases htouches k r' hr' with hnow | ⟨r, hr, hstatus, -⟩
  · exact hnow.ge
  · refine absurd ?_ h.2
    rw [statusOf, statusOf, hr, hr']
    exact congrArg some hstatus

theorem tasksCommitted_run (d : Database) (run : List (Time × DbOp)) :
    TasksCommitted (Run.exec step (Connection.opened d) run) := by
  have hall : Run.Always step TasksCommitted (Connection.opened d) run :=
    Run.always_of_eachStep (C := fun _ _ => True) (fun _ i hc _ => (touches_step hc i).1) run
      (Connection.opened d) rfl fun _ _ _ => trivial
  exact hall run (List.prefix_refl run)

/-- A purge leaves a task that was written within the retention time. -/
theorem get?_purge_of_writtenSince {u now : Time} {older : Int} {k : TaskId}
    {c : Connection Database} (h : WrittenSince u k c) (hfresh : now ≤ u + seconds older) :
    (step c (now, .manager (.purge older))).visible.store.tasks.get? k =
      c.visible.store.tasks.get? k := by
  have hrun : (((onStore (TaskOp.program now (.purge older))).run c.visible).2).store.tasks.get? k =
      c.visible.store.tasks.get? k := by
    rw [run_onStore]
    simp only [TaskOp.program, Prog.run_bind_pure_snd]
    show ((TaskManager.purgeCompleted now older).run c.visible.store).2.tasks.get? k = _
    cases hcutoff : addTtl now (-seconds older) with
    | error e => rw [run_purgeCompleted_error hcutoff]
    | ok cutoff =>
      rw [run_purgeCompleted_ok hcutoff, get?_deleteTasks, if_neg]
      rw [mem_purgeable]
      rintro ⟨r, hr, -, hold⟩
      rw [addTtl_eq_ok hcutoff] at hold
      have hle : now + -seconds older ≤ u := add_neg_le_iff_le_add.mpr hfresh
      exact absurd (h.2 r hr) (not_le.mpr (hold.trans_le hle))
  rcases Prog.exec_visible (onStore (TaskOp.program now (.purge older))) c with hrun' | hback
  · exact (congrArg (fun d : Database => d.store.tasks.get? k) hrun').trans hrun
  · have htasks : (((onStore (TaskOp.program now (.purge older))).exec c).2).visible.store.tasks =
        c.visible.store.tasks := by
      rw [hback]
      exact h.1
    exact congrArg (fun t : Table TaskRow => t.get? k) htasks

/-- **No fresh task is purged.**  Take any run of methods of the store and of `TaskManager` and of
writes of the watchdog, raising or not, in which a step creates a task or changes its status, and
none of the steps after it reads an earlier time.  Then a purge within the retention time of that
step leaves the task as it is. -/
theorem purge_keeps (d : Database) (l m : List (Time × DbOp)) (i : Time × DbOp) {k : TaskId}
    (hchanged : Changed k (Run.exec step (Connection.opened d) l).visible.store
      (Run.exec step (Connection.opened d) (l ++ [i])).visible.store)
    (hclock : ∀ j ∈ m, i.1 ≤ j.1) {now : Time} {older : Int}
    (hfresh : now ≤ i.1 + seconds older) :
    (Run.exec step (Connection.opened d)
        (l ++ [i] ++ m ++ [(now, .manager (.purge older))])).visible.store.tasks.get? k =
      (Run.exec step (Connection.opened d) (l ++ [i] ++ m)).visible.store.tasks.get? k := by
  rw [Run.exec_concat]
  refine get?_purge_of_writtenSince (u := i.1) ?_ hfresh
  refine Run.exec_preserves (C := fun _ j => i.1 ≤ j.1) (fun c j => writtenSince_step)
    (Connection.opened d) (l ++ [i]) m (fun l' j hl' => ?_) ?_
  · exact hclock j (hl'.subset (List.mem_append_right l' List.mem_cons_self))
  · rw [Run.exec_concat] at hchanged ⊢
    exact writtenSince_of_changed (tasksCommitted_run d l) hchanged

/-- A task that is created and, five seconds later, cancelled. -/
def cancelling : List (Time × DbOp) := [(0, .manager (.create "1" "build" [] 3 [] none))]

/-- What comes after: a node goes offline, and a priority SQLite cannot hold rolls that back. -/
def restless : List (Time × DbOp) :=
  [(6000000, .updateNodeStatus "node_a" .offline),
    (7000000, .store (.createTask "task_1" "build" [] 9223372036854775808))]

/-- Sixty seconds after its creation the task is not sixty seconds old. -/
theorem purge_keeps_cancelled :
    (Run.exec step (Connection.opened {}) (cancelling ++ [(5000000, .manager (.cancel "task_1"))] ++
      restless ++ [(60000000, .manager (.purge 60))])).visible.store.statusOf "task_1" =
        some "failed" := by
  have hfresh : (60000000 : Time) ≤ 5000000 + seconds 60 := by decide
  have hkept := purge_keeps {} cancelling restless (5000000, .manager (.cancel "task_1"))
    (k := "task_1") (by decide +kernel) (by decide) hfresh
  rw [statusOf, hkept]
  decide +kernel

end Database

end HermesCluster
