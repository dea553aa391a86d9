import HermesCluster.Task.Spec
import HermesCluster.Lib.Run

/-!
# The life cycle of a task under `TaskManager`

`LifeCycle op s s'` says what a call may do to the rows that are completed, running or failed.
Every call keeps it (`lifeCycle_step`): the creating ones write new rows only, the promoting and
scheduling ones keep these statuses, and the others check the status of a row before they write
or delete it.  Along a run, a row then stays completed until it is deleted, running until it is
cancelled, and failed until it is retried or deleted (`life_cycle`).

The ids of the rows a call creates are fresh, as `uuid4` makes them.
-/

namespace HermesCluster

namespace TaskOp

/-- The call is one that deletes the task. -/
def Deletes : TaskOp → TaskId → Prop
  | .delete taskId, k => k = taskId
  | .bulkDelete taskIds, k => k ∈ taskIds
  | .purge _, _ => True
  | _, _ => False

/-- The call is one that cancels the task. -/
def Cancels : TaskOp → TaskId → Prop
  | .cancel taskId, k => k = taskId
  | .bulkCancel taskIds, k => k ∈ taskIds
  | _, _ => False

/-- The call is `retry_task` of the task. -/
def Retries : TaskOp → TaskId → Prop
  | .retry taskId, k => k = taskId
  | _, _ => False

/-- The ids the call draws. -/
def newIds : TaskOp → List TaskId
  | .create token .. => [generateId "task" token]
  | .duplicate token .. => [generateId "task" token]
  | .bulkCreate tasks => tasks.map fun new => generateId "task" new.token
  | _ => []

/-- The ids the call draws are those of no task. -/
def Fresh (s : ClusterStore) (op : Time × TaskOp) : Prop :=
  ∀ k ∈ op.2.newIds, s.tasks.get? k = none

end TaskOp

namespace ClusterStore

/-- What a call may do to the rows that are completed, running or failed. -/
structure LifeCycle (op : TaskOp) (s s' : ClusterStore) : Prop where
  /-- A completed task keeps its status, unless it is deleted. -/
  completed : ∀ k, s.statusOf k = some TaskStatus.completed.value →
    s'.statusOf k = some TaskStatus.completed.value ∨ s'.statusOf k = none ∧ op.Deletes k
  /-- A running task keeps its status, unless it is cancelled and has failed then. -/
  running : ∀ k, s.statusOf k = some TaskStatus.running.value →
    s'.statusOf k = some TaskStatus.running.value ∨
      s'.statusOf k = some TaskStatus.failed.value ∧ op.Cancels k
  /-- A failed task keeps its status, unless it is deleted or retried. -/
  failed : ∀ k, s.statusOf k = some TaskStatus.failed.value →
    s'.statusOf k = some TaskStatus.failed.value ∨ s'.statusOf k = none ∧ op.Deletes k ∨
      op.Retries k

/-- The call makes tasks of these ids failed that are not completed, and nothing else. -/
def OnlyCancels (ids : List TaskId) (s s' : ClusterStore) : Prop :=
  ∀ k, s'.statusOf k = s.statusOf k ∨
    k ∈ ids ∧ s'.statusOf k = some TaskStatus.failed.value ∧
      s.statusOf k ≠ some TaskStatus.completed.value

/-- The call deletes tasks of these ids that are not running, and nothing else. -/
def OnlyDeletes (ids : List TaskId) (s s' : ClusterStore) : Prop :=
  ∀ k, s'.statusOf k = s.statusOf k ∨
    k ∈ ids ∧ s'.statusOf k = none ∧ s.statusOf k ≠ some TaskStatus.running.value

/-- Changing the texts of some ids from other than `old` to `new`, twice. -/
theorem changed_trans {ids : List TaskId} {old new : Option String} {a b c : TaskId → Option String}
    (h₁ : ∀ k, b k = a k ∨ k ∈ ids ∧ b k = new ∧ a k ≠ old)
    (h₂ : ∀ k, c k = b k ∨ k ∈ ids ∧ c k = new ∧ b k ≠ old) :
    ∀ k, c k = a k ∨ k ∈ ids ∧ c k = new ∧ a k ≠ old := by
  intro k
  rcases h₂ k with e₂ | ⟨hk, hf, hn⟩
  · rw [e₂]
    exact h₁ k
  · rcases h₁ k with e₁ | ⟨-, -, hn₁⟩
    · exact .inr ⟨hk, hf, by rwa [← e₁]⟩
    · exact .inr ⟨hk, hf, hn₁⟩

theorem OnlyCancels.refl (ids : List TaskId) (s : ClusterStore) : OnlyCancels ids s s :=
  fun _ => .inl rfl

theorem OnlyCancels.trans {ids : List TaskId} {s s₁ s₂ : ClusterStore}
    (h₁ : OnlyCancels ids s s₁) (h₂ : OnlyCancels ids s₁ s₂) : OnlyCancels ids s s₂ :=
  changed_trans h₁ h₂

theorem OnlyCancels.mono {ids ids' : List TaskId} {s s' : ClusterStore}
    (h : OnlyCancels ids s s') (hsub : ∀ k ∈ ids, k ∈ ids') : OnlyCancels ids' s s' :=
  fun k => (h k).imp id fun ⟨hk, hf⟩ => ⟨hsub k hk, hf⟩

theorem OnlyDeletes.refl (ids : List TaskId) (s : ClusterStore) : OnlyDeletes ids s s :=
  fun _ => .inl rfl

theorem OnlyDeletes.trans {ids : List TaskId} {s s₁ s₂ : ClusterStore}
    (h₁ : OnlyDeletes ids s s₁) (h₂ : OnlyDeletes ids s₁ s₂) : OnlyDeletes ids s s₂ :=
  changed_trans h₁ h₂

theorem OnlyDeletes.mono {ids ids' : List TaskId} {s s' : ClusterStore}
    (h : OnlyDeletes ids s s') (hsub : ∀ k ∈ ids, k ∈ ids') : OnlyDeletes ids' s s' :=
  fun k => (h k).imp id fun ⟨hk, hd⟩ => ⟨hsub k hk, hd⟩

/-! ### Three ways to keep the life cycle -/

variable {op : TaskOp} {s s' : ClusterStore}

theorem LifeCycle.of_keepsStatus (h : KeepsStatus s s') : LifeCycle op s s' where
  completed k hk := .inl (h k .completed (.inl rfl) hk)
  running k hk := .inl (h k .running (.inr (.inl rfl)) hk)
  failed k hk := .inl (h k .failed (.inr (.inr rfl)) hk)

theorem LifeCycle.of_onlyCancels {ids : List TaskId} (h : OnlyCancels ids s s')
    (hids : ∀ k ∈ ids, op.Cancels k) : LifeCycle op s s' where
  completed k hk := by
    rcases h k with e | ⟨-, -, hn⟩
    · exact .inl (e.trans hk)
    · exact absurd hk hn
  running k hk := by
    rcases h k with e | ⟨hmem, hf, -⟩
    · exact .inl (e.trans hk)
    · exact .inr ⟨hf, hids k hmem⟩
  failed k hk := by
    rcases h k with e | ⟨-, hf, -⟩
    · exact .inl (e.trans hk)
    · exact .inl hf

theorem LifeCycle.of_onlyDeletes {ids : List TaskId} (h : OnlyDeletes ids s s')
    (hids : ∀ k ∈ ids, op.Deletes k) : LifeCycle op s s' where
  completed k hk := by
    rcases h k with e | ⟨hmem, hd, -⟩
    · exact .inl (e.trans hk)
    · exact .inr ⟨hd, hids k hmem⟩
  running k hk := by
    rcases h k with e | ⟨-, -, hn⟩
    · exact .inl (e.trans hk)
    · exact absurd hk hn
  failed k hk := by
    rcases h k with e | ⟨hmem, hd, -⟩
    · exact .inl (e.trans hk)
    · exact .inr (.inl ⟨hd, hids k hmem⟩)

end ClusterStore

namespace TaskManager

open ClusterStore

variable {s : ClusterStore}

/-! ### The calls that create -/

variable (now : Time) (token : String)

theorem onlyTasks_addDependencies (t : TaskId) (deps : List TaskId) (s : ClusterStore) :
    OnlyTasks [t] s ((addDependencies now t deps).run s).2 := by
  rw [addDependencies]
  split
  · exact OnlyTasks.refl _ s
  · exact OnlyTasks.of_update fun k => get?_setDependencies deps

theorem onlyTasks_assign (t : TaskId) (assignTo : Option NodeId) (s : ClusterStore) :
    OnlyTasks [t] s ((assign now t assignTo).run s).2 := by
  have htrans := fun a b c => @OnlyTasks.trans [t] a b c
  rw [assign]
  split
  · exact OnlyTasks.refl _ s
  · refine Prog.rel_bind htrans (fun s => ?_) (fun node s => ?_) s
    · rw [Session.getNode, Prog.run_read_snd]
      exact OnlyTasks.refl _ s
    · split
      · exact OnlyTasks.refl _ s
      · refine Prog.rel_bind htrans (fun s => ?_) (fun _ s => ?_) s
        · exact OnlyTasks.of_update (get?_setTaskStatus s now t .running "")
        · exact OnlyTasks.of_update (get?_setAssignee _)

theorem onlyTasks_create (t : TaskId) (title : String) (requires : List Capability)
    (priority : Int) (s : ClusterStore) :
    OnlyTasks [t] s ((Session.createTask now t title requires priority).run s).2 := by
  rw [Session.createTask]
  refine Prog.rel_bind (fun a b c => @OnlyTasks.trans [t] a b c) (fun s => ?_) (fun _ s => ?_) s
  · refine Prog.rel_tx (OnlyTasks.refl [t]) fun a s' h => ?_
    cases hc : s.createTask now t title requires priority with
    | error e => rw [hc] at h; cases h
    | ok s₁ =>
      rw [hc] at h
      cases h
      exact onlyTasks_createTask hc
  · rw [Prog.run_bind_pure_snd, Session.run_getTask_snd]
    exact OnlyTasks.refl _ s

theorem onlyTasks_createTask (title : String) (requires : List Capability) (priority : Int)
    (deps : List TaskId) (assignTo : Option NodeId) (s : ClusterStore) :
    OnlyTasks [generateId "task" token] s
      ((createTask now token title requires priority deps assignTo).run s).2 := by
  have htrans := fun a b c => @OnlyTasks.trans [generateId "task" token] a b c
  rw [createTask]
  split
  · exact OnlyTasks.refl _ s
  split
  · exact OnlyTasks.refl _ s
  refine Prog.rel_bind htrans (onlyTasks_create now _ title requires priority)
    (fun task s => ?_) s
  refine Prog.rel_bind htrans (onlyTasks_addDependencies now _ deps) (fun _ s => ?_) s
  refine Prog.rel_bind htrans (onlyTasks_assign now _ assignTo) (fun _ s => ?_) s
  rw [Prog.run_bind_pure_snd, Session.run_getTask_snd]
  exact OnlyTasks.refl _ s

theorem onlyTasks_duplicateTask (t : TaskId) (titleSuffix : String) (s : ClusterStore) :
    OnlyTasks [generateId "task" token] s ((duplicateTask now token t titleSuffix).run s).2 := by
  rw [duplicateTask]
  refine rel_getTask (OnlyTasks.refl _ s) (OnlyTasks.refl _ s) fun task r _ _ => ?_
  rw [Prog.run_bind_pure_snd]
  exact onlyTasks_createTask now token _ _ _ _ _ s

theorem onlyTasks_bulkCreate (tasks : List NewTask) (s : ClusterStore) :
    OnlyTasks (tasks.map fun new => generateId "task" new.token) s
      ((bulkCreate now tasks).run s).2 := by
  induction tasks generalizing s with
  | nil => exact OnlyTasks.refl _ s
  | cons new tasks ih =>
    have htail : ∀ s, OnlyTasks (generateId "task" new.token ::
        tasks.map fun new => generateId "task" new.token) s ((bulkCreate now tasks).run s).2 :=
      fun s => (ih s).mono fun k hk => List.mem_cons_of_mem _ hk
    rw [bulkCreate]
    split
    · exact htail s
    refine Prog.rel_bind (fun a b c => @OnlyTasks.trans _ a b c) (fun s => ?_)
      (fun task s => ?_) s
    · exact (onlyTasks_createTask now new.token _ _ _ _ _ s).mono fun k hk =>
        List.mem_singleton.mp hk ▸ List.mem_cons_self
    · rw [Prog.run_bind_pure_snd]
      exact htail s

/-! ### The calls that promote, schedule and update -/

theorem keepsStatus_updateTask (t : TaskId) (title : Option String) (priority : Option Int)
    (requires : Option (List Capability)) (deps : Option (List TaskId)) (s : ClusterStore) :
    KeepsStatus s ((updateTask now t title priority requires deps).run s).2 := by
  rw [updateTask]
  refine rel_getTask (KeepsStatus.refl s) (KeepsStatus.refl s) fun task r _ _ => ?_
  dsimp only
  refine Prog.rel_bind (fun a b c => @KeepsStatus.trans a b c) (fun s => ?_) (fun _ s => ?_) s
  · refine Prog.rel_tx KeepsStatus.refl fun _ s' h => ?_
    refine KeepsStatus.of_update (updateTask_ok h) fun r u _ hu hr => ?_
    exact updatedBy_settled title priority requires deps hu hr
  · rw [Session.run_getTask_snd]
    exact KeepsStatus.refl s

theorem keepsStatus_autoSchedule (s : ClusterStore) :
    KeepsStatus s ((autoSchedule now).run s).2 := by
  rw [autoSchedule]
  have htrans := fun a b c => @KeepsStatus.trans a b c
  refine Prog.rel_bind htrans (fun s => keepsStatus_triggerPendingTasks) (fun promoted s => ?_) s
  refine Prog.rel_bind htrans (fun s => ?_) (fun n s => ?_) s
  · exact Prog.rel_tx KeepsStatus.refl fun n s' h => keepsStatus_schedulePending h
  · rw [Prog.run_bind_pure_snd, Session.getAllTasks, Prog.run_read_snd]
    exact KeepsStatus.refl s

/-- `schedule_task_to_node` writes a row that is ready or pending, so not one of these. -/
theorem keepsStatus_scheduleTaskToNode (t : TaskId) (nodeId : NodeId) (s : ClusterStore) :
    KeepsStatus s ((scheduleTaskToNode now t nodeId).run s).2 := by
  rw [scheduleTaskToNode]
  refine rel_getTask (KeepsStatus.refl s) (KeepsStatus.refl s) fun task r hr hst => ?_
  dsimp only
  split
  · exact KeepsStatus.refl s
  rename_i hready
  have hopen : ∀ u, Settled u → r.status ≠ u.value := by
    intro u hu h
    rw [hst] at h
    rw [TaskStatus.value_injective h] at hready
    rcases hu with rfl | rfl | rfl <;> exact hready (by decide)
  refine Prog.rel_read_bind (KeepsStatus.refl s) fun node _ => ?_
  split
  · exact KeepsStatus.refl s
  split
  · exact KeepsStatus.refl s
  split
  · exact KeepsStatus.refl s
  rw [Prog.run_bind_pure_snd, Prog.run_write]
  refine KeepsStatus.of_update (fun k => get?_assignTask nodeId) fun r' u hr' hu hst' => ?_
  rw [hr] at hr'
  cases hr'
  exact absurd hst' (hopen u hu)

/-! ### The calls that check the status -/

theorem onlyCancels_cancelTask (t : TaskId) (s : ClusterStore) :
    OnlyCancels [t] s ((cancelTask now t).run s).2 := by
  rw [cancelTask]
  refine rel_getTask (OnlyCancels.refl _ s) (OnlyCancels.refl _ s) fun task r hr hst => ?_
  dsimp only
  split
  · exact OnlyCancels.refl _ s
  rename_i hfinal
  rw [Prog.run_bind_pure_snd, Session.setTaskStatus, Prog.run_write]
  intro k
  by_cases hk : k = t
  · subst hk
    refine .inr ⟨List.mem_singleton.mpr rfl, ?_, ?_⟩
    · rw [statusOf, get?_setTaskStatus, if_pos rfl, hr]
      rfl
    · rw [statusOf, hr, Option.map_some, hst]
      intro h
      exact hfinal (.inl (TaskStatus.value_injective (Option.some.inj h)))
  · refine .inl ?_
    rw [statusOf, get?_setTaskStatus, if_neg hk]
    rfl

theorem onlyDeletes_deleteTasks {ids : List TaskId}
    (h : ∀ k ∈ ids, s.statusOf k ≠ some TaskStatus.running.value) :
    OnlyDeletes ids s (s.deleteTasks ids) := by
  intro k
  by_cases hk : k ∈ ids
  · refine .inr ⟨hk, ?_, h k hk⟩
    rw [statusOf, get?_deleteTasks, if_pos hk]
    rfl
  · refine .inl ?_
    rw [statusOf, get?_deleteTasks, if_neg hk]
    rfl

theorem onlyDeletes_deleteTask (t : TaskId) (s : ClusterStore) :
    OnlyDeletes [t] s ((deleteTask t).run s).2 := by
  rw [run_deleteTask]
  split
  · rename_i hd
    obtain ⟨r, hr, -, -, hrun⟩ := deletable_iff.mp hd
    refine onlyDeletes_deleteTasks fun k hk h => ?_
    rw [List.mem_singleton.mp hk, statusOf, hr] at h
    exact hrun (Option.some.inj h)
  · exact OnlyDeletes.refl _ s

/-- `purge_completed` deletes rows that are completed or failed. -/
theorem onlyDeletes_purgeCompleted (older : Int) (s : ClusterStore) :
    ∃ ids, OnlyDeletes ids s ((purgeCompleted now older).run s).2 := by
  cases hc : addTtl now (-seconds older) with
  | error e =>
    refine ⟨[], ?_⟩
    rw [run_purgeCompleted_error hc]
    exact OnlyDeletes.refl _ s
  | ok cutoff =>
    refine ⟨s.purgeable cutoff, ?_⟩
    rw [run_purgeCompleted_ok hc]
    refine onlyDeletes_deleteTasks fun k hk h => ?_
    obtain ⟨r, hr, hfin, -⟩ := mem_purgeable.mp hk
    rw [statusOf, hr, Option.map_some] at h
    rw [Option.some.inj h] at hfin
    exact absurd hfin (by decide)

theorem onlyCancels_bulkCancel (ids : List TaskId) (s : ClusterStore) :
    OnlyCancels ids s ((bulkCancel now ids).run s).2 := by
  induction ids generalizing s with
  | nil => exact OnlyCancels.refl _ s
  | cons t ids ih =>
    rw [bulkCancel]
    refine Prog.rel_bind (fun a b c => @OnlyCancels.trans _ a b c) (fun s => ?_)
      (fun cancelled s => ?_) s
    · exact (onlyCancels_cancelTask now t s).mono fun k hk =>
        List.mem_singleton.mp hk ▸ List.mem_cons_self
    · rw [Prog.run_bind_pure_snd]
      exact (ih s).mono fun k hk => List.mem_cons_of_mem t hk

theorem onlyDeletes_bulkDelete (ids : List TaskId) (s : ClusterStore) :
    OnlyDeletes ids s ((bulkDelete ids).run s).2 := by
  induction ids generalizing s with
  | nil => exact OnlyDeletes.refl _ s
  | cons t ids ih =>
    rw [bulkDelete]
    refine Prog.rel_bind (fun a b c => @OnlyDeletes.trans _ a b c) (fun s => ?_)
      (fun deleted s => ?_) s
    · exact (onlyDeletes_deleteTask t s).mono fun k hk =>
        List.mem_singleton.mp hk ▸ List.mem_cons_self
    · rw [Prog.run_bind_pure_snd]
      exact (ih s).mono fun k hk => List.mem_cons_of_mem t hk

/-- `retry_task` writes its own row, a failed one, and promotes. -/
theorem lifeCycle_retryTask (t : TaskId) (s : ClusterStore) :
    LifeCycle (.retry t) s ((retryTask now t).run s).2 := by
  rw [retryTask]
  have hrefl : LifeCycle (.retry t) s s := LifeCycle.of_keepsStatus (KeepsStatus.refl s)
  refine rel_getTask hrefl hrefl fun task r hr hst => ?_
  dsimp only
  split
  · exact hrefl
  rename_i hfailed
  -- the rows of other tasks, and this one if it had not failed, keep their status
  have hset : ∀ k u, Settled u → k ≠ t ∨ u ≠ .failed → s.statusOf k = some u.value →
      (s.setTaskStatus now t .pending "").statusOf k = some u.value := by
    intro k u _ hk h
    rw [statusOf, get?_setTaskStatus, if_neg]
    · exact h
    rintro rfl
    rw [statusOf, hr, Option.map_some, hst] at h
    have hu : task.status = u := TaskStatus.value_injective (Option.some.inj h)
    rcases hk with hk | hk
    · exact hk rfl
    · exact hk (hu ▸ not_not.mp hfailed)
  have hkeep : ∀ k u, Settled u → k ≠ t ∨ u ≠ .failed → s.statusOf k = some u.value →
      ((s.setTaskStatus now t .pending "").triggerPendingTasks now).2.statusOf k =
        some u.value :=
    fun k u hu hk h => keepsStatus_triggerPendingTasks k u hu (hset k u hu hk h)
  have hrun : ((do
      let _ ← Session.setTaskStatus now t .pending
      let _ ← Session.triggerPendingTasks now
      Session.getTask t : Session (Option Task)).run s).2 =
        ((s.setTaskStatus now t .pending "").triggerPendingTasks now).2 := by
    rw [Session.setTaskStatus, Session.triggerPendingTasks,
      Prog.run_bind_ok _ (Prog.run_write _ s), Prog.run_bind_ok _ (Prog.run_write _ _),
      Session.run_getTask_snd]
  rw [hrun]
  exact {
    completed := fun k h => .inl (hkeep k .completed (.inl rfl) (.inr (by decide)) h)
    running := fun k h => .inl (hkeep k .running (.inr (.inl rfl)) (.inr (by decide)) h)
    failed := fun k h => by
      by_cases hk : k = t
      · exact .inr (.inr hk)
      · exact .inl (hkeep k .failed (.inr (.inr rfl)) (.inl hk) h) }

end TaskManager

namespace TaskOp

open ClusterStore TaskManager

/-- **One call.** -/
theorem lifeCycle_step {s : ClusterStore} {op : Time × TaskOp} (h : Fresh s op) :
    LifeCycle op.2 s (step s op) := by
  obtain ⟨now, op⟩ := op
  rw [step]
  cases op with
  | create token title requires priority deps assignTo =>
    simp only [program, Prog.run_bind_pure_snd]
    exact .of_keepsStatus ((onlyTasks_createTask now token title requires priority deps assignTo
      s).keepsStatus h)
  | duplicate token t titleSuffix =>
    simp only [program, Prog.run_bind_pure_snd]
    exact .of_keepsStatus ((onlyTasks_duplicateTask now token t titleSuffix s).keepsStatus h)
  | update t title priority requires deps =>
    simp only [program, Prog.run_bind_pure_snd]
    exact .of_keepsStatus (keepsStatus_updateTask now t title priority requires deps s)
  | cancel t =>
    simp only [program, Prog.run_bind_pure_snd]
    exact .of_onlyCancels (onlyCancels_cancelTask now t s) fun k hk => List.mem_singleton.mp hk
  | retry t =>
    simp only [program, Prog.run_bind_pure_snd]
    exact lifeCycle_retryTask now t s
  | delete t =>
    simp only [program, Prog.run_bind_pure_snd]
    exact .of_onlyDeletes (onlyDeletes_deleteTask t s) fun k hk => List.mem_singleton.mp hk
  | purge older =>
    simp only [program, Prog.run_bind_pure_snd]
    obtain ⟨ids, hids⟩ := onlyDeletes_purgeCompleted now older s
    exact .of_onlyDeletes hids fun k _ => trivial
  | autoSchedule =>
    simp only [program, Prog.run_bind_pure_snd]
    exact .of_keepsStatus (keepsStatus_autoSchedule now s)
  | scheduleTo t nodeId =>
    simp only [program, Prog.run_bind_pure_snd]
    exact .of_keepsStatus (keepsStatus_scheduleTaskToNode now t nodeId s)
  | bulkCreate tasks =>
    simp only [program, Prog.run_bind_pure_snd]
    exact .of_keepsStatus ((onlyTasks_bulkCreate now tasks s).keepsStatus h)
  | bulkCancel ids =>
    simp only [program, Prog.run_bind_pure_snd]
    exact .of_onlyCancels (onlyCancels_bulkCancel now ids s) fun k hk => hk
  | bulkDelete ids =>
    simp only [program, Prog.run_bind_pure_snd]
    exact .of_onlyDeletes (onlyDeletes_bulkDelete ids s) fun k hk => hk

/-- A status that each call meeting `C` keeps, a part of a run whose calls meet `C` keeps. -/
theorem statusOf_run {C : ClusterStore → Time × TaskOp → Prop} {k : TaskId} {u : TaskStatus}
    (hone : ∀ s op, s.statusOf k = some u.value → C s op →
      (step s op).statusOf k = some u.value)
    {s : ClusterStore} {l m run : List (Time × TaskOp)} (hrun : l ++ m <+: run)
    (hc : ∀ m₁ op, m₁ ++ [op] <+: m → l ++ m₁ ++ [op] <+: run → C (Run.exec step s (l ++ m₁)) op)
    (h : (Run.exec step s l).statusOf k = some u.value) :
    (Run.exec step s (l ++ m)).statusOf k = some u.value := by
  refine Run.exec_preserves (Q := fun s => s.statusOf k = some u.value) hone s l m ?_ h
  intro m₁ op hm
  rw [← Run.exec_append]
  refine hc m₁ op hm (List.IsPrefix.trans ?_ hrun)
  rw [List.append_assoc]
  exact (List.prefix_append_right_inj l).mpr hm

/-- **The life cycle of a task.**  Along every run of calls whose drawn ids are fresh, each call
keeps the life cycle; so a completed task is completed as long as it is there, a running task is
running until it is cancelled, and a failed task is failed until it is retried or deleted. -/
theorem life_cycle (s : ClusterStore) (run : List (Time × TaskOp))
    (hfresh : Run.EachStep step Fresh s run) :
    Run.EachStep step (fun s op => LifeCycle op.2 s (step s op)) s run ∧
      ∀ l m k, l ++ m <+: run →
        ((Run.exec step s l).statusOf k = some TaskStatus.completed.value →
          (∀ m₁, m₁ <+: m → (Run.exec step s (l ++ m₁)).statusOf k ≠ none) →
          (Run.exec step s (l ++ m)).statusOf k = some TaskStatus.completed.value) ∧
        ((Run.exec step s l).statusOf k = some TaskStatus.running.value →
          (∀ op ∈ m, ¬ op.2.Cancels k) →
          (Run.exec step s (l ++ m)).statusOf k = some TaskStatus.running.value) ∧
        ((Run.exec step s l).statusOf k = some TaskStatus.failed.value →
          (∀ op ∈ m, ¬ op.2.Retries k) →
          (∀ m₁, m₁ <+: m → (Run.exec step s (l ++ m₁)).statusOf k ≠ none) →
          (Run.exec step s (l ++ m)).statusOf k = some TaskStatus.failed.value) := by
  have hsteps := hfresh.imp fun s op h => lifeCycle_step (s := s) h
  refine ⟨hsteps, fun l m k hrun => ⟨?_, ?_, ?_⟩⟩
  · intro h hthere
    refine statusOf_run (C := fun s op => LifeCycle op.2 s (step s op) ∧
      (step s op).statusOf k ≠ none) (fun s op hq hc => ?_) hrun (fun m₁ op hm hl => ?_) h
    · exact (hc.1.completed k hq).resolve_right fun hd => hc.2 hd.1
    · refine ⟨hsteps _ op hl, ?_⟩
      have hlast := hthere _ hm
      rwa [← List.append_assoc, Run.exec_concat] at hlast
  · intro h hno
    refine statusOf_run (C := fun s op => LifeCycle op.2 s (step s op) ∧ ¬ op.2.Cancels k)
      (fun s op hq hc => ?_) hrun (fun m₁ op hm hl => ?_) h
    · exact (hc.1.running k hq).resolve_right fun hd => hc.2 hd.2
    · exact ⟨hsteps _ op hl, hno op (hm.subset (by simp))⟩
  · intro h hno hthere
    refine statusOf_run (C := fun s op => LifeCycle op.2 s (step s op) ∧ ¬ op.2.Retries k ∧
      (step s op).statusOf k ≠ none) (fun s op hq hc => ?_) hrun (fun m₁ op hm hl => ?_) h
    · rcases hc.1.failed k hq with hf | hd | hr
      · exact hf
      · exact absurd hd.1 hc.2.2
      · exact absurd hr hc.2.1
    · refine ⟨hsteps _ op hl, hno op (hm.subset (by simp)), ?_⟩
      have hlast := hthere _ hm
      rwa [← List.append_assoc, Run.exec_concat] at hlast

/-- A task is created, promoted, cancelled, retried and deleted. -/
def oneTask : List (Time × TaskOp) :=
  [(0, .create "1" "build" [] 3 [] none), (1, .autoSchedule), (2, .cancel "task_1"),
    (3, .retry "task_1"), (4, .delete "task_1")]

theorem fresh_oneTask : Run.EachStep step Fresh {} oneTask := by
  have hrest : ∀ (s : ClusterStore) (op : Time × TaskOp), op.2.newIds = [] → Fresh s op := by
    intro s op h k hk
    rw [h] at hk
    cases hk
  simp only [oneTask, Run.eachStep_cons]
  exact ⟨fun _ _ => rfl, hrest _ _ rfl, hrest _ _ rfl, hrest _ _ rfl, hrest _ _ rfl,
    Run.eachStep_nil _⟩

theorem life_cycle_oneTask :
    Run.EachStep step Fresh {} oneTask ∧
      Run.EachStep step (fun s op => LifeCycle op.2 s (step s op)) {} oneTask :=
  ⟨fresh_oneTask, (life_cycle {} oneTask fresh_oneTask).1⟩

end TaskOp

end HermesCluster
