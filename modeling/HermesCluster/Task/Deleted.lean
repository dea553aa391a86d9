import HermesCluster.Task.Spec

/-!
# Deletion and the tasks that wait for the deleted one

`trigger_pending_tasks` takes a dependency without a row for an unmet one, and neither
`delete_task` nor `purge_completed` asks who depends on what it deletes.  A pending task that is
due, all its dependencies being completed, is therefore promoted by a pass after the deletion
exactly if the deletion takes neither the task nor one of its dependencies
(`due_promoted_iff`).
-/

namespace HermesCluster

/-- The two calls of `TaskManager` that delete a row, `bulk_delete` being the first repeated. -/
inductive Deletion
  | deleteTask (taskId : TaskId)
  | purgeCompleted (olderThanSeconds : Int)
deriving DecidableEq, Repr

namespace Deletion

/-- The store after the call. -/
def apply (s : ClusterStore) (now : Time) : Deletion → ClusterStore
  | .deleteTask taskId => ((TaskManager.deleteTask taskId).run s).2
  | .purgeCompleted older => ((TaskManager.purgeCompleted now older).run s).2

/-- The ids of the rows the call takes out of the table `s`. -/
def taken (s : ClusterStore) (now : Time) : Deletion → List TaskId
  | .deleteTask taskId => if s.deletable taskId then [taskId] else []
  | .purgeCompleted older =>
    match addTtl now (-seconds older) with
    | .ok cutoff => s.purgeable cutoff
    | .error _ => []

end Deletion

namespace ClusterStore

open Deletion

variable {s : ClusterStore} {now later : Time} {del : Deletion} {k : TaskId} {r : TaskRow}

/-- The row waits for a promotion, and nothing else. -/
def Due (s : ClusterStore) (k : TaskId) (r : TaskRow) : Prop :=
  s.tasks.get? k = some r ∧ r.status = TaskStatus.pending.value ∧
    ∀ d ∈ r.dependsOn, s.Completed d

/-- Every row that is due in `s` is ready after a promoting pass over `s'`. -/
def Promotes (later : Time) (s s' : ClusterStore) : Prop :=
  ∀ k r, s.Due k r →
    (s'.triggerPendingTasks later).2.statusOf k = some TaskStatus.ready.value

theorem get?_apply (s : ClusterStore) (now : Time) (del : Deletion) (k : TaskId) :
    (del.apply s now).tasks.get? k = if k ∈ del.taken s now then none else s.tasks.get? k := by
  cases del with
  | deleteTask t =>
    rw [apply, run_deleteTask, taken]
    split
    · exact get?_deleteTasks [t] k
    · simp
  | purgeCompleted older =>
    rw [taken]
    cases hc : addTtl now (-seconds older) with
    | error e =>
      rw [apply, run_purgeCompleted_error hc]
      simp
    | ok cutoff =>
      rw [apply, run_purgeCompleted_ok hc]
      exact get?_deleteTasks _ k

theorem completed_apply (d : TaskId) :
    (del.apply s now).Completed d ↔ s.Completed d ∧ d ∉ del.taken s now := by
  rw [Completed, get?_apply]
  by_cases hd : d ∈ del.taken s now
  · simp [hd]
  · simp [hd, Completed]

/-- What a promoting pass makes of a pending row. -/
theorem statusOf_trigger_pending (hr : s.tasks.get? k = some r)
    (hp : r.status = TaskStatus.pending.value) :
    (s.triggerPendingTasks later).2.statusOf k = some TaskStatus.ready.value ↔
      ∀ d ∈ r.dependsOn, s.Completed d := by
  rw [statusOf, get?_triggerPendingTasks, hr, Option.map_some, Option.map_some, promoted,
    ← allDone_iff]
  split
  · rename_i hd
    rw [madeReady, if_pos hp]
    exact ⟨fun _ => hd, fun _ => rfl⟩
  · rename_i hd
    rw [hp]
    exact ⟨fun h => absurd (Option.some.inj h) (by decide), fun h => absurd h hd⟩

theorem statusOf_trigger_none (hr : s.tasks.get? k = none) :
    (s.triggerPendingTasks later).2.statusOf k = none := by
  rw [statusOf, get?_triggerPendingTasks, hr]
  rfl

/-- **A deletion and what it strands.**  After the call, a promoting pass makes every task ready
that was due before, exactly if the call takes no such task and no dependency of one. -/
theorem due_promoted_iff (s : ClusterStore) (now later : Time) (del : Deletion) :
    Promotes later s (del.apply s now) ↔
      ∀ k r, s.Due k r → k ∉ del.taken s now ∧ ∀ d ∈ r.dependsOn, d ∉ del.taken s now := by
  have hone : ∀ k,
      ((del.apply s now).triggerPendingTasks later).2.statusOf k = some TaskStatus.ready.value →
      k ∉ del.taken s now := by
    intro k h hk
    rw [statusOf_trigger_none (by rw [get?_apply, if_pos hk])] at h
    cases h
  have hiff : ∀ k r, s.Due k r → k ∉ del.taken s now →
      (((del.apply s now).triggerPendingTasks later).2.statusOf k =
        some TaskStatus.ready.value ↔ ∀ d ∈ r.dependsOn, d ∉ del.taken s now) := by
    intro k r hdue hk
    have hr : (del.apply s now).tasks.get? k = some r := by
      rw [get?_apply, if_neg hk]
      exact hdue.1
    rw [statusOf_trigger_pending hr hdue.2.1]
    refine forall₂_congr fun d hd => ?_
    rw [completed_apply, and_iff_right (hdue.2.2 d hd)]
  refine ⟨fun h k r hdue => ?_, fun h k r hdue => ?_⟩
  · have hk := hone k (h k r hdue)
    exact ⟨hk, (hiff k r hdue hk).mp (h k r hdue)⟩
  · obtain ⟨hk, hd⟩ := h k r hdue
    exact (hiff k r hdue hk).mpr hd

/-- A pending task. -/
def deploy : TaskRow :=
  { id := "task_b", title := "deploy", dependsOn := ["task_a"], status := "pending",
    createdAt := 0, updatedAt := 0, version := 2 }

/-- Its dependency is completed. -/
def oneDue : ClusterStore :=
  { tasks := .put (.put .empty
      { id := "task_a", title := "build", status := "completed", createdAt := 0, updatedAt := 0,
        version := 3 }) deploy }

/-- The completed dependency is purged, and the pass leaves its dependent pending. -/
theorem purge_strands_dependent :
    Due oneDue "task_b" deploy ∧ ¬ Promotes 2 oneDue ((purgeCompleted 0).apply oneDue 1) := by
  have hdue : Due oneDue "task_b" deploy := by
    refine ⟨by decide, by decide, fun d hd => ?_⟩
    rw [List.mem_singleton.mp hd]
    exact ⟨_, rfl, rfl⟩
  exact ⟨hdue, fun h => absurd (h _ _ hdue) (by decide)⟩

end ClusterStore

end HermesCluster
