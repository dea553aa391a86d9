import HermesCluster.Recovery.Stranded
import HermesCluster.Routers.Spec

/-!
# Running tasks and the updates of the task table

Which updates leave the tasks that run on a node alone.  Promotions, blocking and
dependencies never touch a running task; the scheduler does not either when no ready
task fits an online node (`NothingToSchedule`).
-/

namespace HermesCluster.ClusterState

variable {s s' : ClusterState} {now : Time} {t k : TaskId} {n : NodeId}

theorem not_runsOn_placement {x : Task} (h : x.status ≠ .running) :
    x.placement ≠ (.running, some n) := fun hp => h (congrArg Prod.fst hp)

theorem runsOn_iff_of_get? {x : Task} (h : s.tasks.get? t = some x) :
    RunsOn s t n ↔ x.placement = (.running, some n) := by
  refine ⟨?_, ?_⟩
  · rintro ⟨y, hy, hp⟩
    rw [h] at hy
    obtain rfl := Option.some.inj hy
    exact hp
  · exact fun hp => ⟨x, h, hp⟩

theorem runsOn_congr (h : s'.tasks.get? t = s.tasks.get? t) :
    RunsOn s' t n ↔ RunsOn s t n := by
  rw [RunsOn, RunsOn, h]

/-- An update that changes no placement of a running task, nor makes one running. -/
theorem runsOn_map {f : Task → Task} (hget : s'.tasks.get? t = (s.tasks.get? t).map f)
    (hf : ∀ x, s.tasks.get? t = some x →
      (f x).placement = x.placement ∨ ((f x).status ≠ .running ∧ x.status ≠ .running)) :
    RunsOn s' t n ↔ RunsOn s t n := by
  cases hx : s.tasks.get? t with
  | none => rw [RunsOn, RunsOn, hget, hx]; simp
  | some x =>
    have hx' : s'.tasks.get? t = some (f x) := by rw [hget, hx]; rfl
    rw [runsOn_iff_of_get? hx, runsOn_iff_of_get? hx']
    rcases hf x hx with hp | ⟨hn', hn⟩
    · rw [hp]
    · exact iff_of_false (not_runsOn_placement hn') (not_runsOn_placement hn)

/-- An update that leaves the task under its id not running. -/
theorem runsOn_stopped {f : Task → Task}
    (hget : ∀ k, s'.tasks.get? k = if k = t then (s.tasks.get? k).map f else s.tasks.get? k)
    (hf : ∀ x, (f x).status ≠ .running) : RunsOn s' k n ↔ k ≠ t ∧ RunsOn s k n := by
  by_cases hk : k = t
  · refine iff_of_false ?_ fun h => h.1 hk
    rintro ⟨x, hx, hp⟩
    rw [hget, if_pos hk] at hx
    obtain ⟨y, -, rfl⟩ := Option.map_eq_some_iff.mp hx
    exact not_runsOn_placement (hf y) hp
  · have hsame : RunsOn s' k n ↔ RunsOn s k n := runsOn_congr (by rw [hget, if_neg hk])
    rw [hsame]
    exact ⟨fun h => ⟨hk, h⟩, fun h => h.2⟩

/-- The same for an update of one task. -/
theorem runsOn_update {f : Task → Task}
    (hget : ∀ k, s'.tasks.get? k = if k = t then (s.tasks.get? k).map f else s.tasks.get? k)
    (hf : ∀ x, s.tasks.get? t = some x →
      (f x).placement = x.placement ∨ ((f x).status ≠ .running ∧ x.status ≠ .running)) :
    RunsOn s' k n ↔ RunsOn s k n := by
  by_cases hk : k = t
  · subst hk
    exact runsOn_map (by rw [hget, if_pos rfl]) hf
  · exact runsOn_congr (by rw [hget, if_neg hk])

theorem runsOn_promoted : RunsOn (s.triggerPendingTasks now).2 k n ↔ RunsOn s k n := by
  refine runsOn_map get?_triggerPendingTasks fun x _ => ?_
  unfold promoted
  split
  · rename_i h
    exact Or.inr ⟨by simp [madeReady], by rw [h.1]; decide⟩
  · exact Or.inl rfl

theorem runsOn_downstream (d : TaskId) :
    RunsOn (TaskRouter.downstream s now d) k n ↔ RunsOn s k n := by
  refine runsOn_map TaskRouter.get?_downstream fun x _ => ?_
  unfold TaskRouter.downstreamed
  split
  · rename_i h
    exact Or.inr ⟨by simp [withStatus], by rw [h.2.1]; decide⟩
  · exact Or.inl rfl

theorem runsOn_blockDependents (d : TaskId) :
    RunsOn ((s.getDependents d).foldl (TaskRouter.blockDependent now) s) k n ↔ RunsOn s k n := by
  refine runsOn_map TaskRouter.get?_blockDependents fun x _ => ?_
  unfold TaskRouter.blockedBy
  split
  · rename_i h
    exact Or.inr ⟨by simp [withStatus], by rw [h.2]; decide⟩
  · exact Or.inl rfl

/-- No ready task fits an online node: the scheduler has nothing to do. -/
def NothingToSchedule (s : ClusterState) : Prop :=
  ∀ k x, s.tasks.get? k = some x → x.status = .ready → s.firstFit x.requires = none

theorem runsOn_scheduled (h : NothingToSchedule s) :
    RunsOn (s.schedulePending now).2 k n ↔ RunsOn s k n := by
  refine runsOn_map get?_schedulePending fun x hx => Or.inl ?_
  by_cases hr : x.status = .ready
  · rw [scheduled_of_noFit (h k x hx hr)]
  · rw [scheduled_of_not_ready hr]

end HermesCluster.ClusterState
