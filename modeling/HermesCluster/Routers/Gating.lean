import HermesCluster.Lib.Run
import HermesCluster.Routers.Spec

/-!
# Dependency gating

A task may run when its dependencies are completed.  The scheduler and `claim` do
not look at dependencies: they take a task that is ready.  So what they need is
`ReadyGated`, that the dependencies of every ready task are completed.

Promotion establishes it and completions keep it.  It is lost where a ready task
gets new dependencies, where a task is made ready without a look at them, and where
a completed task stops being one; `GateSafe` excludes exactly these.

* `readyGated_step`: every request that is `GateSafe` keeps `ReadyGated`.
* `gated_of_moves`: from such a store, whatever a request moves to running has its
  dependencies completed.
* `running_only_when_gated`: so it is along every run of safe requests.
-/

namespace HermesCluster.TaskRouter

open ClusterState Run

variable {s s' : ClusterState} {r : TaskRouter} {now : Time} {t k : TaskId}

/-- `t` names a running task. -/
def Running (s : ClusterState) (t : TaskId) : Prop :=
  ∃ x, s.tasks.get? t = some x ∧ x.status = .running

instance : Decidable (Running s t) :=
  decidable_of_iff (∃ x ∈ s.tasks.get? t, x.status = .running) (by simp [Running])

/-- Every dependency of `t` is an existing, completed task. -/
def Gated (s : ClusterState) (t : TaskId) : Prop :=
  ∀ x, s.tasks.get? t = some x → ∀ d ∈ x.dependsOn, s.Completed d

/-- The dependencies of every ready task are completed. -/
def ReadyGated (s : ClusterState) : Prop :=
  ∀ k x, s.tasks.get? k = some x → x.status = .ready → ∀ d ∈ x.dependsOn, s.Completed d

/-- No ready task depends on `t`. -/
def NoReadyDependent (s : ClusterState) (t : TaskId) : Prop :=
  ∀ k x, s.tasks.get? k = some x → x.status = .ready → t ∉ x.dependsOn

/-- The request moves `t` to running: it was not, or an accepted `advance` put it
back to ready and the scheduler took it again. -/
def MovesToRunning (r : TaskRouter) (req : Time × Request) (t : TaskId) : Prop :=
  Running (r.step req).state t ∧
    (¬ Running r.state t ∨ (req.2 = .advance t ∧ AdvanceAccepted r.state t))

/-- The requests that leave ready tasks gated: a completed task that would stop
being completed has no ready dependents, a ready task is given completed
dependencies only, and a released task has completed dependencies. -/
def GateSafe (r : TaskRouter) (req : Time × Request) : Prop :=
  match req.2 with
  | .submit token _ _ _ => r.state.Completed (generateId "task" token) →
      NoReadyDependent r.state (generateId "task" token)
  | .fail t _ => r.state.Completed t → NoReadyDependent r.state t
  | .advance t => AdvanceAccepted r.state t → r.state.Completed t →
      NoReadyDependent r.state t ∧ ∀ x, r.state.tasks.get? t = some x → t ∉ x.dependsOn
  | .dependencies t deps => ∀ x, r.state.tasks.get? t = some x → x.status = .ready →
      ∀ d ∈ deps, r.state.Completed d
  | .release t n _ => ReleaseAccepted r.state t n →
      (r.state.Completed t → NoReadyDependent r.state t) ∧
        ∀ x, r.state.tasks.get? t = some x → ∀ d ∈ x.dependsOn, d ≠ t ∧ r.state.Completed d
  | _ => True

/-! ### Updates of the table -/

/-- How an update of every task keeps ready tasks gated: a task ready after it was
ready before with the same dependencies, or has completed ones now; and no
dependency of a ready task stops being completed. -/
theorem ReadyGated.map {f : TaskId → Task → Task} (h : ReadyGated s)
    (hget : ∀ k, s'.tasks.get? k = (s.tasks.get? k).map (f k))
    (hready : ∀ k x, s.tasks.get? k = some x → (f k x).status = .ready →
      (x.status = .ready ∧ (f k x).dependsOn = x.dependsOn) ∨
        ∀ d ∈ (f k x).dependsOn, s'.Completed d)
    (hkeep : ∀ k x, s.tasks.get? k = some x → x.status = .ready →
      ∀ d ∈ x.dependsOn, s.Completed d → s'.Completed d) : ReadyGated s' := by
  intro k x' hx' hr d hd
  rw [hget, Option.map_eq_some_iff] at hx'
  obtain ⟨x, hx, rfl⟩ := hx'
  rcases hready k x hx hr with ⟨hxr, hdeps⟩ | hdone
  · rw [hdeps] at hd
    exact hkeep k x hx hxr d hd (h k x hx hxr d hd)
  · exact hdone d hd

/-- An update that completes nothing and uncompletes nothing. -/
theorem ReadyGated.map_of_completed {f : TaskId → Task → Task} (h : ReadyGated s)
    (hget : ∀ k, s'.tasks.get? k = (s.tasks.get? k).map (f k))
    (hc : ∀ d, s'.Completed d ↔ s.Completed d)
    (hready : ∀ k x, s.tasks.get? k = some x → (f k x).status = .ready →
      (x.status = .ready ∧ (f k x).dependsOn = x.dependsOn) ∨
        ∀ d ∈ (f k x).dependsOn, s.Completed d) : ReadyGated s' :=
  h.map hget (fun k x hx hr => (hready k x hx hr).imp_right fun hd d hm => (hc d).mpr (hd d hm))
    (fun _ _ _ _ d _ hd => (hc d).mpr hd)

/-- An update of one task, under the same two conditions. -/
theorem ReadyGated.map_one {f : Task → Task} (h : ReadyGated s)
    (hget : ∀ k, s'.tasks.get? k = if k = t then (s.tasks.get? k).map f else s.tasks.get? k)
    (hready : ∀ x, s.tasks.get? t = some x → (f x).status = .ready →
      (x.status = .ready ∧ (f x).dependsOn = x.dependsOn) ∨
        ∀ d ∈ (f x).dependsOn, s'.Completed d)
    (hkeep : ∀ k x, s.tasks.get? k = some x → x.status = .ready →
      ∀ d ∈ x.dependsOn, s.Completed d → s'.Completed d) : ReadyGated s' := by
  refine h.map (f := fun k x => if k = t then f x else x) (fun k => ?_) ?_ hkeep
  · rw [hget]
    by_cases hk : k = t <;> simp [hk]
  · intro k x hx hr
    by_cases hk : k = t
    · rw [if_pos hk] at hr ⊢
      exact hready x (hk ▸ hx) hr
    · rw [if_neg hk] at hr ⊢
      exact Or.inl ⟨hr, rfl⟩

/-- An update of one task, which stops being completed if it was. -/
theorem ReadyGated.update {f : Task → Task} (h : ReadyGated s)
    (hget : ∀ k, s'.tasks.get? k = if k = t then (s.tasks.get? k).map f else s.tasks.get? k)
    (hno : s.Completed t → NoReadyDependent s t)
    (hready : ∀ x, s.tasks.get? t = some x → (f x).status = .ready →
      (x.status = .ready ∧ (f x).dependsOn = x.dependsOn) ∨
        ∀ d ∈ (f x).dependsOn, s'.Completed d) : ReadyGated s' := by
  refine h.map_one hget hready ?_
  intro k x hx hr d hd hc
  have hne : d ≠ t := by
    rintro rfl
    exact hno hc k x hx hr hd
  exact (completed_update hget d hne).mpr hc

/-- An update of one task that neither completes it nor undoes its completion. -/
theorem ReadyGated.update_of_completed {f : Task → Task} (h : ReadyGated s)
    (hget : ∀ k, s'.tasks.get? k = if k = t then (s.tasks.get? k).map f else s.tasks.get? k)
    (hf : ∀ x, s.tasks.get? t = some x → ((f x).status = .completed ↔ x.status = .completed))
    (hready : ∀ x, s.tasks.get? t = some x → (f x).status = .ready →
      (x.status = .ready ∧ (f x).dependsOn = x.dependsOn) ∨
        ∀ d ∈ (f x).dependsOn, s.Completed d) : ReadyGated s' := by
  have hc := completed_congr_of_update hget hf
  refine h.map_one hget (fun x hx hr => ?_) fun _ _ _ _ d _ hd => (hc d).mpr hd
  exact (hready x hx hr).imp_right fun hd d hm => (hc d).mpr (hd d hm)

theorem ReadyGated.promoted (h : ReadyGated s) : ReadyGated (s.triggerPendingTasks now).2 := by
  refine h.map_of_completed (fun k => get?_triggerPendingTasks) completed_triggerPendingTasks ?_
  intro k x hx hr
  rw [promoted_status] at hr
  rw [promoted_dependsOn]
  split at hr
  · rename_i hp
    exact Or.inr (allDone_iff.mp hp.2)
  · exact Or.inl ⟨hr, rfl⟩

theorem ReadyGated.scheduled (h : ReadyGated s) : ReadyGated (s.schedulePending now).2 := by
  refine h.map_of_completed (fun k => get?_schedulePending) completed_schedulePending ?_
  intro k x hx hr
  rw [scheduled_status] at hr
  split at hr
  · cases hr
  · exact Or.inl ⟨hr, scheduled_dependsOn x⟩

theorem ReadyGated.downstream (h : ReadyGated s) (d : TaskId) :
    ReadyGated (downstream s now d) := by
  refine h.map_of_completed (fun k => get?_downstream) completed_downstream ?_
  intro k x hx hr
  unfold downstreamed at hr ⊢
  split at hr
  · rename_i hc
    rw [if_pos hc]
    exact Or.inr (allDone_iff.mp hc.2.2)
  · rename_i hc
    rw [if_neg hc]
    exact Or.inl ⟨hr, rfl⟩

theorem completed_blockDependents (d : TaskId) :
    ∀ e, ((s.getDependents d).foldl (blockDependent now) s).Completed e ↔ s.Completed e := by
  refine completed_congr_of_map (fun k => get?_blockDependents) (fun k x _ => ?_)
  unfold blockedBy
  split
  · rename_i h; simp [withStatus, h.2]
  · exact Iff.rfl

theorem ReadyGated.blockDependents (h : ReadyGated s) (d : TaskId) :
    ReadyGated ((s.getDependents d).foldl (blockDependent now) s) := by
  refine h.map_of_completed (fun k => get?_blockDependents) (completed_blockDependents d) ?_
  intro k x hx hr
  unfold blockedBy at hr ⊢
  split at hr
  · cases hr
  · rename_i hc
    rw [if_neg hc]
    exact Or.inl ⟨hr, rfl⟩

/-- Completing a task uncompletes none. -/
theorem ReadyGated.complete (h : ReadyGated s) (t : TaskId) :
    ReadyGated (s.setTaskStatus now t .completed) := by
  refine h.map_one (fun k => get?_setTaskStatus _ _) ?_ ?_
  · intro x _ hr
    cases hr
  · intro k x _ _ d _ hd
    by_cases hdt : d = t
    · obtain ⟨y, hy, -⟩ := hd
      exact ⟨_, by rw [get?_setTaskStatus, if_pos hdt, hy]; rfl, rfl⟩
    · exact (completed_update (fun k => get?_setTaskStatus _ _) d hdt).mpr hd

theorem ReadyGated.submit (h : ReadyGated s) {title : String} {requires : List Capability}
    {priority : Int} (hno : s.Completed t → NoReadyDependent s t) :
    ReadyGated (s.createTask now t title requires priority) := by
  intro k x hx hr d hd
  rw [get?_createTask] at hx
  by_cases hk : k = t
  · rw [if_pos hk] at hx
    obtain rfl := Option.some.inj hx
    cases hr
  · rw [if_neg hk] at hx
    have hdone := h k x hx hr d hd
    have hne : d ≠ t := by
      rintro rfl
      exact hno hdone k x hx hr hd
    rw [Completed, get?_createTask, if_neg hne]
    exact hdone

/-! ### One request -/

/-- A claimed task was ready and is running: neither is completed. -/
theorem claimed_completed_iff {n : NodeId} {x : Task} (hc : ClaimAccepted r.state t)
    (hx : r.state.tasks.get? t = some x) :
    (claimedBy now n (withStatus now .running "" x)).status = .completed ↔
      x.status = .completed := by
  obtain ⟨y, hy, hyr, -⟩ := hc
  rw [hy] at hx
  obtain rfl := Option.some.inj hx
  refine iff_of_false (fun h => ?_) (fun h => ?_)
  · cases h
  · rw [hyr] at h; cases h

theorem readyGated_completedState (h : ReadyGated r.state) :
    ReadyGated (completedState r now t) := by
  have hr : ReadyGated (r.revokeLeaseOf t).state := by
    intro k x hx hr d hd
    rw [tasks_revokeLeaseOf] at hx
    rw [Completed, tasks_revokeLeaseOf]
    exact h k x hx hr d hd
  exact (hr.complete t).downstream t

/-- An accepted `advance`, before its pass of the scheduler: the dependencies of the
task are completed, and the task, now ready, is none of them. -/
theorem readyGated_advanced (h : ReadyGated r.state) (ha : AdvanceAccepted r.state t)
    (hs : r.state.Completed t → NoReadyDependent r.state t ∧
      ∀ x, r.state.tasks.get? t = some x → t ∉ x.dependsOn) :
    ReadyGated (r.state.setTaskStatus now t .ready) := by
  refine h.update (fun k => get?_setTaskStatus _ _) (fun hc => (hs hc).1)
    fun x hx _ => Or.inr fun d hd => ?_
  obtain ⟨y, hy, hall⟩ := ha
  rw [hx] at hy
  obtain rfl := Option.some.inj hy
  have hdone := allDone_iff.mp hall d hd
  have hne : d ≠ t := by
    rintro rfl
    exact (hs hdone).2 x hx hd
  exact (completed_update (fun k => get?_setTaskStatus _ _) d hne).mpr hdone

/-- **Step lemma.** -/
theorem readyGated_step (h : ReadyGated r.state) (req : Time × Request) (hs : GateSafe r req) :
    ReadyGated (r.step req).state := by
  obtain ⟨now, req⟩ := req
  show ReadyGated (r.handle now req).2.state
  cases req with
  | submit token title requires priority =>
    exact (h.submit (t := generateId "task" token) hs).promoted
  | complete t =>
    rw [handle, completeTask_state]
    split
    · exact (readyGated_completedState h).scheduled
    · exact h
  | fail t reason =>
    rw [handle, failTask_state]
    split
    · have hf : ReadyGated (failedState r.state now t reason) :=
        h.update (fun k => get?_setTaskStatus _ _) hs fun x _ hr => by cases hr
      exact hf.blockDependents t
    · exact h
  | unblock t =>
    rw [handle, unblockTask_state]
    refine h.update_of_completed (f := fun x => if x.status = .blocked then unblocked now x else x)
      (fun k => get?_unblockTask) (fun x _ => ?_) (fun x _ hr => ?_)
    · by_cases hb : x.status = .blocked
      · simp [hb, unblocked]
      · rw [if_neg hb]
    · by_cases hb : x.status = .blocked
      · rw [if_pos hb] at hr; cases hr
      · rw [if_neg hb] at hr ⊢; exact Or.inl ⟨hr, rfl⟩
  | advance t =>
    rw [handle]
    by_cases ha : AdvanceAccepted r.state t
    · rw [manualAdvance_accepted now ha]
      exact (readyGated_advanced h ha (hs ha)).scheduled
    · rw [manualAdvance_refused ha]; exact h
  | dependencies t deps =>
    rw [handle, setDependencies_state]
    exact h.update_of_completed (fun k => get?_setDependencies deps) (fun x _ => Iff.rfl)
      (fun x hx hr => Or.inr (hs x hx hr))
  | claim token t n =>
    rw [handle]
    by_cases hc : ClaimAccepted r.state t
    · exact h.update_of_completed (fun k => get?_claimTask hc token n)
        (fun x hx => claimed_completed_iff hc hx) fun x _ hr => by cases hr
    · rw [claimTask_refused hc]; exact h
  | release t n reason =>
    rw [handle]
    by_cases ha : ReleaseAccepted r.state t n
    · rw [releaseTask_accepted now ha]
      refine h.update (fun k => get?_releasedState reason) (hs ha).1
        fun x hx _ => Or.inr fun d hd => ?_
      obtain ⟨hne, hdone⟩ := (hs ha).2 x hx d hd
      exact (completed_update (fun k => get?_releasedState reason) d hne).mpr hdone
    · rw [releaseTask_refused ha]; exact h
  | trigger => exact ReadyGated.scheduled (ReadyGated.promoted h)

/-- What a pass of the scheduler moves to running was ready. -/
theorem gated_of_scheduled (h : ReadyGated s) (hrun : Running (s.schedulePending now).2 t) :
    Running s t ∨ Gated (s.schedulePending now).2 t := by
  obtain ⟨x', hx', hst⟩ := hrun
  have hx'' := hx'
  rw [get?_schedulePending, Option.map_eq_some_iff] at hx''
  obtain ⟨x, hx, rfl⟩ := hx''
  by_cases hr : x.status = .ready
  · refine Or.inr fun y hy d hd => ?_
    rw [hx'] at hy
    obtain rfl := Option.some.inj hy
    rw [scheduled_dependsOn] at hd
    exact (completed_schedulePending d).mpr (h t x hx hr d hd)
  · rw [scheduled_of_not_ready hr] at hst
    exact Or.inl ⟨x, hx, hst⟩

/-- An update of one task makes no other task running. -/
theorem running_of_update {f : Task → Task}
    (hget : ∀ k, s'.tasks.get? k = if k = t then (s.tasks.get? k).map f else s.tasks.get? k)
    (hf : ∀ x, (f x).status = .running → x.status = .running) (h : Running s' k) :
    Running s k := by
  obtain ⟨x', hx', hr⟩ := h
  rw [hget] at hx'
  by_cases hk : k = t
  · rw [if_pos hk, Option.map_eq_some_iff] at hx'
    obtain ⟨x, hx, rfl⟩ := hx'
    exact ⟨x, hx, hf x hr⟩
  · rw [if_neg hk] at hx'
    exact ⟨x', hx', hr⟩

theorem running_of_map {f : Task → Task} (hget : s'.tasks.get? k = (s.tasks.get? k).map f)
    (hf : ∀ x, (f x).status = .running → x.status = .running) (h : Running s' k) :
    Running s k := by
  obtain ⟨x', hx', hr⟩ := h
  rw [hget, Option.map_eq_some_iff] at hx'
  obtain ⟨x, hx, rfl⟩ := hx'
  exact ⟨x, hx, hf x hr⟩

theorem running_of_promoted (h : Running (s.triggerPendingTasks now).2 k) : Running s k := by
  refine running_of_map get?_triggerPendingTasks (fun x hr => ?_) h
  rw [promoted_status] at hr
  split at hr
  · cases hr
  · exact hr

theorem running_of_submit {title : String} {requires : List Capability} {priority : Int}
    (h : Running (s.createTask now t title requires priority) k) : Running s k := by
  obtain ⟨x, hx, hr⟩ := h
  rw [get?_createTask] at hx
  by_cases hk : k = t
  · rw [if_pos hk] at hx
    obtain rfl := Option.some.inj hx
    cases hr
  · rw [if_neg hk] at hx
    exact ⟨x, hx, hr⟩

theorem running_of_completedState (h : Running (completedState r now t) k) :
    Running r.state k := by
  have hset : Running ((r.revokeLeaseOf t).state.setTaskStatus now t .completed) k := by
    refine running_of_map get?_downstream (fun x hr => ?_) h
    unfold downstreamed at hr
    split at hr
    · cases hr
    · exact hr
  obtain ⟨x, hx, hr⟩ :=
    running_of_update (fun k => get?_setTaskStatus _ _) (fun x hr => by cases hr) hset
  exact ⟨x, by rwa [tasks_revokeLeaseOf] at hx, hr⟩

theorem running_of_failed {reason : Option String}
    (h : Running (((failedState s now t reason).getDependents t).foldl (blockDependent now)
      (failedState s now t reason)) k) : Running s k := by
  refine running_of_update (fun k => get?_setTaskStatus _ _) (fun x hr => by cases hr)
    (running_of_map get?_blockDependents (fun x hr => ?_) h)
  unfold blockedBy at hr
  split at hr
  · cases hr
  · exact hr

/-- An advanced task is ready, and what runs then is gated or ran before. -/
theorem gated_or_running_advance {d : TaskId} (h : ReadyGated r.state)
    (hs : GateSafe r (now, .advance d)) (hrun : Running (r.manualAdvance now d).2.state t) :
    Gated (r.manualAdvance now d).2.state t ∨
      (Running r.state t ∧ ¬ (d = t ∧ AdvanceAccepted r.state t)) := by
  by_cases ha : AdvanceAccepted r.state d
  · rw [manualAdvance_accepted now ha] at hrun ⊢
    rcases gated_of_scheduled (readyGated_advanced h ha (hs ha)) hrun with hr | hg
    · refine Or.inr ⟨running_of_update (fun k => get?_setTaskStatus _ _)
        (fun x hx => by cases hx) hr, ?_⟩
      -- `d` itself is ready, so the running task is another one
      rintro ⟨rfl, -⟩
      obtain ⟨x, hx, hst⟩ := hr
      rw [get?_setTaskStatus, if_pos rfl, Option.map_eq_some_iff] at hx
      obtain ⟨y, -, rfl⟩ := hx
      cases hst
    · exact Or.inl hg
  · rw [manualAdvance_refused ha] at hrun
    refine Or.inr ⟨hrun, ?_⟩
    rintro ⟨rfl, hacc⟩
    exact ha hacc

/-- A claimed task was ready, hence gated, and a claim completes nothing. -/
theorem gated_or_running_claim {d : TaskId} (h : ReadyGated r.state) (token : String) (n : NodeId)
    (hrun : Running (r.claimTask now token d n).2.state t) :
    Gated (r.claimTask now token d n).2.state t ∨ Running r.state t := by
  by_cases hc : ClaimAccepted r.state d
  · by_cases htd : t = d
    · subst htd
      have hcomp : ∀ e, (r.claimTask now token t n).2.state.Completed e ↔ r.state.Completed e :=
        completed_congr_of_update (fun k => get?_claimTask hc token n)
          (fun x hx => claimed_completed_iff hc hx)
      refine Or.inl fun x hx e he => (hcomp e).mpr ?_
      rw [get?_claimTask hc, if_pos rfl, Option.map_eq_some_iff] at hx
      obtain ⟨y, hy, rfl⟩ := hx
      obtain ⟨z, hz, hzr, -⟩ := hc
      rw [hz] at hy
      obtain rfl := Option.some.inj hy
      exact h t z hz hzr e he
    · obtain ⟨x, hx, hr⟩ := hrun
      rw [get?_claimTask hc, if_neg htd] at hx
      exact Or.inr ⟨x, hx, hr⟩
  · rw [claimTask_refused hc] at hrun
    exact Or.inr hrun

/-- A task running after a request other than an advance is gated, or was running before. -/
theorem gated_or_ran (h : ReadyGated r.state) {req : Request} (hne : ∀ d, req ≠ .advance d)
    (hrun : Running (r.handle now req).2.state t) :
    Gated (r.handle now req).2.state t ∨ Running r.state t := by
  cases req with
  | submit token title requires priority =>
    exact Or.inr (running_of_submit (running_of_promoted hrun))
  | complete d =>
    rw [handle, completeTask_state] at hrun ⊢
    split at hrun
    · rename_i hd
      rw [if_pos hd]
      rcases gated_of_scheduled (readyGated_completedState h) hrun with hr | hg
      · exact Or.inr (running_of_completedState hr)
      · exact Or.inl hg
    · exact Or.inr hrun
  | fail d reason =>
    rw [handle, failTask_state] at hrun
    split at hrun
    · exact Or.inr (running_of_failed hrun)
    · exact Or.inr hrun
  | unblock d =>
    rw [handle, unblockTask_state] at hrun
    refine Or.inr (running_of_update (fun k => get?_unblockTask) (fun x hr => ?_) hrun)
    split at hr
    · cases hr
    · exact hr
  | advance d => exact absurd rfl (hne d)
  | dependencies d deps =>
    rw [handle, setDependencies_state] at hrun
    exact Or.inr (running_of_update (fun k => get?_setDependencies deps) (fun x hr => hr) hrun)
  | claim token d n => exact gated_or_running_claim h token n hrun
  | release d n reason =>
    rw [handle] at hrun
    by_cases ha : ReleaseAccepted r.state d n
    · rw [releaseTask_accepted now ha] at hrun
      exact Or.inr (running_of_update (fun k => get?_releasedState reason)
        (fun x hr => by cases hr) hrun)
    · rw [releaseTask_refused ha] at hrun
      exact Or.inr hrun
  | trigger =>
    rcases gated_of_scheduled h.promoted hrun with hr | hg
    · exact Or.inr (running_of_promoted hr)
    · exact Or.inl hg

/-- **How a task gets to run.**  A task running after a request is gated, or was
running before and was not advanced. -/
theorem gated_or_running (h : ReadyGated r.state) (req : Time × Request) (hs : GateSafe r req)
    (hrun : Running (r.step req).state t) : Gated (r.step req).state t ∨
      (Running r.state t ∧ ¬ (req.2 = .advance t ∧ AdvanceAccepted r.state t)) := by
  obtain ⟨now, req⟩ := req
  change Running (r.handle now req).2.state t at hrun
  show Gated (r.handle now req).2.state t ∨ _
  by_cases hadv : ∃ d, req = .advance d
  · obtain ⟨d, rfl⟩ := hadv
    rcases gated_or_running_advance h hs hrun with hg | ⟨hr, hd⟩
    · exact Or.inl hg
    · refine Or.inr ⟨hr, fun hacc => hd ⟨?_, hacc.2⟩⟩
      cases hacc.1
      rfl
  · rcases gated_or_ran h (fun d hd => hadv ⟨d, hd⟩) hrun with hg | hr
    · exact Or.inl hg
    · exact Or.inr ⟨hr, fun hacc => hadv ⟨t, hacc.1⟩⟩

/-- **What is moved to running is gated.** -/
theorem gated_of_moves (h : ReadyGated r.state) (req : Time × Request) (hs : GateSafe r req)
    (hm : MovesToRunning r req t) : Gated (r.step req).state t := by
  obtain ⟨hrun, hmove⟩ := hm
  rcases gated_or_running h req hs hrun with hg | ⟨hr, hadv⟩
  · exact hg
  · exact absurd hmove (fun hor => hor.elim (fun hn => hn hr) hadv)

/-! ### Runs -/

/-- **Dependency gating.**  Over a fresh store with any nodes, along every run of safe
requests: whenever a request moves a task to running, every dependency of that task is
an existing, completed task. -/
theorem running_only_when_gated (nodes : Table Node) (run : List (Time × Request))
    (hsafe : EachStep step GateSafe (initWith nodes) run) :
    EachStep step (fun r req => ∀ t, MovesToRunning r req t → Gated (r.step req).state t)
      (initWith nodes) run := by
  refine eachStep_of_eachStep (I := fun r => ReadyGated r.state) (C := GateSafe)
    (fun r req h hs => readyGated_step h req hs)
    (fun r req h hs t hm => gated_of_moves h req hs hm) run _ ?_ hsafe
  intro k x hx
  cases hx

/-- A safe run: the dependency is completed before it is declared. -/
theorem running_only_when_gated_example :
    Gated (exec step (initWith oneNode) [(1, .submit "a" "build" [] 3), (2, .complete "task_a"),
      (3, .submit "b" "deploy" [] 3), (4, .dependencies "task_b" ["task_a"]),
      (5, .trigger)]).state "task_b" := by
  refine running_only_when_gated oneNode [(1, .submit "a" "build" [] 3),
    (2, .complete "task_a"), (3, .submit "b" "deploy" [] 3),
    (4, .dependencies "task_b" ["task_a"]), (5, .trigger)] ?_
    [(1, .submit "a" "build" [] 3), (2, .complete "task_a"), (3, .submit "b" "deploy" [] 3),
      (4, .dependencies "task_b" ["task_a"])] (5, .trigger) (List.prefix_refl _) "task_b"
    ⟨by decide, Or.inl (by decide)⟩
  simp only [eachStep_cons]
  refine ⟨fun h => absurd h (by decide), trivial, fun h => absurd h (by decide), ?_, trivial,
    eachStep_nil _⟩
  intro x _ _ d hd
  rw [List.mem_singleton.mp hd]
  decide

/-- A ready task is given an unfinished dependency, and the scheduler runs it. -/
theorem ungated_run :
    let r := exec step (initWith oneNode) [(1, .submit "a" "build" [] 3),
      (2, .submit "b" "deploy" [] 3), (3, .dependencies "task_b" ["task_a"])]
    MovesToRunning r (4, .trigger) "task_b" ∧
      ¬ Gated (r.step (4, .trigger)).state "task_b" := by
  refine ⟨⟨by decide, Or.inl (by decide)⟩, fun h => ?_⟩
  exact absurd (h _ rfl "task_a" (by decide)) (by decide)

end HermesCluster.TaskRouter
