import HermesCluster.Agreement.Matched

/-!
# Requests and the two tables

Each request that is `RequestSafe` keeps `Matched`: one lemma a handler, and
`Matched.request` for all of them.
-/

namespace HermesCluster

open ClusterState TaskRouter

namespace Matched

variable {r : TaskRouter} {now : Time} {t : TaskId} {n : NodeId}

theorem submit (h : Matched r) (token title : String) (requires : List Capability)
    (priority : Int) (hs : r.state.tasks.get? (generateId "task" token) = none) :
    Matched (r.submitTask now token title requires priority).2 := by
  set t := generateId "task" token with ht
  have hframe : SameButTasks r.state (r.submitTask now token title requires priority).2.state :=
    sameButTasks_submitTask token title requires priority
  refine h.of_tasks h.manager hframe.leases hframe.taskLeaseIndex (fun k n => ?_)
    (unnamed_handle h.taskIds (.submit token title requires priority))
  rw [submitTask_state, runsOn_promoted]
  by_cases hk : k = t
  · -- the new task is pending, and there was none before
    refine iff_of_false ?_ ?_
    · rintro ⟨x, hx, hp⟩
      rw [submitted, get?_createTask, if_pos hk] at hx
      obtain rfl := Option.some.inj hx
      cases hp
    · rintro ⟨x, hx, -⟩
      rw [hk, hs] at hx
      cases hx
  · exact runsOn_congr (by rw [submitted, get?_createTask, if_neg hk])

theorem completed_complete {d : TaskId}
    (hd : ((r.revokeLeaseOf t).state.setTaskStatus now t .completed).Completed d) :
    d = t ∨ r.state.Completed d := by
  by_cases hdt : d = t
  · exact Or.inl hdt
  · rw [completed_update (fun k => get?_setTaskStatus _ _) d hdt, Completed,
      tasks_revokeLeaseOf] at hd
    exact Or.inr hd

theorem nothingToSchedule_complete (hx : (r.state.tasks.get? t).isSome)
    (hs : RequestSafe r now (.complete t)) : NothingToSchedule (completedState r now t) := by
  intro k x' hx' hr
  have hnodes : (completedState r now t).nodes = r.state.nodes :=
    sameButTasks_downstream.nodes.trans (nodes_revokeLeaseOf t)
  rw [firstFit_congr hnodes]
  rw [completedState, get?_downstream] at hx'
  obtain ⟨x₁, hx₁, rfl⟩ := Option.map_eq_some_iff.mp hx'
  rw [get?_setTaskStatus, tasks_revokeLeaseOf] at hx₁
  by_cases hk : k = t
  · -- `t` itself is completed
    rw [if_pos hk] at hx₁
    obtain ⟨y, -, rfl⟩ := Option.map_eq_some_iff.mp hx₁
    unfold downstreamed at hr
    split at hr
    · rename_i hc
      cases hc.2.1
    · cases hr
  · rw [if_neg hk] at hx₁
    unfold downstreamed at hr ⊢
    split at hr
    · rename_i hc
      rw [if_pos hc]
      exact hs hx k x₁ hx₁ hk (Or.inr ⟨hc.2.1, hc.1, fun d hd =>
        completed_complete (allDone_iff.mp hc.2.2 d hd)⟩)
    · rename_i hc
      rw [if_neg hc]
      exact hs hx k x₁ hx₁ hk (Or.inl hr)

theorem complete (h : Matched r) (hs : RequestSafe r now (.complete t)) :
    Matched (r.completeTask now t).2 := by
  have hm : (r.completeTask now t).2.leaseManager.isSome :=
    (leaseManager_handle (.complete t)).trans h.manager
  have hid : (r.completeTask now t).2.state.tasks.get? "" = none :=
    unnamed_handle h.taskIds (.complete t)
  have hstate := completeTask_state r now t
  by_cases hx : (r.state.tasks.get? t).isSome
  · have hframe := sameButTasks_completeTask now hx
    rw [if_pos hx] at hstate
    obtain ⟨x, hget⟩ := Option.isSome_iff_exists.mp hx
    refine h.of_ended (h.ne_of_get? hget) hm hframe.leases hframe.taskLeaseIndex (fun k n => ?_) hid
    rw [hstate, runsOn_scheduled (nothingToSchedule_complete hx hs), completedState,
      runsOn_downstream, runsOn_stopped (fun k => get?_setTaskStatus _ _) (fun x => by
        simp [withStatus]), RunsOn, RunsOn, tasks_revokeLeaseOf]
  · rw [if_neg hx] at hstate
    exact h.of_tasks hm (by rw [hstate]) (by rw [hstate]) (fun k n => by rw [hstate]) hid

theorem fail (h : Matched r) (reason : Option String) (hs : RequestSafe r now (.fail t reason)) :
    Matched (r.failTask now t reason).2 := by
  have hm : (r.failTask now t reason).2.leaseManager.isSome :=
    (leaseManager_handle (.fail t reason)).trans h.manager
  have hframe := sameButTasks_failTask r now t reason
  refine h.of_tasks hm hframe.leases hframe.taskLeaseIndex (fun k n => ?_)
    (unnamed_handle h.taskIds (.fail t reason))
  rw [failTask_state]
  by_cases hx : (r.state.tasks.get? t).isSome
  · rw [if_pos hx, runsOn_blockDependents, failedState,
      runsOn_stopped (fun k => get?_setTaskStatus _ _) (fun x => by simp [withStatus])]
    refine ⟨fun hr => hr.2, fun hr => ⟨?_, hr⟩⟩
    rintro rfl
    exact hs n hr
  · rw [if_neg hx]

theorem unblock (h : Matched r) (t : TaskId) : Matched (r.unblockTask now t).2 := by
  have hm : (r.unblockTask now t).2.leaseManager.isSome :=
    (leaseManager_handle (.unblock t)).trans h.manager
  have hframe := sameButTasks_unblockTask r.state now t
  have hstate := unblockTask_state r now t
  refine h.of_tasks hm (by rw [hstate]; exact hframe.leases)
    (by rw [hstate]; exact hframe.taskLeaseIndex) (fun k n => ?_)
    (unnamed_handle h.taskIds (.unblock t))
  rw [hstate]
  refine runsOn_update (fun k => get?_unblockTask) fun x _ => ?_
  by_cases hb : x.status = .blocked
  · rw [if_pos hb]
    exact Or.inr ⟨by simp [unblocked], by rw [hb]; decide⟩
  · rw [if_neg hb]
    exact Or.inl rfl

theorem dependencies (h : Matched r) (t : TaskId) (deps : List TaskId) :
    Matched (r.setDependencies now t deps).2 := by
  have hm : (r.setDependencies now t deps).2.leaseManager.isSome :=
    (leaseManager_handle (.dependencies t deps)).trans h.manager
  have hstate := setDependencies_state r now t deps
  refine h.of_tasks hm (by rw [hstate]; rfl) (by rw [hstate]; rfl) (fun k n => ?_)
    (unnamed_handle h.taskIds (.dependencies t deps))
  rw [hstate]
  exact runsOn_update (fun k => get?_setDependencies deps) fun x _ => Or.inl rfl

/-- An advanced task runs where the scheduler puts it, and the others stay. -/
theorem runsOn_advanced {k : TaskId} (ha : AdvanceAccepted r.state t)
    (hs : RequestSafe r now (.advance t)) :
    RunsOn ((r.state.setTaskStatus now t .ready).schedulePending now).2 k n ↔
      RunsOn r.state k n := by
  set s₁ := r.state.setTaskStatus now t .ready with hs₁
  by_cases hk : k = t
  · subst hk
    obtain ⟨x, hx, -⟩ := id ha
    have hx₁ : s₁.tasks.get? k = some (withStatus now .ready "" x) := by
      rw [hs₁, get?_setTaskStatus, if_pos rfl, hx]; rfl
    have hx₂ : (s₁.schedulePending now).2.tasks.get? k =
        some (s₁.scheduled now (withStatus now .ready "" x)) := by
      rw [get?_schedulePending, hx₁]; rfl
    rw [runsOn_iff_of_get? hx₂, scheduled_placement, scheduledPlacement_eq_running,
      (hs ha).2 n, hx]
    refine ⟨?_, ?_⟩
    · rintro (hp | ⟨-, hf⟩)
      · cases hp
      · exact ⟨x, rfl, hf⟩
    · rintro ⟨y, hy, hf⟩
      obtain rfl := Option.some.inj hy
      exact Or.inr ⟨rfl, hf⟩
  · have hsame : s₁.tasks.get? k = r.state.tasks.get? k := by
      rw [hs₁, get?_setTaskStatus, if_neg hk]
    refine (runsOn_map get?_schedulePending fun x hx => Or.inl ?_).trans (runsOn_congr hsame)
    by_cases hr : x.status = .ready
    · have hnone : s₁.firstFit x.requires = none := (hs ha).1 k x (hsame ▸ hx) hk hr
      rw [scheduled_of_noFit hnone]
    · rw [scheduled_of_not_ready hr]

theorem advance (h : Matched r) (hs : RequestSafe r now (.advance t)) :
    Matched (r.manualAdvance now t).2 := by
  by_cases ha : AdvanceAccepted r.state t
  · have hm : (r.manualAdvance now t).2.leaseManager.isSome :=
      (leaseManager_handle (.advance t)).trans h.manager
    have hframe := sameButTasks_manualAdvance r now t
    refine h.of_tasks hm hframe.leases hframe.taskLeaseIndex (fun k n => ?_)
      (unnamed_handle h.taskIds (.advance t))
    rw [manualAdvance_accepted now ha, runsOn_advanced ha hs]
  · rw [manualAdvance_refused ha]; exact h

theorem trigger (h : Matched r) (hs : RequestSafe r now .trigger) :
    Matched (r.scheduleTrigger now).2 := by
  have hframe : SameButTasks r.state (r.scheduleTrigger now).2.state :=
    sameButTasks_scheduleTrigger
  have hnothing : NothingToSchedule (r.state.triggerPendingTasks now).2 := by
    intro k x' hx' hr
    rw [sameButTasks_triggerPendingTasks.firstFit]
    rw [get?_triggerPendingTasks] at hx'
    obtain ⟨x, hx, rfl⟩ := Option.map_eq_some_iff.mp hx'
    rw [promoted_requires]
    refine hs k x hx ?_
    rw [promoted_status] at hr
    split at hr
    · rename_i hp
      exact Or.inr ⟨hp.1, allDone_iff.mp hp.2⟩
    · exact Or.inl hr
  refine h.of_tasks h.manager hframe.leases hframe.taskLeaseIndex (fun k n => ?_)
    (unnamed_handle h.taskIds .trigger)
  rw [scheduleTrigger_state, runsOn_scheduled hnothing, runsOn_promoted]

theorem release (h : Matched r) (reason : Option String) :
    Matched (r.releaseTask now t n reason).2 := by
  by_cases ha : ReleaseAccepted r.state t n
  · have hm : (r.releaseTask now t n reason).2.leaseManager.isSome :=
      (leaseManager_handle (.release t n reason)).trans h.manager
    have hstate := releaseTask_accepted now ha reason
    obtain ⟨x, hx, -⟩ := ha
    refine h.of_ended (h.ne_of_get? hx) hm (by rw [hstate]; rfl) (by rw [hstate]; rfl)
      (fun k n => ?_) (unnamed_handle h.taskIds (.release t n reason))
    rw [hstate]
    exact runsOn_stopped (fun k => get?_releasedState reason) (fun x => by
      simp [releasedFor, withStatus])
  · rw [releaseTask_refused ha]; exact h

/-! ### Claims -/

/-- A granted claim: the task is running, and the store has a new active lease. -/
theorem claimTask_granted (token : String) {m : LeaseManager} (hc : ClaimAccepted r.state t)
    (hm : r.leaseManager = some m) (ht : t ≠ "") (hn : n ≠ "") {e : Time}
    (he : addTtl now m.config.ttl = .ok e) :
    (r.claimTask now token t n).2.state =
      let lease : Lease := ⟨generateId "lease" token, t, n, now, e, .active⟩
      { claimedState r.state now t n with
        leases := r.state.leases.put lease
        taskLeaseIndex := r.state.taskLeaseIndex.put ⟨t, lease.id⟩ } := by
  have hcreate : LeaseStore.createLease (claimedState r.state now t n) now token t n
      (m.effectiveTtl none) = _ := createLease_of_ttl he
  rw [claimTask_accepted hc, hm]
  simp only [LeaseManager.create, if_neg ht, if_neg hn, hcreate]
  rfl

/-- After an accepted claim the task runs on the node that claimed it. -/
theorem runsOn_claimTask (hc : ClaimAccepted r.state t) (token : String) {j : NodeId} :
    RunsOn (r.claimTask now token t n).2.state k j ↔
      (k = t ∧ j = n) ∨ (k ≠ t ∧ RunsOn r.state k j) := by
  by_cases hk : k = t
  · subst hk
    obtain ⟨x, hx, -⟩ := id hc
    have hx' : (r.claimTask now token k n).2.state.tasks.get? k =
        some (claimedBy now n (withStatus now .running "" x)) := by
      rw [get?_claimTask hc, if_pos rfl, hx]; rfl
    rw [runsOn_iff_of_get? hx']
    refine ⟨?_, ?_⟩
    · intro hp
      have hj : some n = some j := congrArg Prod.snd hp
      exact Or.inl ⟨rfl, (Option.some.inj hj).symm⟩
    · rintro (⟨-, rfl⟩ | ⟨hne, -⟩)
      · rfl
      · exact absurd rfl hne
  · have hsame : RunsOn (r.claimTask now token t n).2.state k j ↔ RunsOn r.state k j :=
      runsOn_congr (by rw [get?_claimTask hc, if_neg hk])
    rw [hsame]
    simp only [hk, false_and, false_or, ne_eq, not_false_eq_true, true_and]

theorem claim (h : Matched r) (token : String) (hs : RequestSafe r now (.claim token t n)) :
    Matched (r.claimTask now token t n).2 := by
  by_cases hc : ClaimAccepted r.state t
  · obtain ⟨hn, hok, hfresh⟩ := hs hc
    obtain ⟨m, hm⟩ := Option.isSome_iff_exists.mp h.manager
    obtain ⟨e, he⟩ : ∃ e, addTtl now m.config.ttl = .ok e := by
      have := hok m hm
      cases ha : addTtl now m.config.ttl with
      | error e => rw [ha] at this; cases this
      | ok e => exact ⟨e, rfl⟩
    obtain ⟨x, hx, hready, -⟩ := id hc
    have hstate := claimTask_granted token hc hm (h.ne_of_get? hx) hn he
    -- the claimed task was ready, so it had no active lease
    have hfree : ∀ k j, ¬ ActiveLease r.state k t j := by
      intro k j hk
      have hrun := (h.runs t j).mpr ⟨k, hk⟩
      rw [runsOn_iff_of_get? hx] at hrun
      exact not_runsOn_placement (by rw [hready]; decide) hrun
    refine h.of_started (l := ⟨generateId "lease" token, t, n, now, e, .active⟩)
      (generateId_ne_empty "lease" token) hfresh rfl hfree
      ((leaseManager_handle (.claim token t n)).trans h.manager) (fun k => ?_) (fun k => ?_)
      (fun k j => runsOn_claimTask hc token)
      (unnamed_handle h.taskIds (.claim token t n))
    · rw [hstate]; exact Table.get?_put _ _ _
    · rw [hstate]; exact Table.get?_put _ _ _
  · rw [claimTask_refused hc]; exact h

/-- **Requests.**  A safe request keeps the two tables together. -/
theorem request (h : Matched r) (req : Request) (hs : RequestSafe r now req) :
    Matched (r.handle now req).2 := by
  cases req with
  | submit token title requires priority => exact h.submit token title requires priority hs
  | complete t => exact h.complete hs
  | fail t reason => exact h.fail reason hs
  | unblock t => exact h.unblock t
  | advance t => exact h.advance hs
  | dependencies t deps => exact h.dependencies t deps
  | claim token t n => exact h.claim token hs
  | release t n reason => exact h.release reason
  | trigger => exact h.trigger hs

end Matched

end HermesCluster
