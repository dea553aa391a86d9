import HermesCluster.Agreement.Requests

/-!
# Recovery and finished tasks

`trigger_recovery` reschedules every task with a live lease on the node, whatever the
task's status (`finishedKept_iff`).  So a finished task is safe exactly when it has no
lease left to find.

`complete` and `release` revoke the lease of their task; `fail` does not.
`finished_work_kept`: in a run whose `fail` requests hit tasks without an active lease,
every active lease belongs to an assigned, unfinished task (`LeasesHeld`), and recovery
leaves finished tasks where they are.
-/

namespace HermesCluster

open ClusterState TaskRouter Run

/-- Completed or failed. -/
def Task.Finished (x : Task) : Prop := x.status = .completed ∨ x.status = .failed

/-- Assigned, and neither completed nor failed. -/
def Task.Held (x : Task) : Prop := x.assignedTo ≠ none ∧ ¬ x.Finished

instance (x : Task) : Decidable x.Finished := by unfold Task.Finished; infer_instance

/-- From `s` to `s'` the finished tasks keep their status and their assignee. -/
def FinishedKept (s s' : ClusterState) : Prop :=
  ∀ t x, s.tasks.get? t = some x → x.Finished →
    ∃ x', s'.tasks.get? t = some x' ∧ x'.placement = x.placement

namespace ClusterState

variable {s : ClusterState} {now : Time} {n : NodeId}

/-- **One recovery.**  The finished tasks stay exactly when those with a live lease on the
node are already where rescheduling would put them. -/
theorem finishedKept_iff (m : RecoveryManager) (s : ClusterState) (now : Time) (n : NodeId) :
    FinishedKept s (m.triggerRecovery s now n).2.2 ↔
      ∀ t x, s.tasks.get? t = some x → x.Finished → Orphan s now (· = n) t →
        s.settledPlacement x.requires = x.placement := by
  have h := (recovered_triggerRecovery m s now n).tasks
  refine ⟨?_, ?_⟩
  · intro hkept t x hx hfin ho
    obtain ⟨x', hx', hp⟩ := hkept t x hx hfin
    obtain ⟨y, hy, -, hpy⟩ := h.present t x hx
    rw [hx'] at hy
    obtain rfl := Option.some.inj hy
    rw [← hp, hpy, afterReschedule_of_mem ho]
  · intro hset t x hx hfin
    obtain ⟨x', hx', -, hp⟩ := h.present t x hx
    refine ⟨x', hx', hp.trans ?_⟩
    by_cases ho : Orphan s now (· = n) t
    · rw [afterReschedule_of_mem ho, hset t x hx hfin ho]
    · by_cases he : ∃ j, Orphan s now (· = n) j
      · obtain ⟨j, hj⟩ := he
        have hnr : x.placement.1 ≠ .ready := by
          intro hr
          rcases hfin with hc | hf
          · exact absurd (hc.symm.trans hr) (by decide)
          · exact absurd (hf.symm.trans hr) (by decide)
        rw [afterReschedule_of_not_mem ho hj, scheduledPlacement_of_not_ready hnr]
      · rw [afterReschedule_of_empty he]

end ClusterState

/-! ### The invariant -/

/-- Every active lease belongs to an assigned, unfinished task. -/
structure LeasesHeld (r : TaskRouter) : Prop where
  leasesOk : LeasesOk r
  taskIds : r.state.tasks.get? "" = none
  held : ∀ k t n, ActiveLease r.state k t n → ∃ x, r.state.tasks.get? t = some x ∧ x.Held

/-- The requests that keep every active lease with an assigned, unfinished task: `submit`
and `claim` draw new ids, and a failed task has no active lease. -/
def KeepsLeases (r : TaskRouter) (req : Time × Request) : Prop :=
  match req.2 with
  | .submit token _ _ _ => r.state.tasks.get? (generateId "task" token) = none
  | .claim token t _ =>
    ClaimAccepted r.state t → r.state.leases.get? (generateId "lease" token) = none
  | .fail t _ => ∀ k n, ¬ ActiveLease r.state k t n
  | _ => True

namespace LeasesHeld

variable {r r' : TaskRouter} {now : Time} {t : TaskId} {n : NodeId}

theorem ne_of_get? (h : LeasesHeld r) {x : Task} (hx : r.state.tasks.get? t = some x) : t ≠ "" := by
  intro ht
  rw [ht, h.taskIds] at hx
  cases hx

/-- A recovery finds no finished task. -/
theorem finishedKept (h : LeasesHeld r) (m : RecoveryManager) (now : Time) (n : NodeId) :
    FinishedKept r.state (m.triggerRecovery r.state now n).2.2 := by
  rw [finishedKept_iff]
  intro t x hx hfin ho
  obtain ⟨⟨l, hl, hlive, -, hlt⟩, -⟩ := ho
  have hact : ActiveLease r.state l.id t l.nodeId :=
    ⟨l, Table.get?_of_mem hl, (Lease.live_iff.mp hlive).1, hlt, rfl⟩
  obtain ⟨y, hy, hheld⟩ := h.held l.id t l.nodeId hact
  rw [hx] at hy
  obtain rfl := Option.some.inj hy
  exact absurd hfin hheld.2

/-! ### What the updates of a request do to a held task -/

section Held

variable {s : ClusterState} {x : Task}

theorem held_promoted (h : x.Held) : (s.promoted now x).Held := by
  refine ⟨by rw [promoted_assignedTo]; exact h.1, ?_⟩
  rw [Task.Finished, promoted_status]
  split
  · intro hf
    rcases hf with hf | hf <;> cases hf
  · exact h.2

theorem held_scheduled (h : x.Held) : (s.scheduled now x).Held := by
  by_cases hr : x.status = .ready
  · cases hf : s.firstFit x.requires with
    | none => rw [scheduled_of_noFit hf]; exact h
    | some node =>
      rw [scheduled_of_fit hr hf]
      refine ⟨Option.some_ne_none _, ?_⟩
      intro hfin
      rcases hfin with hfin | hfin <;> cases hfin
  · rw [scheduled_of_not_ready hr]
    exact h

/-- A status that is not a final one keeps the task held. -/
theorem held_withStatus (status : TaskStatus) (reason : String) (hc : status ≠ .completed)
    (hf : status ≠ .failed) (h : x.Held) : (ClusterState.withStatus now status reason x).Held := by
  refine ⟨h.1, ?_⟩
  intro hfin
  rcases hfin with hfin | hfin
  · exact hc hfin
  · exact hf hfin

theorem held_downstreamed (h : x.Held) : (downstreamed s now t x).Held := by
  rw [downstreamed]
  split
  · exact held_withStatus .ready "" (by decide) (by decide) h
  · exact h

theorem held_blockedBy (h : x.Held) : (blockedBy now t x).Held := by
  rw [blockedBy]
  split
  · exact held_withStatus .blocked "" (by decide) (by decide) h
  · exact h

end Held

/-! ### Requests -/

/-- A request that leaves the leases alone and keeps the leased tasks held. -/
theorem of_tasks (h : LeasesHeld r) (hm : r'.leaseManager.isSome)
    (hl : r'.state.leases = r.state.leases)
    (hi : r'.state.taskLeaseIndex = r.state.taskLeaseIndex)
    (hid : r'.state.tasks.get? "" = none)
    (hx : ∀ k t n x, ActiveLease r.state k t n → r.state.tasks.get? t = some x → x.Held →
      ∃ x', r'.state.tasks.get? t = some x' ∧ x'.Held) : LeasesHeld r' := by
  refine ⟨h.leasesOk.congr hm hl hi, hid, ?_⟩
  intro k t n hk
  have hold := (activeLease_congr hl).mp hk
  obtain ⟨x, hget, hheld⟩ := h.held k t n hold
  exact hx k t n x hold hget hheld

/-- A request that revokes the lease of `t` and keeps the other tasks held. -/
theorem of_revoked (h : LeasesHeld r) (ht : t ≠ "") (hm : r'.leaseManager.isSome)
    (hl : r'.state.leases = (r.revokeLeaseOf t).state.leases)
    (hi : r'.state.taskLeaseIndex = (r.revokeLeaseOf t).state.taskLeaseIndex)
    (hid : r'.state.tasks.get? "" = none)
    (hx : ∀ k x, k ≠ t → r.state.tasks.get? k = some x → x.Held →
      ∃ x', r'.state.tasks.get? k = some x' ∧ x'.Held) : LeasesHeld r' := by
  refine ⟨h.leasesOk.revoked ht hm hl hi, hid, ?_⟩
  intro id k n hk
  obtain ⟨hne, hold⟩ := (h.leasesOk.activeLease_revoked ht hl).mp hk
  obtain ⟨x, hget, hheld⟩ := h.held id k n hold
  exact hx k x hne hget hheld

/-- An update of one task that holds it if it was held. -/
theorem held_update {s u : ClusterState} {f : Task → Task} {k : TaskId} {x : Task}
    (hget : ∀ k, u.tasks.get? k = if k = t then (s.tasks.get? k).map f else s.tasks.get? k)
    (hf : k = t → (f x).Held) (hx : s.tasks.get? k = some x) (hheld : x.Held) :
    ∃ x', u.tasks.get? k = some x' ∧ x'.Held := by
  rw [hget, hx]
  by_cases hk : k = t
  · exact ⟨f x, by rw [if_pos hk]; rfl, hf hk⟩
  · exact ⟨x, by rw [if_neg hk], hheld⟩

theorem submit (h : LeasesHeld r) (token title : String) (requires : List Capability)
    (priority : Int) (hnew : r.state.tasks.get? (generateId "task" token) = none) :
    LeasesHeld (r.submitTask now token title requires priority).2 := by
  have hframe : SameButTasks r.state (r.submitTask now token title requires priority).2.state :=
    sameButTasks_submitTask token title requires priority
  refine h.of_tasks h.leasesOk.manager hframe.leases hframe.taskLeaseIndex
    (unnamed_handle h.taskIds (.submit token title requires priority)) ?_
  intro k t n x _ hx hheld
  have hk : t ≠ generateId "task" token := fun e => by rw [e, hnew] at hx; cases hx
  rw [submitTask_state, get?_triggerPendingTasks, submitted, get?_createTask, if_neg hk, hx]
  exact ⟨_, rfl, held_promoted hheld⟩

theorem complete (h : LeasesHeld r) (t : TaskId) : LeasesHeld (r.completeTask now t).2 := by
  have hm : (r.completeTask now t).2.leaseManager.isSome :=
    (leaseManager_handle (.complete t)).trans h.leasesOk.manager
  have hid : (r.completeTask now t).2.state.tasks.get? "" = none :=
    unnamed_handle h.taskIds (.complete t)
  have hstate := completeTask_state r now t
  by_cases hx : (r.state.tasks.get? t).isSome
  · have hframe := sameButTasks_completeTask now hx
    rw [if_pos hx] at hstate
    obtain ⟨x, hx⟩ := Option.isSome_iff_exists.mp hx
    refine h.of_revoked (h.ne_of_get? hx) hm hframe.leases hframe.taskLeaseIndex hid ?_
    intro k y hk hy hheld
    rw [hstate, get?_schedulePending, completedState, get?_downstream, get?_setTaskStatus,
      tasks_revokeLeaseOf, if_neg hk, hy]
    exact ⟨_, rfl, held_scheduled (held_downstreamed hheld)⟩
  · rw [if_neg hx] at hstate
    refine h.of_tasks hm (by rw [hstate]) (by rw [hstate]) hid ?_
    intro k j n y _ hy hheld
    exact ⟨y, by rw [hstate]; exact hy, hheld⟩

theorem fail (h : LeasesHeld r) (reason : Option String)
    (hfree : ∀ k n, ¬ ActiveLease r.state k t n) : LeasesHeld (r.failTask now t reason).2 := by
  have hm : (r.failTask now t reason).2.leaseManager.isSome :=
    (leaseManager_handle (.fail t reason)).trans h.leasesOk.manager
  have hframe := sameButTasks_failTask r now t reason
  refine h.of_tasks hm hframe.leases hframe.taskLeaseIndex
    (unnamed_handle h.taskIds (.fail t reason)) ?_
  intro k j n y hk hy hheld
  rw [failTask_state]
  by_cases hx : (r.state.tasks.get? t).isSome
  · have hj : j ≠ t := fun e => hfree k n (e ▸ hk)
    rw [if_pos hx, get?_blockDependents, failedState, get?_setTaskStatus, if_neg hj, hy]
    exact ⟨_, rfl, held_blockedBy hheld⟩
  · rw [if_neg hx]
    exact ⟨y, hy, hheld⟩

theorem unblock (h : LeasesHeld r) (t : TaskId) : LeasesHeld (r.unblockTask now t).2 := by
  have hframe := sameButTasks_unblockTask r.state now t
  have hstate := unblockTask_state r now t
  refine h.of_tasks ((leaseManager_handle (.unblock t)).trans h.leasesOk.manager)
    (by rw [hstate]; exact hframe.leases) (by rw [hstate]; exact hframe.taskLeaseIndex)
    (unnamed_handle h.taskIds (.unblock t)) ?_
  intro k j n y _ hy hheld
  rw [hstate]
  refine held_update (fun k => get?_unblockTask) (fun _ => ?_) hy hheld
  split
  · refine ⟨hheld.1, ?_⟩
    intro hfin
    rcases hfin with hfin | hfin <;> cases hfin
  · exact hheld

theorem advance (h : LeasesHeld r) (t : TaskId) : LeasesHeld (r.manualAdvance now t).2 := by
  by_cases ha : AdvanceAccepted r.state t
  · have hframe := sameButTasks_manualAdvance r now t
    refine h.of_tasks ((leaseManager_handle (.advance t)).trans h.leasesOk.manager)
      hframe.leases hframe.taskLeaseIndex (unnamed_handle h.taskIds (.advance t)) ?_
    intro k j n y _ hy hheld
    obtain ⟨y', hy', hheld'⟩ := held_update (u := r.state.setTaskStatus now t .ready)
      (fun k => get?_setTaskStatus .ready "")
      (fun _ => held_withStatus .ready "" (by decide) (by decide) hheld) hy hheld
    rw [manualAdvance_accepted now ha, get?_schedulePending, hy']
    exact ⟨_, rfl, held_scheduled hheld'⟩
  · rw [manualAdvance_refused ha]
    exact h

theorem dependencies (h : LeasesHeld r) (t : TaskId) (deps : List TaskId) :
    LeasesHeld (r.setDependencies now t deps).2 := by
  have hstate := setDependencies_state r now t deps
  refine h.of_tasks ((leaseManager_handle (.dependencies t deps)).trans h.leasesOk.manager)
    (by rw [hstate]; rfl) (by rw [hstate]; rfl)
    (unnamed_handle h.taskIds (.dependencies t deps)) ?_
  intro k j n y _ hy hheld
  rw [hstate]
  exact held_update (fun k => get?_setDependencies deps) (fun _ => hheld) hy hheld

theorem trigger (h : LeasesHeld r) : LeasesHeld (r.scheduleTrigger now).2 := by
  have hframe : SameButTasks r.state (r.scheduleTrigger now).2.state :=
    sameButTasks_scheduleTrigger
  refine h.of_tasks h.leasesOk.manager hframe.leases hframe.taskLeaseIndex
    (unnamed_handle h.taskIds .trigger) ?_
  intro k j n y _ hy hheld
  rw [scheduleTrigger_state, get?_schedulePending, get?_triggerPendingTasks, hy]
  exact ⟨_, rfl, held_scheduled (held_promoted hheld)⟩

theorem release (h : LeasesHeld r) (t : TaskId) (n : NodeId) (reason : Option String) :
    LeasesHeld (r.releaseTask now t n reason).2 := by
  by_cases ha : ReleaseAccepted r.state t n
  · have hstate := releaseTask_accepted now ha reason
    obtain ⟨x, hx, -⟩ := ha
    refine h.of_revoked (h.ne_of_get? hx)
      ((leaseManager_handle (.release t n reason)).trans h.leasesOk.manager)
      (by rw [hstate]; rfl) (by rw [hstate]; rfl)
      (unnamed_handle h.taskIds (.release t n reason)) ?_
    intro k y hk hy hheld
    rw [hstate, get?_releasedState, if_neg hk]
    exact ⟨y, hy, hheld⟩
  · rw [releaseTask_refused ha]
    exact h

/-- A claim whose lease is refused: the task is running without one. -/
theorem claimTask_ungranted (token : String) {m : LeaseManager} (hc : ClaimAccepted r.state t)
    (hm : r.leaseManager = some m)
    (hno : ¬ (n ≠ "" ∧ ∃ e, addTtl now m.config.ttl = .ok e)) :
    (r.claimTask now token t n).2.state = claimedState r.state now t n := by
  rw [claimTask_accepted hc, hm]
  show (m.create (claimedState r.state now t n) now token t n).2.2 = _
  rw [LeaseManager.create]
  by_cases ht : t = ""
  · rw [if_pos ht]
  · rw [if_neg ht]
    by_cases hn : n = ""
    · rw [if_pos hn]
    · rw [if_neg hn]
      cases he : addTtl now m.config.ttl with
      | ok e => exact absurd ⟨hn, e, he⟩ hno
      | error e =>
        have hcreate : LeaseStore.createLease (claimedState r.state now t n) now token t n
            (m.effectiveTtl none) = .error e := createLease_of_overflow he
        rw [hcreate]

/-- A task that can be claimed has no active lease. -/
theorem free_of_claimAccepted (h : LeasesHeld r) (hc : ClaimAccepted r.state t) (k : LeaseId)
    (j : NodeId) : ¬ ActiveLease r.state k t j := by
  intro hk
  obtain ⟨x, hx, -, hnone⟩ := hc
  obtain ⟨y, hy, hheld⟩ := h.held k t j hk
  rw [hx] at hy
  obtain rfl := Option.some.inj hy
  exact hheld.1 hnone

theorem held_claimTask (h : LeasesHeld r) (hc : ClaimAccepted r.state t) (token : String)
    {k : LeaseId} {j : TaskId} {m : NodeId} (hk : ActiveLease r.state k j m) :
    ∃ x', (r.claimTask now token t n).2.state.tasks.get? j = some x' ∧ x'.Held := by
  obtain ⟨y, hy, hheld⟩ := h.held k j m hk
  have hj : j ≠ t := fun e => h.free_of_claimAccepted hc k m (e ▸ hk)
  exact ⟨y, by rw [get?_claimTask hc, if_neg hj]; exact hy, hheld⟩

theorem held_claimed (hc : ClaimAccepted r.state t) (token : String) :
    ∃ x', (r.claimTask now token t n).2.state.tasks.get? t = some x' ∧ x'.Held := by
  obtain ⟨x, hx, -⟩ := id hc
  refine ⟨claimedBy now n (ClusterState.withStatus now .running "" x), ?_,
    Option.some_ne_none n, ?_⟩
  · rw [get?_claimTask hc, if_pos rfl, hx]
    rfl
  · intro hfin
    rcases hfin with hfin | hfin <;> cases hfin

theorem claim (h : LeasesHeld r) (token : String)
    (hs : ClaimAccepted r.state t → r.state.leases.get? (generateId "lease" token) = none) :
    LeasesHeld (r.claimTask now token t n).2 := by
  by_cases hc : ClaimAccepted r.state t
  · have hm : (r.claimTask now token t n).2.leaseManager.isSome = true :=
      (leaseManager_handle (.claim token t n)).trans h.leasesOk.manager
    have hid : (r.claimTask now token t n).2.state.tasks.get? "" = none :=
      unnamed_handle h.taskIds (.claim token t n)
    obtain ⟨x, hx, -⟩ := id hc
    obtain ⟨m, hmgr⟩ := Option.isSome_iff_exists.mp h.leasesOk.manager
    by_cases hgrant : n ≠ "" ∧ ∃ e, addTtl now m.config.ttl = .ok e
    · obtain ⟨hn, e, he⟩ := hgrant
      have hstate := Matched.claimTask_granted token hc hmgr (h.ne_of_get? hx) hn he
      let lease : Lease := ⟨generateId "lease" token, t, n, now, e, .active⟩
      have hl : ∀ k, (r.claimTask now token t n).2.state.leases.get? k =
          if k = lease.id then some lease else r.state.leases.get? k := by
        intro k
        rw [hstate]
        exact Table.get?_put _ _ _
      refine ⟨h.leasesOk.granted (l := lease) (generateId_ne_empty "lease" token) (hs hc) rfl
        (h.free_of_claimAccepted hc) hm hl ?_, hid, ?_⟩
      · intro k
        rw [hstate]
        exact Table.get?_put _ _ _
      · intro k j m hk
        rcases (activeLease_new (hs hc) rfl hl).mp hk with ⟨-, rfl, -⟩ | hold
        · exact held_claimed hc token
        · exact h.held_claimTask hc token hold
    · have hstate := claimTask_ungranted token hc hmgr hgrant
      refine ⟨h.leasesOk.congr hm (by rw [hstate]; rfl) (by rw [hstate]; rfl), hid, ?_⟩
      intro k j m hk
      exact h.held_claimTask hc token ((activeLease_congr (by rw [hstate]; rfl)).mp hk)
  · rw [claimTask_refused hc]
    exact h

/-- A request that keeps leases. -/
theorem request (h : LeasesHeld r) (req : Time × Request) (hs : KeepsLeases r req) :
    LeasesHeld (TaskRouter.step r req) := by
  obtain ⟨now, req⟩ := req
  cases req with
  | submit token title requires priority => exact h.submit token title requires priority hs
  | complete t => exact h.complete t
  | fail t reason => exact h.fail reason hs
  | unblock t => exact h.unblock t
  | advance t => exact h.advance t
  | dependencies t deps => exact h.dependencies t deps
  | claim token t n => exact h.claim token hs
  | release t n reason => exact h.release t n reason
  | trigger => exact h.trigger

theorem initWith (nodes : Table Node) : LeasesHeld (TaskRouter.initWith nodes) := by
  have hno : ∀ k t n, ¬ ActiveLease (TaskRouter.initWith nodes).state k t n := by
    intro k t n hk
    obtain ⟨l, hl, -⟩ := hk
    cases hl
  refine ⟨⟨rfl, fun t k k' n n' hk => absurd hk (hno k t n), ?_, rfl⟩, rfl,
    fun k t n hk => absurd hk (hno k t n)⟩
  intro t e he
  cases he

end LeasesHeld

/-- **Finished work.**  In a run whose requests keep every lease with an assigned,
unfinished task, recovery of any node at any time leaves the finished tasks alone. -/
theorem finished_work_kept (nodes : Table Node) (run : List (Time × Request))
    (hrun : EachStep TaskRouter.step KeepsLeases (TaskRouter.initWith nodes) run) :
    Always TaskRouter.step (fun r => ∀ (m : RecoveryManager) (now : Time) (n : NodeId),
      FinishedKept r.state (m.triggerRecovery r.state now n).2.2)
      (TaskRouter.initWith nodes) run := by
  have hheld := always_of_eachStep (I := LeasesHeld)
    (fun r req h hs => h.request req hs) run _ (LeasesHeld.initWith nodes) hrun
  exact hheld.imp fun r h m now n => h.finishedKept m now n

/-- A claimed task is completed: its lease is gone, and a recovery of the node finds
nothing. -/
theorem finished_work_kept_example :
    FinishedKept
      (exec TaskRouter.step (TaskRouter.initWith oneNode)
        [(1, .submit "a" "build" [] 3), (2, .claim "x" "task_a" "n1"),
          (3, .complete "task_a")]).state
      (RecoveryManager.triggerRecovery {}
        (exec TaskRouter.step (TaskRouter.initWith oneNode)
          [(1, .submit "a" "build" [] 3), (2, .claim "x" "task_a" "n1"),
            (3, .complete "task_a")]).state 4 "n1").2.2 :=
  finished_work_kept oneNode _ (by
    simp only [eachStep_cons]
    exact ⟨rfl, fun _ => rfl, trivial, eachStep_nil _⟩) _ (List.prefix_refl _) {} 4 "n1"

/-- A node claims a task and fails it; the recovery of the node starts the task again. -/
theorem failed_work_restarted :
    let r := exec TaskRouter.step (TaskRouter.initWith oneNode)
      [(1, .submit "a" "build" [] 3), (2, .claim "x" "task_a" "n1"), (3, .fail "task_a" none)]
    ¬ FinishedKept r.state (RecoveryManager.triggerRecovery {} r.state 4 "n1").2.2 := by
  intro r h
  have hfailed : ∃ x, r.state.tasks.get? "task_a" = some x ∧ x.Finished ∧
      x.placement = (.failed, some "n1") := ⟨_, rfl, by decide, rfl⟩
  obtain ⟨x, hx, hfin, hp⟩ := hfailed
  obtain ⟨x', hx', hp'⟩ := h "task_a" x hx hfin
  rw [hp] at hp'
  have hafter : ((RecoveryManager.triggerRecovery {} r.state 4 "n1").2.2.tasks.get?
      "task_a").map Task.placement = some (.running, some "n1") := by decide
  rw [hx', Option.map_some, hp'] at hafter
  cases hafter

end HermesCluster
