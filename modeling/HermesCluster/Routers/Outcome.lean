import HermesCluster.Lib.Workflow
import HermesCluster.Routers.Gating

/-!
# How a workflow ends

The tasks of a store as a `Workflow`: a task waits for its dependencies, and can be worked on
when an online node fits it.  Workers report the tasks they run, the endpoints promote and
schedule; `Worked` says which requests do no more than that.

* `reaches_step`: such a request takes the workflow some steps further.
* `completed_iff_achievable`: in whatever order they come, when nothing is left to do exactly
  the tasks are completed that could be from the start, given those that failed.
* `completed_iff_no_failure`: with acyclic dependencies these are the tasks without a failed
  dependency, direct or not.
* `can_settle`: every such run can be brought to its end, with at most as many reports as
  there were tasks to do.
-/

namespace HermesCluster

namespace ClusterState

open Workflow

variable {s s' : ClusterState} {now : Time} {t k : TaskId} {x : Task}

def phaseOf : TaskStatus → Phase
  | .pending => .waiting
  | .ready => .ready
  | .running => .active
  | .completed => .done
  | .failed => .failed
  | .assigned | .blocked => .out

/-- The tasks of the store as a workflow. -/
def workflow (s : ClusterState) : Workflow TaskId where
  items := s.tasks.keys.toFinset
  needs t d := ∃ x, s.tasks.get? t = some x ∧ d ∈ x.dependsOn
  able t := ∃ x, s.tasks.get? t = some x ∧ (s.firstFit x.requires).isSome
  phase t := (s.tasks.get? t).elim .out fun x => phaseOf x.status
  outside t ht := by
    rw [List.mem_toFinset, Table.mem_keys] at ht
    cases hx : s.tasks.get? t with
    | none => rfl
    | some x => exact absurd ⟨x, hx⟩ ht

theorem phase_workflow (hx : s.tasks.get? t = some x) :
    s.workflow.phase t = phaseOf x.status := by
  simp [workflow, hx]

theorem phase_eq {p : Phase} (hp : p ≠ .out) : s.workflow.phase t = p ↔
    ∃ x, s.tasks.get? t = some x ∧ phaseOf x.status = p := by
  cases hx : s.tasks.get? t with
  | none => simp [workflow, hx, hp.symm]
  | some x => simp [workflow, hx]

theorem phaseOf_waiting {status : TaskStatus} :
    phaseOf status = .waiting ↔ status = .pending := by
  cases status <;> decide

theorem phaseOf_ready {status : TaskStatus} : phaseOf status = .ready ↔ status = .ready := by
  cases status <;> decide

theorem phaseOf_done {status : TaskStatus} : phaseOf status = .done ↔ status = .completed := by
  cases status <;> decide

theorem phase_done : s.workflow.phase t = .done ↔ s.Completed t := by
  rw [phase_eq (by decide), Completed]
  simp only [phaseOf_done]

theorem needs_workflow (hx : s.tasks.get? t = some x) {d : TaskId} :
    s.workflow.needs t d ↔ d ∈ x.dependsOn := by
  simp [workflow, hx]

theorem able_workflow (hx : s.tasks.get? t = some x) :
    s.workflow.able t ↔ (s.firstFit x.requires).isSome := by
  simp [workflow, hx]

theorem firstFit_of_nodes (h : s'.nodes = s.nodes) (requires : List Capability) :
    s'.firstFit requires = s.firstFit requires := by
  rw [firstFit, onlineNodes, h]; rfl

/-- The workflow is one of the tasks and the nodes. -/
theorem workflow_congr (htasks : s'.tasks = s.tasks) (hnodes : s'.nodes = s.nodes) :
    s'.workflow = s.workflow := by
  simp only [workflow, htasks, firstFit_of_nodes hnodes]

/-! ### Rewriting the tasks -/

/-- A rewriting of the tasks that leaves dependencies and requirements alone is a step of the
workflow when it moves each task. -/
theorem advances_of_map {f : TaskId → Task → Task} (hnodes : s'.nodes = s.nodes)
    (hget : ∀ k, s'.tasks.get? k = (s.tasks.get? k).map (f k))
    (hdeps : ∀ k x, (f k x).dependsOn = x.dependsOn)
    (hreqs : ∀ k x, (f k x).requires = x.requires)
    (hmove : ∀ k x, s.tasks.get? k = some x → Move s.workflow s'.workflow k) :
    Advances s.workflow s'.workflow where
  items := by
    ext k
    simp only [workflow, List.mem_toFinset, Table.mem_keys, hget]
    cases s.tasks.get? k <;> simp
  needs := by
    funext k d
    cases hx : s.tasks.get? k with
    | none => simp [workflow, hget, hx]
    | some x => simp [workflow, hget, hx, hdeps]
  able := by
    funext k
    cases hx : s.tasks.get? k with
    | none => simp [workflow, hget, hx]
    | some x => simp [workflow, hget, hx, hreqs, firstFit_of_nodes hnodes]
  move k := by
    cases hx : s.tasks.get? k with
    | none => exact .stay (by simp [workflow, hget, hx])
    | some x => exact hmove k x hx

theorem advances_triggerPendingTasks (s : ClusterState) (now : Time) :
    Advances s.workflow (s.triggerPendingTasks now).2.workflow := by
  refine advances_of_map (f := fun _ => s.promoted now) sameButTasks_triggerPendingTasks.nodes
    (fun _ => get?_triggerPendingTasks) (fun _ => promoted_dependsOn) (fun _ => promoted_requires)
    fun k x hx => ?_
  have hx' : (s.triggerPendingTasks now).2.tasks.get? k = some (s.promoted now x) := by
    rw [get?_triggerPendingTasks, hx]; rfl
  by_cases h : x.status = .pending ∧ s.allDone x.dependsOn
  · refine .release ?_ ?_ fun d hd => ?_
    · rw [phase_workflow hx, h.1]; rfl
    · rw [phase_workflow hx', promoted_status, if_pos h]; rfl
    · rw [phase_done, completed_triggerPendingTasks]
      exact allDone_iff.mp h.2 d ((needs_workflow hx).mp hd)
  · refine .stay ?_
    rw [phase_workflow hx', phase_workflow hx, promoted_status, if_neg h]

theorem advances_schedulePending (s : ClusterState) (now : Time) :
    Advances s.workflow (s.schedulePending now).2.workflow := by
  refine advances_of_map (f := fun _ => s.scheduled now) sameButTasks_schedulePending.nodes
    (fun _ => get?_schedulePending) (fun _ => scheduled_dependsOn) (fun _ => scheduled_requires)
    fun k x hx => ?_
  have hx' : (s.schedulePending now).2.tasks.get? k = some (s.scheduled now x) := by
    rw [get?_schedulePending, hx]; rfl
  by_cases h : x.status = .ready ∧ (s.firstFit x.requires).isSome
  · refine .start ?_ ?_ ((able_workflow hx).mpr h.2)
    · rw [phase_workflow hx, h.1]; rfl
    · rw [phase_workflow hx', scheduled_status, if_pos h]; rfl
  · refine .stay ?_
    rw [phase_workflow hx', phase_workflow hx, scheduled_status, if_neg h]

/-- A rewriting of one task that leaves its dependencies and requirements alone. -/
theorem advances_of_update {f : Task → Task} (hnodes : s'.nodes = s.nodes)
    (hget : ∀ k, s'.tasks.get? k = if k = t then (s.tasks.get? k).map f else s.tasks.get? k)
    (hdeps : ∀ x, (f x).dependsOn = x.dependsOn) (hreqs : ∀ x, (f x).requires = x.requires)
    (hmove : ∀ x, s.tasks.get? t = some x → Move s.workflow s'.workflow t) :
    Advances s.workflow s'.workflow := by
  refine advances_of_map (f := fun k x => if k = t then f x else x) hnodes (fun k => ?_)
    (fun k x => ?_) (fun k x => ?_) fun k x hx => ?_
  · rw [hget]
    by_cases hk : k = t
    · simp only [if_pos hk]
    · simp only [if_neg hk, Option.map_id']
  · split
    · exact hdeps x
    · rfl
  · split
    · exact hreqs x
    · rfl
  · by_cases hk : k = t
    · subst hk
      exact hmove x hx
    · exact .stay (by simp only [workflow, hget, if_neg hk])

end ClusterState

namespace TaskRouter

open ClusterState Workflow Run

variable {s s' : ClusterState} {r : TaskRouter} {now : Time} {t k : TaskId}

/-- The requests that work the tasks off: reports on running tasks, claims and releases of
tasks that an online node fits, an `advance` of a task not yet taken up, an `unblock` of one
with a failed dependency, and `trigger`. -/
def Worked (r : TaskRouter) (req : Time × Request) : Prop :=
  match req.2 with
  | .complete t | .fail t _ => Running r.state t
  | .claim _ t _ => ClaimAccepted r.state t → r.state.workflow.able t
  | .release t n _ => ReleaseAccepted r.state t n → Running r.state t ∧ r.state.workflow.able t
  | .advance t => AdvanceAccepted r.state t →
      r.state.workflow.phase t = .waiting ∨ r.state.workflow.phase t = .ready
  | .unblock t => ∀ x, r.state.tasks.get? t = some x → x.status = .blocked →
      ∃ d, r.state.workflow.needs t d ∧ r.state.workflow.phase d = .failed
  | .trigger => True
  | .submit _ _ _ _ | .dependencies _ _ => False

/-- The reports of workers. -/
def Reports : Request → Bool
  | .complete _ | .fail _ _ => true
  | _ => false

theorem phase_active : s.workflow.phase t = .active ↔ Running s t := by
  rw [phase_eq (by decide), Running]
  refine exists_congr fun x => and_congr_right fun _ => ?_
  cases x.status <;> decide

theorem workflow_revokeLeaseOf (r : TaskRouter) (t : TaskId) :
    (r.revokeLeaseOf t).state.workflow = r.state.workflow :=
  workflow_congr (tasks_revokeLeaseOf t) (nodes_revokeLeaseOf t)

/-! ### The steps of a request -/

/-- A status written to one task. -/
theorem advances_setTaskStatus (s : ClusterState) (now : Time) (t : TaskId) (status : TaskStatus)
    (reason : String)
    (hmove : ∀ x, s.tasks.get? t = some x →
      Move s.workflow (s.setTaskStatus now t status reason).workflow t) :
    Advances s.workflow (s.setTaskStatus now t status reason).workflow :=
  advances_of_update rfl (fun _ => get?_setTaskStatus status reason) (fun _ => rfl)
    (fun _ => rfl) hmove

theorem phase_setTaskStatus {x : Task} (hx : s.tasks.get? t = some x) (status : TaskStatus)
    (reason : String) :
    (s.setTaskStatus now t status reason).workflow.phase t = phaseOf status := by
  have hx' : (s.setTaskStatus now t status reason).tasks.get? t =
      some (withStatus now status reason x) := by
    rw [get?_setTaskStatus, if_pos rfl, hx]; rfl
  rw [phase_workflow hx']; rfl

theorem advances_downstream (s : ClusterState) (now : Time) (t : TaskId) :
    Advances s.workflow (downstream s now t).workflow := by
  have hdeps : ∀ x, (downstreamed s now t x).dependsOn = x.dependsOn := fun x => by
    unfold downstreamed; split <;> rfl
  have hreqs : ∀ x, (downstreamed s now t x).requires = x.requires := fun x => by
    unfold downstreamed; split <;> rfl
  refine advances_of_map (f := fun _ => downstreamed s now t) sameButTasks_downstream.nodes
    (fun _ => get?_downstream) (fun _ => hdeps) (fun _ => hreqs) fun k x hx => ?_
  have hx' : (downstream s now t).tasks.get? k = some (downstreamed s now t x) := by
    rw [get?_downstream, hx]; rfl
  by_cases h : t ∈ x.dependsOn ∧ x.status = .pending ∧ s.allDone x.dependsOn
  · rw [downstreamed, if_pos h] at hx'
    refine .release ?_ ?_ fun d hd => ?_
    · rw [phase_workflow hx, h.2.1]; rfl
    · rw [phase_workflow hx']; rfl
    · rw [phase_done, completed_downstream]
      exact allDone_iff.mp h.2.2 d ((needs_workflow hx).mp hd)
  · rw [downstreamed, if_neg h] at hx'
    exact .stay (by rw [phase_workflow hx', phase_workflow hx])

/-- The dependents of a failed task are blocked. -/
theorem advances_blockDependents (hfailed : s.workflow.phase t = .failed) :
    Advances s.workflow ((s.getDependents t).foldl (blockDependent now) s).workflow := by
  have hdeps : ∀ x, (blockedBy now t x).dependsOn = x.dependsOn := fun x => by
    unfold blockedBy; split <;> rfl
  have hreqs : ∀ x, (blockedBy now t x).requires = x.requires := fun x => by
    unfold blockedBy; split <;> rfl
  -- the failed task is not pending, so the loop leaves it alone
  have hstill : ((s.getDependents t).foldl (blockDependent now) s).workflow.phase t = .failed := by
    obtain ⟨x, hx, hp⟩ := (phase_eq (by decide)).mp hfailed
    have hx' : ((s.getDependents t).foldl (blockDependent now) s).tasks.get? t =
        (s.tasks.get? t).map (blockedBy now t) := get?_blockDependents
    rw [hx, Option.map_some, blockedBy, if_neg fun h => by rw [h.2] at hp; cases hp] at hx'
    rw [phase_workflow hx', hp]
  refine advances_of_map (f := fun _ => blockedBy now t) sameButTasks_blockDependents.nodes
    (fun _ => get?_blockDependents) (fun _ => hdeps) (fun _ => hreqs) fun k x hx => ?_
  have hx' : ((s.getDependents t).foldl (blockDependent now) s).tasks.get? k =
      (s.tasks.get? k).map (blockedBy now t) := get?_blockDependents
  rw [hx, Option.map_some] at hx'
  by_cases h : t ∈ x.dependsOn ∧ x.status = .pending
  · rw [blockedBy, if_pos h] at hx'
    refine .block ?_ ?_ t ((needs_workflow hx).mpr h.1) hstill
    · rw [phase_workflow hx, h.2]; rfl
    · rw [phase_workflow hx']; rfl
  · rw [blockedBy, if_neg h] at hx'
    exact .stay (by rw [phase_workflow hx', phase_workflow hx])

/-- What follows once a task is marked completed. -/
theorem reaches_triggerDownstream (s : ClusterState) (now : Time) (t : TaskId) :
    Reaches s.workflow ((downstream s now t).schedulePending now).2.workflow :=
  (Relation.ReflTransGen.single (advances_downstream s now t)).tail
    (advances_schedulePending _ now)

theorem reaches_complete (now : Time) (hrun : Running r.state t) :
    Reaches r.state.workflow (r.completeTask now t).2.state.workflow ∧
      (r.completeTask now t).2.state.workflow.phase t = .done := by
  obtain ⟨x, hx, -⟩ := id hrun
  rw [completeTask_state, hx, Option.isSome_some, if_pos rfl, completedState,
    ← workflow_revokeLeaseOf r t]
  have hx' : (r.revokeLeaseOf t).state.tasks.get? t = some x := by rw [tasks_revokeLeaseOf, hx]
  have hdone :
      ((r.revokeLeaseOf t).state.setTaskStatus now t .completed).workflow.phase t = .done :=
    phase_setTaskStatus hx' .completed ""
  have hfinish : Advances (r.revokeLeaseOf t).state.workflow
      ((r.revokeLeaseOf t).state.setTaskStatus now t .completed).workflow := by
    refine advances_setTaskStatus _ now t _ _ fun _ _ => .finish ?_ hdone
    rw [workflow_revokeLeaseOf, phase_active]
    exact hrun
  have hrest := reaches_triggerDownstream
    ((r.revokeLeaseOf t).state.setTaskStatus now t .completed) now t
  exact ⟨.head hfinish hrest, hrest.done hdone⟩

theorem reaches_fail (now : Time) (reason : Option String) (hrun : Running r.state t) :
    Reaches r.state.workflow (r.failTask now t reason).2.state.workflow ∧
      (r.failTask now t reason).2.state.workflow.phase t = .failed := by
  obtain ⟨x, hx, -⟩ := id hrun
  rw [failTask_state, hx, Option.isSome_some, if_pos rfl]
  have hfailed : (failedState r.state now t reason).workflow.phase t = .failed :=
    phase_setTaskStatus hx _ _
  have hfail : Advances r.state.workflow (failedState r.state now t reason).workflow :=
    advances_setTaskStatus _ now t _ _ fun _ _ => .fail (phase_active.mpr hrun) hfailed
  have hblock : Advances (failedState r.state now t reason).workflow
      (((failedState r.state now t reason).getDependents t).foldl (blockDependent now)
        (failedState r.state now t reason)).workflow := advances_blockDependents hfailed
  exact ⟨.head hfail (.single hblock), hblock.failed hfailed⟩

theorem nodes_managerCreate (m : LeaseManager) (s : ClusterState) (now : Time) (token : String)
    (t : TaskId) (n : NodeId) : (m.create s now token t n).2.2.nodes = s.nodes := by
  unfold LeaseManager.create
  split
  · rfl
  · split
    · rfl
    · cases ha : addTtl now (m.effectiveTtl none) with
      | error e => simp [LeaseStore.createLease, ClusterState.createLease, ha, bind, Except.bind]
      | ok e =>
        simp [LeaseStore.createLease, ClusterState.createLease, ha, bind, Except.bind, pure,
          Except.pure]

theorem nodes_claimTask (ha : ClaimAccepted r.state t) (now : Time) (token : String) (n : NodeId) :
    (r.claimTask now token t n).2.state.nodes = r.state.nodes := by
  rw [claimTask_accepted ha]
  cases r.leaseManager with
  | none => rfl
  | some m => exact nodes_managerCreate m _ now token t n

theorem advances_claim (now : Time) (token : String) (n : NodeId) (ha : ClaimAccepted r.state t)
    (hable : r.state.workflow.able t) :
    Advances r.state.workflow (r.claimTask now token t n).2.state.workflow := by
  refine advances_of_update (nodes_claimTask ha now token n) (fun k => get?_claimTask ha token n)
    (fun _ => rfl) (fun _ => rfl) fun x hx => ?_
  obtain ⟨y, hy, hready, -⟩ := id ha
  obtain rfl : x = y := Option.some.inj (hx.symm.trans hy)
  have hx' : (r.claimTask now token t n).2.state.tasks.get? t =
      some (claimedBy now n (withStatus now .running "" x)) := by
    rw [get?_claimTask ha, if_pos rfl, hx, Option.map_some]
  refine .start ?_ ?_ hable
  · rw [phase_workflow hx, hready]; rfl
  · rw [phase_workflow hx']; rfl

theorem advances_release (now : Time) {n : NodeId} (reason : Option String)
    (ha : ReleaseAccepted r.state t n) (hrun : Running r.state t)
    (hable : r.state.workflow.able t) :
    Advances r.state.workflow (r.releaseTask now t n reason).2.state.workflow := by
  rw [releaseTask_accepted now ha]
  refine advances_of_update (nodes_revokeLeaseOf t) (fun k => get?_releasedState reason)
    (fun _ => rfl) (fun _ => rfl) fun x hx => ?_
  have hx' : (releasedState r now t reason).tasks.get? t =
      some (releasedFor now reason (withStatus now .ready "" x)) := by
    rw [get?_releasedState, if_pos rfl, hx, Option.map_some]
  refine .requeue (phase_active.mpr hrun) ?_ hable
  rw [phase_workflow hx']; rfl

theorem reaches_advance (now : Time) (ha : AdvanceAccepted r.state t)
    (hphase : r.state.workflow.phase t = .waiting ∨ r.state.workflow.phase t = .ready) :
    Reaches r.state.workflow (r.manualAdvance now t).2.state.workflow := by
  obtain ⟨x, hx, hdone⟩ := id ha
  have hready : (r.state.setTaskStatus now t .ready).workflow.phase t = .ready :=
    phase_setTaskStatus hx _ _
  rw [manualAdvance_accepted now ha]
  refine (Relation.ReflTransGen.single (advances_setTaskStatus _ now t _ _ fun _ _ => ?_)).tail
    (advances_schedulePending _ now)
  rcases hphase with hw | hr
  · refine .release hw hready fun d hd => ?_
    have hc : r.state.Completed d := allDone_iff.mp hdone d ((needs_workflow hx).mp hd)
    have hne : d ≠ t := fun e => by rw [← phase_done, e, hw] at hc; cases hc
    rw [phase_done, completed_update (fun k => get?_setTaskStatus _ _) d hne]
    exact hc
  · exact .stay (hready.trans hr.symm)

theorem advances_unblock (now : Time)
    (h : ∀ x, r.state.tasks.get? t = some x → x.status = .blocked →
      ∃ d, r.state.workflow.needs t d ∧ r.state.workflow.phase d = .failed) :
    Advances r.state.workflow (r.unblockTask now t).2.state.workflow := by
  rw [unblockTask_state]
  refine advances_of_update (f := fun x => if x.status = .blocked then unblocked now x else x)
    (sameButTasks_unblockTask _ now t).nodes (fun k => get?_unblockTask)
    (fun x => by split <;> rfl) (fun x => by split <;> rfl) fun x hx => ?_
  have hget : ∀ k, (r.state.unblockTask now t).2.tasks.get? k = _ := fun k => get?_unblockTask
  have hx' := hget t
  rw [if_pos rfl, hx, Option.map_some] at hx'
  by_cases hb : x.status = .blocked
  · obtain ⟨d, hd, hfailed⟩ := h x hx hb
    rw [if_pos hb] at hx'
    refine .unblock ?_ ?_ d hd ?_
    · rw [phase_workflow hx, hb]; rfl
    · rw [phase_workflow hx']; rfl
    · -- the failed dependency is another task
      have hne : d ≠ t := fun e => by rw [e, phase_workflow hx, hb] at hfailed; cases hfailed
      rw [← hfailed]
      simp only [workflow, hget, if_neg hne]
  · rw [if_neg hb] at hx'
    exact .stay (by rw [phase_workflow hx', phase_workflow hx])

/-- **Step lemma.**  A request that works the tasks off takes the workflow further. -/
theorem reaches_step (req : Time × Request) (h : Worked r req) :
    Reaches r.state.workflow (r.step req).state.workflow := by
  obtain ⟨now, req⟩ := req
  show Reaches r.state.workflow (r.handle now req).2.state.workflow
  cases req with
  | submit _ _ _ _ => exact absurd h id
  | dependencies _ _ => exact absurd h id
  | complete t => exact (reaches_complete now h).1
  | fail t reason => exact (reaches_fail now reason h).1
  | unblock t => exact .single (advances_unblock now h)
  | advance t =>
    by_cases ha : AdvanceAccepted r.state t
    · exact reaches_advance now ha (h ha)
    · rw [handle, manualAdvance_refused ha]
  | claim token t n =>
    by_cases ha : ClaimAccepted r.state t
    · exact .single (advances_claim now token n ha (h ha))
    · rw [handle, claimTask_refused ha]
  | release t n reason =>
    by_cases ha : ReleaseAccepted r.state t n
    · exact .single (advances_release now reason ha (h ha).1 (h ha).2)
    · rw [handle, releaseTask_refused ha]
  | trigger =>
    exact (Relation.ReflTransGen.single (advances_triggerPendingTasks _ now)).tail
      (advances_schedulePending _ now)

theorem reaches_exec (run : List (Time × Request)) (r : TaskRouter)
    (h : EachStep step Worked r run) :
    Reaches r.state.workflow (exec step r run).state.workflow := by
  induction run generalizing r with
  | nil => exact .refl
  | cons req run ih =>
    obtain ⟨hreq, hrun⟩ := (eachStep_cons r req run).mp h
    exact (reaches_step req hreq).trans (ih _ hrun)

/-! ### Reaching the end -/

/-- The scheduler leaves no ready task that an online node fits. -/
theorem not_able_of_ready (s : ClusterState) (now : Time)
    (ht : (s.schedulePending now).2.workflow.phase t = .ready) :
    ¬ (s.schedulePending now).2.workflow.able t := by
  obtain ⟨y, hy, hphase⟩ := (phase_eq (by decide)).mp ht
  rw [able_workflow hy, firstFit_of_nodes sameButTasks_schedulePending.nodes]
  rw [get?_schedulePending, Option.map_eq_some_iff] at hy
  obtain ⟨x, -, rfl⟩ := hy
  rw [scheduled_status] at hphase
  rw [scheduled_requires]
  split at hphase
  · cases hphase
  · rename_i hn
    exact fun hfit => hn ⟨phaseOf_ready.mp hphase, hfit⟩

/-- Promotion leaves no pending task whose dependencies are all completed. -/
theorem needs_of_waiting (s : ClusterState) (now : Time)
    (ht : (s.triggerPendingTasks now).2.workflow.phase t = .waiting) :
    ∃ d, (s.triggerPendingTasks now).2.workflow.needs t d ∧
      (s.triggerPendingTasks now).2.workflow.phase d ≠ .done := by
  obtain ⟨y, hy, hphase⟩ := (phase_eq (by decide)).mp ht
  have hneeds := fun d => needs_workflow hy (d := d)
  rw [get?_triggerPendingTasks, Option.map_eq_some_iff] at hy
  obtain ⟨x, -, rfl⟩ := hy
  rw [promoted_status] at hphase
  split at hphase
  · cases hphase
  · rename_i hn
    have hopen : ¬ ∀ d ∈ x.dependsOn, s.Completed d := fun h =>
      hn ⟨phaseOf_waiting.mp hphase, allDone_iff.mpr h⟩
    push Not at hopen
    obtain ⟨d, hd, hnot⟩ := hopen
    refine ⟨d, (hneeds d).mpr (by rwa [promoted_dependsOn]), ?_⟩
    rw [Ne, phase_done, completed_triggerPendingTasks]
    exact hnot

/-- The scheduler makes no task pending. -/
theorem waiting_of_scheduled (s : ClusterState) (now : Time)
    (ht : (s.schedulePending now).2.workflow.phase t = .waiting) :
    s.workflow.phase t = .waiting := by
  obtain ⟨y, hy, hphase⟩ := (phase_eq (by decide)).mp ht
  rw [get?_schedulePending, Option.map_eq_some_iff] at hy
  obtain ⟨x, hx, rfl⟩ := hy
  rw [scheduled_status] at hphase
  split at hphase
  · cases hphase
  · rw [phase_workflow hx, hphase]

/-- After `trigger`, nothing is left to do unless a task is running. -/
theorem settled_of_trigger (r : TaskRouter) (now : Time)
    (hidle : ∀ t, ¬ Running (r.scheduleTrigger now).2.state t) :
    (r.scheduleTrigger now).2.state.workflow.Settled := by
  refine ⟨fun t ht => hidle t (phase_active.mp ht), fun t => not_able_of_ready _ now,
    fun t ht _ => ?_⟩
  have hstep := advances_schedulePending (r.state.triggerPendingTasks now).2 now
  obtain ⟨d, hd, hnot⟩ := needs_of_waiting r.state now (waiting_of_scheduled _ now ht)
  refine ⟨d, hstep.needs ▸ hd, fun hdone => hnot ?_⟩
  rwa [phase_done, ← completed_schedulePending, ← phase_done]

/-- A report takes one task off those still to be done. -/
theorem card_live_report {req : Time × Request} (h : Worked r req) (hreport : Reports req.2) :
    (r.step req).state.workflow.live.card < r.state.workflow.live.card := by
  obtain ⟨now, req⟩ := req
  cases req with
  | complete t =>
    obtain ⟨hreach, hdone⟩ := reaches_complete now h
    exact card_live_lt hreach (phase_active.mpr h) fun hlive => hlive.1 hdone
  | fail t reason =>
    obtain ⟨hreach, hfailed⟩ := reaches_fail now reason h
    exact card_live_lt hreach (phase_active.mpr h) fun hlive => hlive.2 hfailed
  | _ => cases hreport

/-- Reports and what is still to be done make up no more than there was to do. -/
theorem card_reports (run : List (Time × Request)) (r : TaskRouter)
    (h : EachStep step Worked r run) :
    run.countP (fun req => Reports req.2) + (exec step r run).state.workflow.live.card ≤
      r.state.workflow.live.card := by
  induction run generalizing r with
  | nil => simp [exec]
  | cons req run ih =>
    obtain ⟨hreq, hrun⟩ := (eachStep_cons r req run).mp h
    have hrest := ih _ hrun
    rw [List.countP_cons, exec_cons]
    by_cases hreport : Reports req.2
    · have hlt := card_live_report hreq hreport
      rw [if_pos hreport]
      omega
    · have hle := card_live_le (reaches_step req hreq)
      rw [if_neg hreport]
      omega

/-- From every store, `trigger` and reports of completion lead to the end. -/
theorem exists_settled (now : Time) (r : TaskRouter) : ∃ run : List (Time × Request),
    (∀ req ∈ run, req.2 = .trigger ∨ ∃ t, req.2 = .complete t) ∧
      EachStep step Worked r run ∧ (exec step r run).state.workflow.Settled := by
  induction hn : r.state.workflow.live.card using Nat.strongRecOn generalizing r with
  | ind n ih =>
    by_cases hidle : ∀ t, ¬ Running (r.scheduleTrigger now).2.state t
    · refine ⟨[(now, .trigger)], by simp, ?_, settled_of_trigger r now hidle⟩
      exact (eachStep_cons r _ []).mpr ⟨trivial, eachStep_nil _⟩
    · push Not at hidle
      obtain ⟨t, ht⟩ := hidle
      have htrigger : Worked r (now, .trigger) := trivial
      have hcomplete : Worked (r.step (now, .trigger)) (now, .complete t) := ht
      have hlt := card_live_report hcomplete rfl
      have hle := card_live_le (reaches_step _ htrigger)
      obtain ⟨run, honly, hrun, hend⟩ :=
        ih _ (by omega) ((r.step (now, .trigger)).step (now, .complete t)) rfl
      refine ⟨(now, .trigger) :: (now, .complete t) :: run, ?_, ?_, hend⟩
      · intro req hreq
        rcases List.mem_cons.mp hreq with rfl | hreq
        · exact .inl rfl
        · rcases List.mem_cons.mp hreq with rfl | hreq
          · exact .inr ⟨t, rfl⟩
          · exact honly req hreq
      · exact (eachStep_cons r _ _).mpr
          ⟨htrigger, (eachStep_cons _ _ _).mpr ⟨hcomplete, hrun⟩⟩

/-! ### The end of a run -/

/-- A build and a deployment that depends on it, both pending, and a node for them. -/
def pipeline : TaskRouter :=
  let build : TaskSync := { taskId := "build", title := "build", status := "pending" }
  let deploy : TaskSync := { taskId := "deploy", title := "deploy", status := "pending" }
  { initWith oneNode with
    state := (((initWith oneNode).state.applyTaskState 0 build).applyTaskState 0
      deploy).setDependencies 0 "deploy" ["build"] }

/-- The build is completed, and then the deployment. -/
def deployed : List (Time × Request) :=
  [(1, .trigger), (2, .complete "build"), (3, .complete "deploy"), (4, .trigger)]

/-- The build fails. -/
def broken : List (Time × Request) := [(1, .trigger), (2, .fail "build" none), (3, .trigger)]

theorem worked_deployed : EachStep step Worked pipeline deployed := by
  simp only [deployed, eachStep_cons]
  have hbuild : Running (pipeline.step (1, .trigger)).state "build" := by decide
  have hdeploy : Running ((pipeline.step (1, .trigger)).step (2, .complete "build")).state
      "deploy" := by decide
  exact ⟨trivial, hbuild, hdeploy, trivial, eachStep_nil _⟩

theorem worked_broken : EachStep step Worked pipeline broken := by
  simp only [broken, eachStep_cons]
  have hbuild : Running (pipeline.step (1, .trigger)).state "build" := by decide
  exact ⟨trivial, hbuild, trivial, eachStep_nil _⟩

theorem not_running_of_rows (h : ∀ x ∈ s.tasks.rows, x.status ≠ .running) (t : TaskId) :
    ¬ Running s t := fun ⟨x, hx, hrun⟩ => h x (Table.mem_of_get? hx) hrun

/-- **How a workflow ends.**  From any store, along any run of requests that work the tasks
off: when nothing is left to do, exactly those tasks are completed that could be from the
start, given the tasks that failed.  Neither the order of the requests nor who claims,
releases or advances what makes a difference. -/
theorem completed_iff_achievable (r : TaskRouter) (run : List (Time × Request))
    (hrun : EachStep step Worked r run) (hend : (exec step r run).state.workflow.Settled)
    (t : TaskId) : (exec step r run).state.Completed t ↔
      r.state.workflow.Achievable
        (fun d => (exec step r run).state.workflow.phase d = .failed) t := by
  rw [← phase_done]
  exact done_iff_achievable (reaches_exec run r hrun) hend

theorem completed_iff_achievable_pipeline :
    (exec step pipeline deployed).state.Completed "deploy" ↔
      pipeline.state.workflow.Achievable
        (fun d => (exec step pipeline deployed).state.workflow.phase d = .failed) "deploy" := by
  refine completed_iff_achievable pipeline deployed worked_deployed ?_ "deploy"
  exact settled_of_trigger (exec step pipeline (deployed.take 3)) 4
    (not_running_of_rows (by decide))

/-- **Only failures are passed on.**  In a feasible workflow, when nothing is left to do, a
task is completed exactly if no task it depends on, directly or not, and not itself, has
failed. -/
theorem completed_iff_no_failure (r : TaskRouter) (run : List (Time × Request))
    (hfeasible : r.state.workflow.Feasible) (hrun : EachStep step Worked r run)
    (hend : (exec step r run).state.workflow.Settled) (t : TaskId) :
    (exec step r run).state.Completed t ↔ t ∈ r.state.tasks.keys ∧
      ∀ d, Relation.ReflTransGen r.state.workflow.needs t d →
        (exec step r run).state.workflow.phase d ≠ .failed := by
  rw [← phase_done, ← List.mem_toFinset]
  exact hfeasible.done_iff (reaches_exec run r hrun) hend

theorem needs_pipeline {t d : TaskId} (h : pipeline.state.workflow.needs t d) :
    t = "deploy" ∧ d = "build" := by
  obtain ⟨x, hx, hd⟩ := h
  have hall : ∀ x ∈ pipeline.state.tasks.rows, ∀ d ∈ x.dependsOn,
      x.id = "deploy" ∧ d = "build" := by decide
  obtain ⟨hid, hdep⟩ := hall x (Table.mem_of_get? hx) d hd
  exact ⟨(Table.key_of_get? hx).symm.trans hid, hdep⟩

theorem feasible_pipeline : pipeline.state.workflow.Feasible where
  acyclic t ht := by
    obtain ⟨d, htd, hdt⟩ := Relation.TransGen.head'_iff.mp ht
    obtain ⟨rfl, rfl⟩ := needs_pipeline htd
    rcases hdt.cases_head with heq | ⟨c, hc, -⟩
    · exact absurd heq (by decide)
    · exact absurd (needs_pipeline hc).1 (by decide)
  exist t d h := by
    rw [(needs_pipeline h).2]
    decide
  within := by decide
  able t ht := by
    obtain ⟨x, hx⟩ := Table.mem_keys.mp (List.mem_toFinset.mp ht)
    have hall : ∀ x ∈ pipeline.state.tasks.rows, (pipeline.state.firstFit x.requires).isSome := by
      decide
    exact (able_workflow hx).mpr (hall x (Table.mem_of_get? hx))
  gated t ht d h := by
    rw [(needs_pipeline h).1] at ht
    exact absurd rfl ht

/-- The deployment is not completed, as the build has failed. -/
theorem completed_iff_no_failure_pipeline :
    (exec step pipeline broken).state.Completed "deploy" ↔ "deploy" ∈ pipeline.state.tasks.keys ∧
      ∀ d, Relation.ReflTransGen pipeline.state.workflow.needs "deploy" d →
        (exec step pipeline broken).state.workflow.phase d ≠ .failed := by
  refine completed_iff_no_failure pipeline broken feasible_pipeline worked_broken ?_ "deploy"
  exact settled_of_trigger (exec step pipeline (broken.take 2)) 3
    (not_running_of_rows (by decide))

/-- **Termination.**  From any store, a run of requests that work the tasks off contains no
more reports than there were tasks neither completed nor failed, and those that are left
over; and it can be brought to its end by triggering and completing what runs. -/
theorem can_settle (r : TaskRouter) (run : List (Time × Request)) (now : Time)
    (hrun : EachStep step Worked r run) :
    run.countP (fun req => Reports req.2) + (exec step r run).state.workflow.live.card ≤
        r.state.workflow.live.card ∧
      ∃ more : List (Time × Request),
        (∀ req ∈ more, req.2 = .trigger ∨ ∃ t, req.2 = .complete t) ∧
        EachStep step Worked r (run ++ more) ∧
        (exec step r (run ++ more)).state.workflow.Settled := by
  refine ⟨card_reports run r hrun, ?_⟩
  obtain ⟨more, honly, hmore, hend⟩ := exists_settled now (exec step r run)
  refine ⟨more, honly, (eachStep_append r run more).mpr ⟨hrun, hmore⟩, ?_⟩
  rwa [exec_append]

theorem can_settle_pipeline :
    broken.countP (fun req => Reports req.2) +
        (exec step pipeline broken).state.workflow.live.card ≤
        pipeline.state.workflow.live.card ∧
      ∃ more : List (Time × Request),
        (∀ req ∈ more, req.2 = .trigger ∨ ∃ t, req.2 = .complete t) ∧
        EachStep step Worked pipeline (broken ++ more) ∧
        (exec step pipeline (broken ++ more)).state.workflow.Settled :=
  can_settle pipeline broken 4 worked_broken

end TaskRouter

end HermesCluster
