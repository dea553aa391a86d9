import HermesCluster.Lib.Run
import HermesCluster.Cluster
import HermesCluster.Routers.Spec
import HermesCluster.Recovery.Recovered

/-!
# Ready tasks can be claimed

`claim` refuses a ready task that has an assignee.  Status and assignee are written apart,
and the assignee outlives completion and failure, so each way back to ready has to clear it.
`unassign_task` and `release` do; `advance` does not.

`Task.Free` is what the other operations keep: a task that is pending, ready or blocked has
no assignee.  `ready_claimable` says that every ready task can be claimed, in every state of
a run, exactly as long as no `advance` is accepted for a task that has an assignee and that
no online node fits.
-/

namespace HermesCluster

open Run ClusterState TaskRouter

/-- A task that waits has no assignee. -/
def Task.Free (x : Task) : Prop :=
  x.status = .pending ∨ x.status = .ready ∨ x.status = .blocked → x.assignedTo = none

namespace ClusterState

def AllFree (s : ClusterState) : Prop := ∀ t x, s.tasks.get? t = some x → x.Free

/-- Every ready task is without an assignee. -/
def ReadyUnassigned (s : ClusterState) : Prop :=
  ∀ t x, s.tasks.get? t = some x → x.status = .ready → x.assignedTo = none

theorem AllFree.readyUnassigned {s : ClusterState} (h : s.AllFree) : s.ReadyUnassigned :=
  fun t x hx hr => h t x hx (Or.inr (Or.inl hr))

end ClusterState

/-! ### Updates of a free task -/

section Updates

variable {s s' : ClusterState} {now : Time} {t : TaskId} {x : Task}

theorem free_of_status {u : TaskStatus} (h : x.status = u) (hp : u ≠ .pending)
    (hr : u ≠ .ready) (hb : u ≠ .blocked) : x.Free := by
  intro hw
  rw [h] at hw
  rcases hw with hw | hw | hw
  · exact absurd hw hp
  · exact absurd hw hr
  · exact absurd hw hb

theorem free_of_unassigned (h : x.assignedTo = none) : x.Free := fun _ => h

theorem free_promoted (h : x.Free) : (s.promoted now x).Free := by
  rw [promoted]
  split
  · rename_i hc
    exact free_of_unassigned (h (Or.inl hc.1))
  · exact h

theorem free_scheduled (h : x.Free) : (s.scheduled now x).Free := by
  by_cases hr : x.status = .ready
  · cases hf : s.firstFit x.requires with
    | none =>
      rw [scheduled_of_noFit hf]
      exact h
    | some node =>
      rw [scheduled_of_fit hr hf]
      exact free_of_status (u := .running) rfl (by decide) (by decide) (by decide)
  · rw [scheduled_of_not_ready hr]
    exact h

theorem free_downstreamed (h : x.Free) : (downstreamed s now t x).Free := by
  rw [downstreamed]
  split
  · rename_i hc
    exact free_of_unassigned (h (Or.inl hc.2.1))
  · exact h

theorem free_blockedBy (h : x.Free) : (blockedBy now t x).Free := by
  rw [blockedBy]
  split
  · rename_i hc
    exact free_of_unassigned (h (Or.inl hc.2))
  · exact h

theorem allFree_map {f : Task → Task} (h : s.AllFree)
    (hget : ∀ k, s'.tasks.get? k = (s.tasks.get? k).map f) (hf : ∀ x, x.Free → (f x).Free) :
    s'.AllFree := by
  intro k x' hx'
  rw [hget] at hx'
  obtain ⟨x, hx, rfl⟩ := Option.map_eq_some_iff.mp hx'
  exact hf x (h k x hx)

theorem allFree_update {f : Task → Task} (h : s.AllFree)
    (hget : ∀ k, s'.tasks.get? k = if k = t then (s.tasks.get? k).map f else s.tasks.get? k)
    (hf : ∀ x, s.tasks.get? t = some x → x.Free → (f x).Free) : s'.AllFree := by
  intro k x' hx'
  rw [hget] at hx'
  by_cases hk : k = t
  · rw [if_pos hk] at hx'
    obtain ⟨x, hx, rfl⟩ := Option.map_eq_some_iff.mp hx'
    exact hf x (hk ▸ hx) (h k x hx)
  · rw [if_neg hk] at hx'
    exact h k x' hx'

theorem allFree_scheduled (h : s.AllFree) : (s.schedulePending now).2.AllFree :=
  allFree_map h (fun _ => get?_schedulePending) fun _ => free_scheduled

theorem allFree_of_tasks (h : s.AllFree) (ht : s'.tasks = s.tasks) : s'.AllFree := by
  intro k x hx
  rw [ht] at hx
  exact h k x hx

/-- Rescheduling leaves a task failed, running, or as a pass of the scheduler leaves it. -/
theorem allFree_rescheduled {O : TaskId → Prop} (h : s.AllFree) (hr : Rescheduled O s s') :
    s'.AllFree := by
  intro k x' hx'
  cases hk : s.tasks.get? k with
  | none =>
    rw [hr.absent k hk] at hx'
    cases hx'
  | some x =>
    obtain ⟨y, hy, -, hp⟩ := hr.present k x hk
    rw [hx'] at hy
    obtain rfl := Option.some.inj hy
    have hstatus : x'.status = (afterReschedule O s k x).1 := congrArg Prod.fst hp
    have hassigned : x'.assignedTo = (afterReschedule O s k x).2 := congrArg Prod.snd hp
    by_cases ho : O k
    · rw [afterReschedule_of_mem ho, settledPlacement] at hstatus
      split at hstatus
      · split at hstatus
        · exact free_of_status hstatus (by decide) (by decide) (by decide)
        · exact free_of_status (u := .running) hstatus (by decide) (by decide) (by decide)
      · exact free_of_status hstatus (by decide) (by decide) (by decide)
    · by_cases he : ∃ j, O j
      · obtain ⟨j, hj⟩ := he
        have hsched : (s.scheduled 0 x).placement = s.scheduledPlacement x.requires x.placement :=
          scheduled_placement x
        have hfree : (s.scheduled 0 x).Free := free_scheduled (h k x hk)
        rw [afterReschedule_of_not_mem ho hj, ← hsched] at hstatus hassigned
        intro hw
        rw [hstatus] at hw
        rw [hassigned]
        exact hfree hw
      · rw [afterReschedule_of_empty he] at hstatus hassigned
        intro hw
        rw [hstatus] at hw
        rw [hassigned]
        exact h k x hk hw

end Updates

/-! ### The operations -/

section Requests

variable {r : TaskRouter} {now : Time} {t : TaskId}

/-- An advance that is accepted makes its task ready: it finds it without an assignee, or the
scheduler's pass that follows finds a node for it. -/
def AdvanceFree (s : ClusterState) : Request → Prop
  | .advance t => AdvanceAccepted s t → ∀ x, s.tasks.get? t = some x →
      x.assignedTo = none ∨ (s.firstFit x.requires).isSome
  | _ => True

theorem allFree_completeTask (h : r.state.AllFree) : (r.completeTask now t).2.state.AllFree := by
  rw [completeTask_state]
  split
  · refine allFree_scheduled ?_
    refine allFree_map (s := (r.revokeLeaseOf t).state.setTaskStatus now t .completed) ?_
      (fun _ => get?_downstream) fun _ => free_downstreamed
    refine allFree_update (allFree_of_tasks h (tasks_revokeLeaseOf t))
      (fun _ => get?_setTaskStatus _ _) fun x _ _ => ?_
    exact free_of_status (u := .completed) rfl (by decide) (by decide) (by decide)
  · exact h

theorem allFree_failTask (h : r.state.AllFree) (reason : Option String) :
    (r.failTask now t reason).2.state.AllFree := by
  rw [failTask_state]
  split
  · refine allFree_map (s := failedState r.state now t reason) ?_
      (fun _ => get?_blockDependents) fun _ => free_blockedBy
    refine allFree_update h (fun _ => get?_setTaskStatus _ _) fun x _ _ => ?_
    exact free_of_status (u := .failed) rfl (by decide) (by decide) (by decide)
  · exact h

theorem allFree_unblockTask (h : r.state.AllFree) : (r.unblockTask now t).2.state.AllFree := by
  rw [unblockTask_state]
  refine allFree_update h (fun _ => get?_unblockTask) fun x _ hx => ?_
  split
  · rename_i hb
    exact free_of_unassigned (hx (Or.inr (Or.inr hb)))
  · exact hx

theorem allFree_claimTask (h : r.state.AllFree) (token : String) (n : NodeId) :
    (r.claimTask now token t n).2.state.AllFree := by
  by_cases hc : ClaimAccepted r.state t
  · refine allFree_update h (fun _ => get?_claimTask hc token n) fun x _ _ => ?_
    exact free_of_status (u := .running) rfl (by decide) (by decide) (by decide)
  · rw [claimTask_refused hc]
    exact h

theorem allFree_releaseTask (h : r.state.AllFree) (n : NodeId) (reason : Option String) :
    (r.releaseTask now t n reason).2.state.AllFree := by
  by_cases ha : ReleaseAccepted r.state t n
  · rw [releaseTask_accepted now ha reason]
    refine allFree_update h (fun _ => get?_releasedState reason) fun x _ _ => ?_
    exact free_of_unassigned rfl
  · rw [releaseTask_refused ha]
    exact h

/-- An accepted advance, and the pass of the scheduler after it. -/
theorem allFree_advance (h : r.state.AllFree)
    (hfree : ∀ x, r.state.tasks.get? t = some x →
      x.assignedTo = none ∨ (r.state.firstFit x.requires).isSome)
    (ha : AdvanceAccepted r.state t) : (r.manualAdvance now t).2.state.AllFree := by
  have hfit : ∀ requires, (r.state.setTaskStatus now t .ready).firstFit requires =
      r.state.firstFit requires := fun _ => rfl
  rw [manualAdvance_accepted now ha]
  intro k x' hx'
  rw [get?_schedulePending, get?_setTaskStatus] at hx'
  by_cases hk : k = t
  · rw [if_pos hk, Option.map_map] at hx'
    obtain ⟨x, hx, rfl⟩ := Option.map_eq_some_iff.mp hx'
    rcases hfree x (hk ▸ hx) with hn | hs
    · exact free_scheduled (free_of_unassigned hn)
    · obtain ⟨node, hnode⟩ := Option.isSome_iff_exists.mp hs
      have hsched : (r.state.setTaskStatus now t .ready).scheduled now
          (withStatus now .ready "" x) =
            assignedOn now node.id (withStatus now .ready "" x) :=
        scheduled_of_fit rfl ((hfit x.requires).trans hnode)
      rw [Function.comp_apply, hsched]
      exact free_of_status (u := .running) rfl (by decide) (by decide) (by decide)
  · rw [if_neg hk] at hx'
    obtain ⟨x, hx, rfl⟩ := Option.map_eq_some_iff.mp hx'
    exact free_scheduled (h k x hx)

/-- An advanced task that no node fits stays ready with its assignee. -/
theorem get?_manualAdvance_of_noFit {x : Task} (hx : r.state.tasks.get? t = some x)
    (hf : r.state.firstFit x.requires = none) (ha : AdvanceAccepted r.state t) :
    (r.manualAdvance now t).2.state.tasks.get? t = some (withStatus now .ready "" x) := by
  rw [manualAdvance_accepted now ha, get?_schedulePending, get?_setTaskStatus, if_pos rfl, hx,
    Option.map_some, Option.map_some]
  exact congrArg some (scheduled_of_noFit hf)

theorem allFree_handle (h : r.state.AllFree) (req : Request) (hs : AdvanceFree r.state req) :
    (r.handle now req).2.state.AllFree := by
  cases req with
  | submit token title requires priority =>
    refine allFree_map (s := submitted r.state now token title requires priority) ?_
      (fun _ => get?_triggerPendingTasks) fun _ => free_promoted
    intro k x hx
    rw [submitted, get?_createTask] at hx
    split at hx
    · cases hx
      exact free_of_unassigned rfl
    · exact h k x hx
  | complete t => exact allFree_completeTask h
  | fail t reason => exact allFree_failTask h reason
  | unblock t => exact allFree_unblockTask h
  | advance t =>
    by_cases ha : AdvanceAccepted r.state t
    · exact allFree_advance h (hs ha) ha
    · show (r.manualAdvance now t).2.state.AllFree
      rw [manualAdvance_refused ha]
      exact h
  | dependencies t deps =>
    show (r.setDependencies now t deps).2.state.AllFree
    rw [setDependencies_state]
    exact allFree_update h (fun _ => get?_setDependencies deps) fun _ _ hx => hx
  | claim token t n => exact allFree_claimTask h token n
  | release t n reason => exact allFree_releaseTask h n reason
  | trigger =>
    show (r.scheduleTrigger now).2.state.AllFree
    rw [scheduleTrigger_state]
    exact allFree_scheduled
      (allFree_map h (fun _ => get?_triggerPendingTasks) fun _ => free_promoted)

/-- A request that leaves every ready task without an assignee is no advance of an assigned
task that nobody takes. -/
theorem advanceFree_of_readyUnassigned (req : Request)
    (h : (r.handle now req).2.state.ReadyUnassigned) : AdvanceFree r.state req := by
  cases req with
  | advance t =>
    intro ha x hx
    cases hf : r.state.firstFit x.requires with
    | none =>
      left
      exact h t (withStatus now .ready "" x) (get?_manualAdvance_of_noFit hx hf ha) rfl
    | some node => exact Or.inr rfl
  | _ => trivial

end Requests

/-- What an operation has to meet to keep ready tasks without an assignee. -/
def KeepsUnassigned (c : Cluster) (op : Time × ClusterOp) : Prop :=
  ∀ req, op.2 = .request req → AdvanceFree c.state req

/-- **Step lemma.** -/
theorem allFree_step (c : Cluster) (op : Time × ClusterOp) (h : c.state.AllFree)
    (hs : KeepsUnassigned c op) : (c.step op).state.AllFree := by
  obtain ⟨now, op⟩ := op
  cases op with
  | request req => exact allFree_handle h req (hs req rfl)
  | scanLeases => exact allFree_rescheduled h (recovered_getActiveLeases c.state now).tasks
  | triggerRecovery n =>
    exact allFree_rescheduled h (recovered_triggerRecovery c.recovery c.state now n).tasks
  | detectExpiredLeases order =>
    exact allFree_rescheduled h
      (recovered_detectExpiredLeases order c.recovery c.state now).tasks
  | _ => exact h

/-! ### What `claim` answers -/

/-- The 409 answer to a claim of a ready task. -/
def alreadyClaimed : PyError := .httpException 409 "task is already claimed"

theorem managerCreate_ne_alreadyClaimed (m : LeaseManager) (s : ClusterState) (now : Time)
    (token : String) (t : TaskId) (n : NodeId) :
    (m.create s now token t n).1 ≠ .error alreadyClaimed := by
  rw [LeaseManager.create]
  split
  · intro h; cases h
  · split
    · intro h; cases h
    · split
      · rename_i e hc
        intro h
        cases h
        change s.createLease now token t n _ = _ at hc
        rw [ClusterState.createLease, addTtl] at hc
        split at hc
        · cases hc
        · cases hc
      · intro h; cases h

theorem claimTask_ne_alreadyClaimed (r : TaskRouter) (now : Time) (token : String) (t : TaskId)
    (n : NodeId) (h : ∀ x, r.state.tasks.get? t = some x → x.status = .ready →
      x.assignedTo = none) : (r.claimTask now token t n).1 ≠ .error alreadyClaimed := by
  rw [claimTask, getTask]
  cases hx : r.state.tasks.get? t with
  | none => intro he; cases he
  | some x =>
    by_cases hr : x.status = .ready
    · simp only [hr, h x hx hr, ne_eq, not_true, if_false]
      cases hm : r.leaseManager with
      | none => intro he; cases he
      | some m =>
        simp only
        split
        · rename_i e m' state hc
          intro he
          obtain rfl : e = alreadyClaimed := Except.error.inj he
          exact managerCreate_ne_alreadyClaimed _ _ _ _ _ _ (congrArg Prod.fst hc)
        · intro he; cases he
    · simp only [ne_eq, hr, not_false_eq_true, if_true]
      intro he
      injection he with he
      injection he with _ he
      revert he
      cases x.status <;> decide

/-- No claim is answered that its task is already claimed. -/
def NeverAlreadyClaimed (r : TaskRouter) : Prop :=
  ∀ now token t n, (r.claimTask now token t n).1 ≠ .error alreadyClaimed

/-- A claim is answered so for a ready task with an assignee, and only then. -/
theorem neverAlreadyClaimed_iff (r : TaskRouter) :
    NeverAlreadyClaimed r ↔ r.state.ReadyUnassigned := by
  refine ⟨?_, ?_⟩
  · intro h t x hx hr
    by_contra ha
    refine h 0 "" t "" ?_
    simp only [claimTask, getTask, hx, hr, ne_eq, not_true, if_false, ha, not_false_eq_true,
      if_true, alreadyClaimed]
  · intro h now token t n
    exact claimTask_ne_alreadyClaimed r now token t n (h t)

/-! ### Runs -/

/-- **Every ready task can be claimed.**  From an empty store with any nodes, in every state of
a run: each ready task is without an assignee, and no claim is answered that its task is
already claimed, exactly as long as no `advance` is accepted for a task that has an assignee
and that no online node fits. -/
theorem ready_claimable (nodes : Table Node) (run : List (Time × ClusterOp)) :
    Always Cluster.step (fun c => c.state.ReadyUnassigned ∧ NeverAlreadyClaimed c.router)
        (Cluster.initWith nodes) run ↔
      EachStep Cluster.step KeepsUnassigned (Cluster.initWith nodes) run := by
  have hboth : ∀ c : Cluster, c.state.AllFree →
      c.state.ReadyUnassigned ∧ NeverAlreadyClaimed c.router :=
    fun c h => ⟨h.readyUnassigned, (neverAlreadyClaimed_iff c.router).mpr h.readyUnassigned⟩
  have hneeds : ∀ (c : Cluster) (op : Time × ClusterOp),
      (c.step op).state.ReadyUnassigned → KeepsUnassigned c op := by
    intro c op h req hreq
    obtain ⟨now, op⟩ := op
    obtain rfl : op = .request req := hreq
    exact advanceFree_of_readyUnassigned req h
  refine always_iff_eachStep (I := fun c : Cluster => c.state.AllFree) (A := fun _ _ => True)
    hboth (fun c op h _ => ⟨fun hp => hneeds c op hp.1, fun hs => hboth _ (allFree_step c op h hs)⟩)
    (fun c op h _ hp => allFree_step c op h (hneeds c op hp.1)) run _ ?_ (fun _ _ _ => trivial)
  intro t x hx
  cases hx

/-- A task is submitted, claimed by `n1` and completed; `advance` makes it ready again, and it
is still assigned to `n1`. -/
theorem advanced_unclaimable :
    ¬ Always Cluster.step (fun c => c.state.ReadyUnassigned ∧ NeverAlreadyClaimed c.router)
      Cluster.init [(1, .request (.submit "a" "build" [] 3)),
        (2, .request (.claim "x" "task_a" "n1")), (3, .request (.complete "task_a")),
        (4, .request (.advance "task_a"))] := by
  intro h
  have hnot := (h _ (List.prefix_refl _)).2 5 "y" "task_a" "n2"
  revert hnot; decide

end HermesCluster
