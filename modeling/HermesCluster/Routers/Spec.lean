import HermesCluster.Routers.Tasks
import HermesCluster.State.TaskSpec

/-!
# What the task requests do to the tasks

Every request but `submit` rewrites the task table in place.  For each handler
there is a lemma giving the task under an id after it, as an update of the task
before it.  The two loops over the dependents of a task visit each once, so that
a loop is one update of the dependents: `get?_downstream`, `get?_blockDependents`.

`complete`, `advance` and `trigger` end with a pass of the scheduler.  Their lemmas
describe the store that pass starts from; `get?_schedulePending` does the rest.

What a request leaves alone comes last: `leaseManager_handle`, `unnamed_handle` for every
request, and `sameButTasks_*` for those that change nothing but tasks.
-/

namespace HermesCluster

namespace ClusterState

variable {s : ClusterState} {now : Time} {t k : TaskId}

/-- Two updates of one kind at a list of distinct ids. -/
theorem get?_foldl_ids {f : ClusterState → TaskId → ClusterState} {g : Task → Task}
    {I : ClusterState → Prop} (hI : ∀ s d, I s → I (f s d))
    (hf : ∀ s d k, I s → (f s d).tasks.get? k =
      if k = d then (s.tasks.get? k).map g else s.tasks.get? k) :
    ∀ l : List TaskId, l.Nodup → ∀ s, I s → ∀ k, (l.foldl f s).tasks.get? k =
      if k ∈ l then (s.tasks.get? k).map g else s.tasks.get? k := by
  intro l hl s hs k
  refine (Table.look_foldl_keyed (fun s k => s.tasks.get? k) f id (fun _ o => o.map g) hI hf l
    (by rwa [List.map_id]) s hs k).trans ?_
  cases hfind : l.find? (fun d => decide (id d = k)) with
  | none =>
    have hk : k ∉ l := fun hk => List.find?_eq_none.mp hfind k hk (decide_eq_true rfl)
    rw [if_neg hk]
  | some d =>
    have hd : d = k := by simpa using List.find?_some hfind
    rw [if_pos (hd ▸ List.mem_of_find?_eq_some hfind)]

end ClusterState

namespace TaskRouter

open ClusterState

variable {s : ClusterState} {r : TaskRouter} {now : Time} {t k : TaskId}

/-! ### The dependents of a completed task -/

/-- `_trigger_downstream` without its pass of the scheduler. -/
def downstream (s : ClusterState) (now : Time) (t : TaskId) : ClusterState :=
  (s.getDependents t).foldl (triggerDependent now) s

/-- What `_trigger_downstream` makes of a task of the table `s`. -/
def downstreamed (s : ClusterState) (now : Time) (t : TaskId) (x : Task) : Task :=
  if t ∈ x.dependsOn ∧ x.status = .pending ∧ s.allDone x.dependsOn then
    withStatus now .ready "" x else x

theorem triggerDependent_eq (now : Time) (s : ClusterState) (d : TaskId) :
    triggerDependent now s d = s ∨
    ∃ x, s.tasks.get? d = some x ∧ x.status = .pending ∧ s.allDone x.dependsOn ∧
      triggerDependent now s d = s.setTaskStatus now d .ready := by
  unfold triggerDependent getTask
  cases hd : s.tasks.get? d with
  | none => exact Or.inl rfl
  | some x =>
    by_cases hp : x.status = .pending
    · by_cases ha : s.allDone x.dependsOn
      · exact Or.inr ⟨x, rfl, hp, ha, by simp [hp, ha]⟩
      · exact Or.inl (by simp [hp, ha])
    · exact Or.inl (by simp [hp])

theorem completed_triggerDependent (d : TaskId) :
    ∀ e, (triggerDependent now s d).Completed e ↔ s.Completed e := by
  intro e
  rcases triggerDependent_eq now s d with h | ⟨x, hx, hp, -, h⟩
  · rw [h]
  · rw [h]
    by_cases he : e = d
    · subst he
      simp [Completed, get?_setTaskStatus, hx, hp, withStatus]
    · simp [Completed, get?_setTaskStatus, he]

theorem get?_triggerDependent {s₁ : ClusterState} (hc : ∀ e, s.Completed e ↔ s₁.Completed e)
    (d : TaskId) : (triggerDependent now s d).tasks.get? k =
      if k = d then (s.tasks.get? k).map (fun x =>
        if x.status = .pending ∧ s₁.allDone x.dependsOn then withStatus now .ready "" x else x)
      else s.tasks.get? k := by
  unfold triggerDependent getTask
  cases hd : s.tasks.get? d with
  | none =>
    by_cases hk : k = d
    · rw [if_pos hk, hk, hd]; rfl
    · rw [if_neg hk]
  | some x =>
    simp only [allDone_congr hc]
    by_cases hk : k = d
    · subst hk
      rw [if_pos rfl, hd, Option.map_some]
      by_cases hp : x.status = .pending
      · by_cases ha : s₁.allDone x.dependsOn
        · simp [hp, ha, get?_setTaskStatus, hd]
        · simp [hp, ha, hd]
      · simp [hp, hd]
    · rw [if_neg hk]
      by_cases hp : x.status = .pending
      · by_cases ha : s₁.allDone x.dependsOn
        · simp [hp, ha, get?_setTaskStatus, hk]
        · simp [hp, ha]
      · simp [hp]

/-- **The dependents of `t`** become ready when they are pending and their
dependencies are completed in the table the loop starts from. -/
theorem get?_downstream :
    (downstream s now t).tasks.get? k = (s.tasks.get? k).map (downstreamed s now t) := by
  rw [downstream, get?_foldl_ids (I := fun s' => ∀ e, s'.Completed e ↔ s.Completed e)
    (fun s' d h e => (completed_triggerDependent d e).trans (h e))
    (fun s' d k h => get?_triggerDependent h d) _ nodup_getDependents s (fun _ => Iff.rfl)]
  cases hk : s.tasks.get? k with
  | none => simp
  | some x =>
    have hmem : k ∈ s.getDependents t ↔ t ∈ x.dependsOn := by simp [mem_getDependents, hk]
    by_cases ht : t ∈ x.dependsOn <;> simp [hmem, downstreamed, ht]

theorem sameButTasks_downstream : SameButTasks s (downstream s now t) := by
  refine sameButTasks_foldl id (fun s' d => ?_) _ s
  rcases triggerDependent_eq now s' d with h | ⟨x, -, -, -, h⟩
  · rw [h]; exact SameButTasks.refl s'
  · rw [h]; exact sameButTasks_setTaskStatus _ _

theorem completed_downstream : ∀ d, (downstream s now t).Completed d ↔ s.Completed d := by
  refine completed_congr_of_map (fun k => get?_downstream) (fun k x _ => ?_)
  unfold downstreamed
  split
  · rename_i h; simp [withStatus, h.2.1]
  · exact Iff.rfl

/-! ### The dependents of a failed task -/

/-- What the loop of `fail_task` makes of a task. -/
def blockedBy (now : Time) (t : TaskId) (x : Task) : Task :=
  if t ∈ x.dependsOn ∧ x.status = .pending then withStatus now .blocked "" x else x

theorem get?_blockDependent (d : TaskId) : (blockDependent now s d).tasks.get? k =
    if k = d then (s.tasks.get? k).map (fun x =>
      if x.status = .pending then withStatus now .blocked "" x else x)
    else s.tasks.get? k := by
  unfold blockDependent getTask
  cases hd : s.tasks.get? d with
  | none =>
    by_cases hk : k = d
    · rw [if_pos hk, hk, hd]; rfl
    · rw [if_neg hk]
  | some x =>
    by_cases hk : k = d
    · subst hk
      by_cases hp : x.status = .pending <;> simp [hp, get?_setTaskStatus, hd]
    · by_cases hp : x.status = .pending <;> simp [hp, get?_setTaskStatus, hk]

/-- The pending dependents of `t` become blocked. -/
theorem get?_blockDependents :
    ((s.getDependents t).foldl (blockDependent now) s).tasks.get? k =
      (s.tasks.get? k).map (blockedBy now t) := by
  rw [get?_foldl_ids (I := fun _ => True) (fun _ _ _ => trivial)
    (fun s' d k _ => get?_blockDependent d) _ nodup_getDependents s trivial]
  cases hk : s.tasks.get? k with
  | none => simp
  | some x =>
    have hmem : k ∈ s.getDependents t ↔ t ∈ x.dependsOn := by simp [mem_getDependents, hk]
    by_cases ht : t ∈ x.dependsOn <;> simp [hmem, blockedBy, ht]

theorem sameButTasks_blockDependents :
    SameButTasks s ((s.getDependents t).foldl (blockDependent now) s) := by
  refine sameButTasks_foldl id (fun s' d => ?_) _ s
  unfold blockDependent
  split
  · exact SameButTasks.refl s'
  · split
    · exact sameButTasks_setTaskStatus _ _
    · exact SameButTasks.refl s'

/-! ### The lease step of `complete` and `release` -/

theorem tasks_revokeLease (id : LeaseId) : (s.revokeLease id).2.tasks = s.tasks := by
  unfold ClusterState.revokeLease; split <;> rfl

theorem nodes_revokeLease (id : LeaseId) : (s.revokeLease id).2.nodes = s.nodes := by
  unfold ClusterState.revokeLease; split <;> rfl

/-- The lease `get_by_task` finds is revoked, if it has an id. -/
theorem revokeLeaseOf_state (t : TaskId) : (r.revokeLeaseOf t).state =
    match (r.leaseManager.bind fun m => m.getByTask r.state t).filter (·.id ≠ "") with
    | some lease => (r.state.revokeLease lease.id).2
    | none => r.state := by
  unfold revokeLeaseOf
  cases r.leaseManager with
  | none => rfl
  | some m =>
    rw [Option.bind_some]
    cases hl : m.getByTask r.state t with
    | none => simp only [hl]; rfl
    | some l =>
      by_cases hid : l.id = ""
      · simp [hl, LeaseManager.revoke, hid, Option.filter_some]
      · simp only [hl, LeaseManager.revoke, if_neg hid, Option.filter_some]
        simp [hid, LeaseStore.revokeLease]

@[simp] theorem tasks_revokeLeaseOf (t : TaskId) :
    (r.revokeLeaseOf t).state.tasks = r.state.tasks := by
  rw [revokeLeaseOf_state]
  split
  · exact tasks_revokeLease _
  · rfl

@[simp] theorem nodes_revokeLeaseOf (t : TaskId) :
    (r.revokeLeaseOf t).state.nodes = r.state.nodes := by
  rw [revokeLeaseOf_state]
  split
  · exact nodes_revokeLease _
  · rfl

/-! ### The handlers -/

/-- The store `submit` promotes from. -/
def submitted (s : ClusterState) (now : Time) (token title : String)
    (requires : List Capability) (priority : Int) : ClusterState :=
  s.createTask now (generateId "task" token) title requires (if priority > 0 then priority else 3)

theorem submitTask_state (token title : String) (requires : List Capability) (priority : Int) :
    (r.submitTask now token title requires priority).2.state =
      ((submitted r.state now token title requires priority).triggerPendingTasks now).2 := rfl

/-- The store the scheduler's pass of `complete` starts from. -/
def completedState (r : TaskRouter) (now : Time) (t : TaskId) : ClusterState :=
  downstream ((r.revokeLeaseOf t).state.setTaskStatus now t .completed) now t

theorem completeTask_state (r : TaskRouter) (now : Time) (t : TaskId) :
    (r.completeTask now t).2.state =
      if (r.state.tasks.get? t).isSome then ((completedState r now t).schedulePending now).2
      else r.state := by
  unfold completeTask getTask
  cases r.state.tasks.get? t <;> rfl

/-- The store before the loop of `fail`. -/
def failedState (s : ClusterState) (now : Time) (t : TaskId) (reason : Option String) :
    ClusterState :=
  s.setTaskStatus now t .failed (reason.getD "failed")

theorem failTask_state (r : TaskRouter) (now : Time) (t : TaskId) (reason : Option String) :
    (r.failTask now t reason).2.state =
      if (r.state.tasks.get? t).isSome then
        ((failedState r.state now t reason).getDependents t).foldl (blockDependent now)
          (failedState r.state now t reason)
      else r.state := by
  unfold failTask getTask
  cases r.state.tasks.get? t <;> rfl

theorem unblockTask_state (r : TaskRouter) (now : Time) (t : TaskId) :
    (r.unblockTask now t).2.state = (r.state.unblockTask now t).2 := by
  unfold unblockTask
  simp only
  split <;> rfl

/-- Whether `advance` gets past its checks. -/
def AdvanceAccepted (s : ClusterState) (t : TaskId) : Prop :=
  ∃ x, s.tasks.get? t = some x ∧ s.allDone x.dependsOn

theorem manualAdvance_accepted (now : Time) (h : AdvanceAccepted r.state t) :
    (r.manualAdvance now t).2.state =
      ((r.state.setTaskStatus now t .ready).schedulePending now).2 := by
  obtain ⟨x, hx, hd⟩ := h
  simp [manualAdvance, getTask, hx, hd]

theorem manualAdvance_refused (h : ¬ AdvanceAccepted r.state t) :
    (r.manualAdvance now t).2 = r := by
  unfold manualAdvance getTask
  cases hx : r.state.tasks.get? t with
  | none => rfl
  | some x =>
    have hd : ¬ r.state.allDone x.dependsOn := fun hd => h ⟨x, hx, hd⟩
    have hne : x.dependsOn ≠ [] := by
      intro he
      rw [he] at hd
      exact hd rfl
    simp [hd, hne]

theorem setDependencies_state (r : TaskRouter) (now : Time) (t : TaskId) (deps : List TaskId) :
    (r.setDependencies now t deps).2.state = r.state.setDependencies now t deps := by
  unfold TaskRouter.setDependencies getTask
  cases hx : r.state.tasks.get? t with
  | none =>
    have := Table.modify_of_get?_none (withDependencies now deps) (fun _ => rfl) hx
    simp only [ClusterState.setDependencies, this]
  | some x => rfl

/-- Whether `claim` gets past its checks. -/
def ClaimAccepted (s : ClusterState) (t : TaskId) : Prop :=
  ∃ x, s.tasks.get? t = some x ∧ x.status = .ready ∧ x.assignedTo = none

/-- The store in which `claim` asks for the lease. -/
def claimedState (s : ClusterState) (now : Time) (t : TaskId) (n : NodeId) : ClusterState :=
  let state := s.setTaskStatus now t .running
  { state with tasks := state.tasks.modify t (claimedBy now n) (key_claimedBy now n) }

/-- A claim that is refused raises before it writes. -/
theorem claimTask_raised (h : ¬ ClaimAccepted r.state t) (now : Time) (token : String)
    (n : NodeId) : ∃ e, r.claimTask now token t n = (.error e, r) := by
  rw [claimTask, getTask]
  cases hx : r.state.tasks.get? t with
  | none => exact ⟨_, rfl⟩
  | some x =>
    dsimp only
    by_cases hr : x.status = .ready
    · have ha : x.assignedTo ≠ none := fun ha => h ⟨x, hx, hr, ha⟩
      rw [if_neg (not_not.mpr hr), if_pos ha]
      exact ⟨_, rfl⟩
    · rw [if_pos hr]
      exact ⟨_, rfl⟩

theorem claimTask_refused (h : ¬ ClaimAccepted r.state t) (token : String) (n : NodeId) :
    (r.claimTask now token t n).2 = r := by
  obtain ⟨e, he⟩ := claimTask_raised h now token n
  rw [he]

/-- An accepted claim: the task is running, and then the manager, if there is one,
creates the lease or raises. -/
theorem claimTask_accepted (h : ClaimAccepted r.state t) (token : String) (n : NodeId) :
    (r.claimTask now token t n).2 =
      match r.leaseManager with
      | none => { r with state := claimedState r.state now t n }
      | some m =>
        let (_, m', state) := m.create (claimedState r.state now t n) now token t n
        { state := state, leaseManager := some m' } := by
  obtain ⟨x, hx, hr, ha⟩ := h
  unfold claimTask getTask
  simp only [hx, hr, ha, ne_eq, not_true, if_false]
  cases r.leaseManager with
  | none => rfl
  | some m =>
    simp only [claimedState]
    split <;> rename_i hc <;> rw [hc]

theorem tasks_managerCreate (m : LeaseManager) (token : String) (n : NodeId)
    (ttl : Option Duration) : (m.create s now token t n ttl).2.2.tasks = s.tasks := by
  unfold LeaseManager.create
  split
  · rfl
  · split
    · rfl
    · cases ha : addTtl now (m.effectiveTtl ttl) with
      | error e => simp [LeaseStore.createLease, ClusterState.createLease, ha, bind, Except.bind]
      | ok e =>
        simp [LeaseStore.createLease, ClusterState.createLease, ha, bind, Except.bind, pure,
          Except.pure]

theorem get?_claimedState (n : NodeId) : (claimedState s now t n).tasks.get? k =
    if k = t then (s.tasks.get? k).map (fun x => claimedBy now n (withStatus now .running "" x))
    else s.tasks.get? k := by
  refine (Table.get?_modify _ _ (claimedBy now n) (key_claimedBy now n) _).trans ?_
  rw [get?_setTaskStatus]
  by_cases hk : k = t
  · rw [if_pos hk, if_pos hk, if_pos hk, Option.map_map]; rfl
  · rw [if_neg hk, if_neg hk, if_neg hk]

/-- A claimed task, as the manager leaves it whether or not it grants the lease. -/
theorem get?_claimTask (h : ClaimAccepted r.state t) (token : String) (n : NodeId) :
    (r.claimTask now token t n).2.state.tasks.get? k =
      if k = t then
        (r.state.tasks.get? k).map (fun x => claimedBy now n (withStatus now .running "" x))
      else r.state.tasks.get? k := by
  have htasks : (r.claimTask now token t n).2.state.tasks =
      (claimedState r.state now t n).tasks := by
    rw [claimTask_accepted h]
    cases r.leaseManager with
    | none => rfl
    | some m => exact tasks_managerCreate m token n none
  rw [htasks, get?_claimedState]

/-- Whether `release` gets past its checks. -/
def ReleaseAccepted (s : ClusterState) (t : TaskId) (n : NodeId) : Prop :=
  ∃ x, s.tasks.get? t = some x ∧ x.assignedTo = some n

/-- A release that is refused raises before it writes. -/
theorem releaseTask_raised {n : NodeId} (h : ¬ ReleaseAccepted r.state t n) (now : Time)
    (reason : Option String) : ∃ e, r.releaseTask now t n reason = (.error e, r) := by
  rw [releaseTask, getTask]
  cases hx : r.state.tasks.get? t with
  | none => exact ⟨_, rfl⟩
  | some x =>
    dsimp only
    rw [if_pos fun ha => h ⟨x, hx, ha⟩]
    exact ⟨_, rfl⟩

theorem releaseTask_refused {n : NodeId} (h : ¬ ReleaseAccepted r.state t n)
    (reason : Option String) : (r.releaseTask now t n reason).2 = r := by
  obtain ⟨e, he⟩ := releaseTask_raised h now reason
  rw [he]

/-- The store after an accepted release. -/
def releasedState (r : TaskRouter) (now : Time) (t : TaskId) (reason : Option String) :
    ClusterState :=
  let state := (r.revokeLeaseOf t).state.setTaskStatus now t .ready
  { state with tasks := state.tasks.modify t (releasedFor now reason) (key_releasedFor now reason) }

theorem releaseTask_accepted (now : Time) {n : NodeId} (h : ReleaseAccepted r.state t n)
    (reason : Option String) :
    (r.releaseTask now t n reason).2.state = releasedState r now t reason := by
  obtain ⟨x, hx, ha⟩ := h
  simp only [releaseTask, getTask, hx, ha, ne_eq, not_true, if_false, releasedState]

theorem get?_releasedState (reason : Option String) :
    (releasedState r now t reason).tasks.get? k =
      if k = t then (r.state.tasks.get? k).map
        (fun x => releasedFor now reason (withStatus now .ready "" x))
      else r.state.tasks.get? k := by
  refine (Table.get?_modify _ _ (releasedFor now reason) (key_releasedFor now reason) _).trans ?_
  rw [get?_setTaskStatus, tasks_revokeLeaseOf]
  by_cases hk : k = t
  · rw [if_pos hk, if_pos hk, if_pos hk, Option.map_map]; rfl
  · rw [if_neg hk, if_neg hk, if_neg hk]

theorem scheduleTrigger_state : (r.scheduleTrigger now).2.state =
    ((r.state.triggerPendingTasks now).2.schedulePending now).2 := rfl

/-! ### What a request leaves alone -/

theorem leaseManager_revokeLeaseOf (t : TaskId) :
    (r.revokeLeaseOf t).leaseManager.isSome = r.leaseManager.isSome := by
  unfold revokeLeaseOf
  cases hm : r.leaseManager with
  | none => exact congrArg Option.isSome hm
  | some m =>
    cases hl : m.getByTask r.state t with
    | none => simp only [hl]; exact congrArg Option.isSome hm
    | some l => simp only [hl]; rfl

theorem leaseManager_handle (req : Request) :
    (r.handle now req).2.leaseManager.isSome = r.leaseManager.isSome := by
  cases req with
  | submit token title requires priority => rfl
  | complete t =>
    rw [handle]; unfold completeTask
    split
    · rfl
    · exact leaseManager_revokeLeaseOf t
  | fail t reason => rw [handle]; unfold failTask; split <;> rfl
  | unblock t => rw [handle]; unfold TaskRouter.unblockTask; simp only; split <;> rfl
  | advance t =>
    rw [handle]; unfold manualAdvance
    split
    · rfl
    · split <;> rfl
  | dependencies t deps => rw [handle]; unfold TaskRouter.setDependencies; split <;> rfl
  | claim token t n =>
    rw [handle]
    by_cases hc : ClaimAccepted r.state t
    · rw [claimTask_accepted hc]
      cases r.leaseManager <;> rfl
    · rw [claimTask_refused hc]
  | release t n reason =>
    rw [handle]; unfold releaseTask
    split
    · rfl
    · split
      · rfl
      · exact leaseManager_revokeLeaseOf t
  | trigger => rfl

theorem sameButTasks_submitTask (token title : String) (requires : List Capability)
    (priority : Int) :
    SameButTasks r.state (r.submitTask now token title requires priority).2.state := by
  have hcreate : SameButTasks r.state (submitted r.state now token title requires priority) :=
    ⟨rfl, rfl, rfl, rfl, rfl⟩
  exact hcreate.trans sameButTasks_triggerPendingTasks

/-- The lease of the task is revoked, and then only tasks change. -/
theorem sameButTasks_completeTask (now : Time) (hx : (r.state.tasks.get? t).isSome) :
    SameButTasks (r.revokeLeaseOf t).state (r.completeTask now t).2.state := by
  rw [completeTask_state, if_pos hx]
  exact ((sameButTasks_setTaskStatus _ _).trans sameButTasks_downstream).trans
    sameButTasks_schedulePending

theorem sameButTasks_failTask (r : TaskRouter) (now : Time) (t : TaskId) (reason : Option String) :
    SameButTasks r.state (r.failTask now t reason).2.state := by
  rw [failTask_state]
  split
  · exact (sameButTasks_setTaskStatus _ _).trans sameButTasks_blockDependents
  · exact SameButTasks.refl _

theorem sameButTasks_manualAdvance (r : TaskRouter) (now : Time) (t : TaskId) :
    SameButTasks r.state (r.manualAdvance now t).2.state := by
  by_cases ha : AdvanceAccepted r.state t
  · rw [manualAdvance_accepted now ha]
    exact (sameButTasks_setTaskStatus _ _).trans sameButTasks_schedulePending
  · rw [manualAdvance_refused ha]
    exact SameButTasks.refl _

theorem sameButTasks_scheduleTrigger : SameButTasks r.state (r.scheduleTrigger now).2.state :=
  sameButTasks_triggerPendingTasks.trans sameButTasks_schedulePending

/-- An update of one task makes no task without a name. -/
theorem unnamed_update {s s' : ClusterState} {f : Task → Task} (h : s.tasks.get? "" = none)
    (hget : ∀ k, s'.tasks.get? k = if k = t then (s.tasks.get? k).map f else s.tasks.get? k) :
    s'.tasks.get? "" = none := by
  rw [hget, h]
  exact ite_self _

/-- No request makes a task without a name. -/
theorem unnamed_handle (h : r.state.tasks.get? "" = none) (req : Request) :
    (r.handle now req).2.state.tasks.get? "" = none := by
  cases req with
  | submit token title requires priority =>
    have hne : "" ≠ generateId "task" token := (generateId_ne_empty "task" token).symm
    rw [handle, submitTask_state, get?_triggerPendingTasks, submitted, get?_createTask,
      if_neg hne, h]
    rfl
  | complete t =>
    rw [handle, completeTask_state]
    split
    · rw [get?_schedulePending, completedState, get?_downstream, get?_setTaskStatus,
        tasks_revokeLeaseOf, h]
      simp
    · exact h
  | fail t reason =>
    rw [handle, failTask_state]
    split
    · rw [get?_blockDependents, failedState, get?_setTaskStatus, h]
      simp
    · exact h
  | unblock t =>
    rw [handle, unblockTask_state]
    exact unnamed_update h fun k => get?_unblockTask
  | advance t =>
    rw [handle]
    by_cases ha : AdvanceAccepted r.state t
    · rw [manualAdvance_accepted now ha, get?_schedulePending, get?_setTaskStatus, h]
      simp
    · rw [manualAdvance_refused ha]
      exact h
  | dependencies t deps =>
    rw [handle, setDependencies_state]
    exact unnamed_update h fun k => get?_setDependencies deps
  | claim token t n =>
    rw [handle]
    by_cases hc : ClaimAccepted r.state t
    · exact unnamed_update h fun k => get?_claimTask hc token n
    · rw [claimTask_refused hc]
      exact h
  | release t n reason =>
    rw [handle]
    by_cases ha : ReleaseAccepted r.state t n
    · rw [releaseTask_accepted now ha]
      exact unnamed_update h fun k => get?_releasedState reason
    · rw [releaseTask_refused ha]
      exact h
  | trigger =>
    rw [handle, scheduleTrigger_state, get?_schedulePending, get?_triggerPendingTasks, h]
    rfl

end TaskRouter

end HermesCluster
