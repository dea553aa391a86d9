import HermesCluster.Lib.Run
import HermesCluster.Routers.Spec

/-!
# Failure propagation

`fail_task` is to block whatever depends on the task that failed, and it answers with the
list of those dependents.  Its loop blocks the pending ones; the list names them all.  A
dependent that was ready when its dependencies were set stays ready, and one that runs, is
over or is the failed task itself is reported as blocked all the same.
-/

namespace HermesCluster.TaskRouter

open ClusterState Run

variable {r : TaskRouter} {s : ClusterState} {now : Time} {t k : TaskId} {reason : Option String}

/-- No task that depends on `t` may still be started. -/
def DependentsHeld (s : ClusterState) (t : TaskId) : Prop :=
  ∀ k y, s.tasks.get? k = some y → t ∈ y.dependsOn → y.status ≠ .pending ∧ y.status ≠ .ready

/-- `k` names a blocked task. -/
def Blocked (s : ClusterState) (k : TaskId) : Prop :=
  ∃ y, s.tasks.get? k = some y ∧ y.status = .blocked

/-- After the failure of `t` its dependents are held, and the answer lists blocked tasks. -/
def FailurePropagated (r : TaskRouter) (now : Time) (t : TaskId) (reason : Option String) : Prop :=
  DependentsHeld (r.failTask now t reason).2.state t ∧
    ∃ blocked, (r.failTask now t reason).1 = .ok (.failed blocked) ∧
      ∀ k ∈ blocked, Blocked (r.failTask now t reason).2.state k

/-- What `fail_task` makes of the task under `k`. -/
def failed (now : Time) (t : TaskId) (reason : Option String) (k : TaskId) (x : Task) : Task :=
  blockedBy now t (if k = t then withStatus now .failed (reason.getD "failed") x else x)

/-- The status the failure of `t` leaves the task under `k` with. -/
theorem failed_status (x : Task) : (failed now t reason k x).status =
    if k = t then .failed
    else if t ∈ x.dependsOn ∧ x.status = .pending then .blocked else x.status := by
  rw [failed, blockedBy]
  by_cases hk : k = t
  · simp [hk, withStatus]
  · rw [if_neg hk, if_neg hk]
    split
    · rfl
    · rfl

theorem failed_dependsOn (x : Task) : (failed now t reason k x).dependsOn = x.dependsOn := by
  rw [failed, blockedBy]
  by_cases hk : k = t
  · rw [if_pos hk]
    split
    · rfl
    · rfl
  · rw [if_neg hk]
    split
    · rfl
    · rfl

theorem get?_failTask (h : (r.state.tasks.get? t).isSome) :
    (r.failTask now t reason).2.state.tasks.get? k =
      (r.state.tasks.get? k).map (failed now t reason k) := by
  rw [failTask_state, if_pos h, get?_blockDependents, failedState, get?_setTaskStatus]
  by_cases hk : k = t
  · rw [if_pos hk, Option.map_map]
    congr 1
    funext x
    rw [failed, if_pos hk]
    rfl
  · rw [if_neg hk]
    congr 1
    funext x
    rw [failed, if_neg hk]

/-- The answer lists the dependents of `t`, as they were before the failure. -/
theorem failTask_answer (now : Time) (reason : Option String)
    (h : (r.state.tasks.get? t).isSome) :
    ∃ blocked, (r.failTask now t reason).1 = .ok (.failed blocked) ∧
      ∀ k, k ∈ blocked ↔ ∃ x, r.state.tasks.get? k = some x ∧ t ∈ x.dependsOn := by
  obtain ⟨y, hy⟩ := Option.isSome_iff_exists.mp h
  refine ⟨(failedState r.state now t reason).getDependents t, ?_, fun k => ?_⟩
  · rw [failTask, getTask, hy]
    rfl
  · rw [mem_getDependents, failedState, get?_setTaskStatus]
    by_cases hk : k = t
    · rw [if_pos hk]
      simp [withStatus]
    · rw [if_neg hk]

def Waiting (x : Task) : Prop := x.status = .pending ∨ x.status = .blocked

/-- The failure of `t` leaves its dependent `x` under `k` blocked. -/
def Blockable (t k : TaskId) (x : Task) : Prop := k ≠ t ∧ Waiting x

theorem failed_blocked_iff {x : Task} (ht : t ∈ x.dependsOn) :
    (failed now t reason k x).status = .blocked ↔ Blockable t k x := by
  rw [failed_status, Blockable, Waiting]
  by_cases hk : k = t
  · simp [hk]
  · by_cases hp : x.status = .pending
    · simp [hk, ht, hp]
    · simp [hk, hp]

/-- The answer lists all the dependents, so a failure that propagates blocks each of them. -/
theorem blockable_of_propagated (hp : FailurePropagated r now t reason)
    (h : (r.state.tasks.get? t).isSome) {x : Task} (hx : r.state.tasks.get? k = some x)
    (ht : t ∈ x.dependsOn) : Blockable t k x := by
  obtain ⟨blocked, hans, hmem⟩ := failTask_answer now reason h
  obtain ⟨-, listed, hlisted, hblocked⟩ := hp
  obtain rfl : blocked = listed := by
    rw [hans] at hlisted
    injection hlisted with hlisted
    injection hlisted
  obtain ⟨y, hy, hstatus⟩ := hblocked k ((hmem k).mpr ⟨x, hx, ht⟩)
  rw [get?_failTask h, hx, Option.map_some] at hy
  obtain rfl := Option.some.inj hy
  exact (failed_blocked_iff ht).mp hstatus

/-- **Failure propagation.**  In every store, the failure of an existing task holds its
dependents, and the answer tells the truth about them, exactly when each of them is another
task that is pending or blocked. -/
theorem failure_propagated_iff (r : TaskRouter) (now : Time) (t : TaskId)
    (reason : Option String) (h : (r.state.tasks.get? t).isSome) :
    FailurePropagated r now t reason ↔
      ∀ k x, r.state.tasks.get? k = some x → t ∈ x.dependsOn → Blockable t k x := by
  obtain ⟨blocked, hans, hmem⟩ := failTask_answer now reason h
  refine ⟨fun hp k x hx ht => blockable_of_propagated hp h hx ht,
    fun hall => ⟨?_, blocked, hans, ?_⟩⟩
  · intro k y hy ht
    rw [get?_failTask h] at hy
    obtain ⟨x, hx, rfl⟩ := Option.map_eq_some_iff.mp hy
    rw [failed_dependsOn] at ht
    rw [(failed_blocked_iff ht).mpr (hall k x hx ht)]
    decide
  · intro k hk
    obtain ⟨x, hx, ht⟩ := (hmem k).mp hk
    refine ⟨failed now t reason k x, ?_, (failed_blocked_iff ht).mpr (hall k x hx ht)⟩
    rw [get?_failTask h, hx, Option.map_some]

/-- A store in which `task_b` waits for `task_a`. -/
def waitingStore : ClusterState :=
  let build := newTask 1 "task_a" "build" [] 3
  let deploy := newTask 2 "task_b" "deploy" [] 3
  { tasks := (Table.empty.put build).put { deploy with dependsOn := ["task_a"] } }

/-- The failure of `task_a` blocks `task_b`. -/
theorem failure_propagated_waitingStore :
    FailurePropagated { state := waitingStore } 3 "task_a" none := by
  refine (failure_propagated_iff { state := waitingStore } 3 "task_a" none (by decide)).mpr ?_
  intro k x hx ht
  have hrows : ∀ x ∈ waitingStore.tasks.rows, "task_a" ∈ x.dependsOn →
      x.id ≠ "task_a" ∧ (x.status = .pending ∨ x.status = .blocked) := by decide
  exact Table.key_of_get? hx ▸ hrows x (Table.mem_of_get? hx) ht

/-- A task that was ready before its dependency was set is still ready when the dependency
has failed, and the answer calls it blocked. -/
theorem failure_not_propagated :
    let r := exec step init [(1, .submit "a" "build" [] 3), (2, .submit "b" "deploy" [] 3),
      (3, .dependencies "task_b" ["task_a"])]
    (r.state.tasks.get? "task_a").isSome ∧
      (r.failTask 4 "task_a" (some "broken")).1 = .ok (.failed ["task_b"]) ∧
      ((r.failTask 4 "task_a" (some "broken")).2.state.tasks.get? "task_b").map Task.status =
        some .ready ∧
      ¬ FailurePropagated r 4 "task_a" (some "broken") := by
  refine ⟨by decide, by decide, by decide, ?_⟩
  rintro ⟨hheld, -⟩
  exact (hheld "task_b" _ rfl (by decide)).2 (by decide)

/-! ### What the router itself can reach -/

/-- No task waits. -/
def NoneWaiting (s : ClusterState) : Prop := ∀ k x, s.tasks.get? k = some x → ¬ Waiting x

theorem not_waiting_of_status {x : Task} {status : TaskStatus} (h : x.status = status)
    (hp : status ≠ .pending) (hb : status ≠ .blocked) : ¬ Waiting x := by
  rintro (hx | hx)
  · exact hp (h.symm.trans hx)
  · exact hb (h.symm.trans hx)

/-- An update that makes no task wait. -/
theorem noneWaiting_of_map {s' : ClusterState} {f : TaskId → Task → Task} (h : NoneWaiting s)
    (hget : ∀ k, s'.tasks.get? k = (s.tasks.get? k).map (f k))
    (hf : ∀ k x, ¬ Waiting x → ¬ Waiting (f k x)) : NoneWaiting s' := by
  intro k y hy
  rw [hget] at hy
  obtain ⟨x, hx, rfl⟩ := Option.map_eq_some_iff.mp hy
  exact hf k x (h k x hx)

/-- An update of one task that makes it not wait. -/
theorem noneWaiting_of_update {s' : ClusterState} {f : Task → Task} (h : NoneWaiting s)
    (hget : ∀ k, s'.tasks.get? k = if k = t then (s.tasks.get? k).map f else s.tasks.get? k)
    (hf : ∀ x, ¬ Waiting x → ¬ Waiting (f x)) : NoneWaiting s' := by
  refine noneWaiting_of_map (f := fun k x => if k = t then f x else x) h (fun k => ?_) ?_
  · rw [hget]
    by_cases hk : k = t
    · simp [hk]
    · simp [hk]
  · intro k x hx
    by_cases hk : k = t
    · rw [if_pos hk]
      exact hf x hx
    · rw [if_neg hk]
      exact hx

theorem noneWaiting_setTaskStatus {status : TaskStatus} (h : NoneWaiting s)
    (hp : status ≠ .pending) (hb : status ≠ .blocked) (text : String) :
    NoneWaiting (s.setTaskStatus now t status text) :=
  noneWaiting_of_update h (fun _ => get?_setTaskStatus status text)
    fun _ _ => not_waiting_of_status rfl hp hb

theorem noneWaiting_schedulePending (h : NoneWaiting s) :
    NoneWaiting (s.schedulePending now).2 := by
  refine noneWaiting_of_map h (fun _ => get?_schedulePending) fun _ x hx => ?_
  rw [Waiting, scheduled_status]
  split
  · simp
  · exact hx

theorem not_waiting_promoted {x : Task} (hx : ¬ Waiting x) : ¬ Waiting (s.promoted now x) := by
  rw [Waiting, promoted_status]
  split
  · simp
  · exact hx

theorem noneWaiting_triggerPendingTasks (h : NoneWaiting s) :
    NoneWaiting (s.triggerPendingTasks now).2 :=
  noneWaiting_of_map h (fun _ => get?_triggerPendingTasks) fun _ _ => not_waiting_promoted

theorem noneWaiting_downstream (h : NoneWaiting s) : NoneWaiting (downstream s now t) := by
  refine noneWaiting_of_map h (fun _ => get?_downstream) fun _ x hx => ?_
  rw [downstreamed]
  split
  · exact not_waiting_of_status (rfl : _ = TaskStatus.ready) (by decide) (by decide)
  · exact hx

/-- The only task a request creates is promoted at once. -/
theorem noneWaiting_submitTask (h : NoneWaiting r.state) (token title : String)
    (requires : List Capability) (priority : Int) :
    NoneWaiting (r.submitTask now token title requires priority).2.state := by
  intro k y hy
  rw [submitTask_state, get?_triggerPendingTasks, submitted, get?_createTask] at hy
  obtain ⟨x, hx, rfl⟩ := Option.map_eq_some_iff.mp hy
  by_cases hk : k = generateId "task" token
  · rw [if_pos hk] at hx
    obtain rfl := Option.some.inj hx
    rw [Waiting, promoted_status]
    simp [newTask, allDone]
  · rw [if_neg hk] at hx
    exact not_waiting_promoted (h k x hx)

theorem noneWaiting_step (h : NoneWaiting r.state) (req : Time × Request) :
    NoneWaiting (r.step req).state := by
  obtain ⟨now, req⟩ := req
  rw [step]
  cases req with
  | submit token title requires priority => exact noneWaiting_submitTask h _ _ _ _
  | complete t =>
    rw [handle, completeTask_state]
    split
    · have hr : NoneWaiting (r.revokeLeaseOf t).state := by
        intro k x hx
        rw [tasks_revokeLeaseOf] at hx
        exact h k x hx
      exact noneWaiting_schedulePending
        (noneWaiting_downstream (noneWaiting_setTaskStatus hr (by decide) (by decide) _))
    · exact h
  | fail t reason =>
    by_cases ht : (r.state.tasks.get? t).isSome
    · refine noneWaiting_of_map h (fun _ => get?_failTask ht) fun k x hx => ?_
      have hp : x.status ≠ .pending := fun hp => hx (.inl hp)
      rw [Waiting, failed_status]
      by_cases hk : k = t
      · simp [hk]
      · simpa [hk, hp] using fun hb => hx (.inr hb)
    · rw [handle, failTask_state, if_neg ht]
      exact h
  | unblock t =>
    rw [handle, unblockTask_state]
    refine noneWaiting_of_update h (fun _ => get?_unblockTask) fun x hx => ?_
    rw [if_neg fun hb => hx (.inr hb)]
    exact hx
  | advance t =>
    rw [handle]
    by_cases ha : AdvanceAccepted r.state t
    · rw [manualAdvance_accepted now ha]
      exact noneWaiting_schedulePending
        (noneWaiting_setTaskStatus h (by decide) (by decide) _)
    · rw [manualAdvance_refused ha]
      exact h
  | dependencies t deps =>
    rw [handle, setDependencies_state]
    exact noneWaiting_of_update h (fun _ => get?_setDependencies deps) fun _ hx => hx
  | claim token t n =>
    rw [handle]
    by_cases hc : ClaimAccepted r.state t
    · exact noneWaiting_of_update h (fun _ => get?_claimTask hc token n)
        fun _ _ => not_waiting_of_status (rfl : _ = TaskStatus.running) (by decide) (by decide)
    · rw [claimTask_refused hc]
      exact h
  | release t n reason =>
    rw [handle]
    by_cases ha : ReleaseAccepted r.state t n
    · rw [releaseTask_accepted now ha]
      exact noneWaiting_of_update h (fun _ => get?_releasedState reason)
        fun _ _ => not_waiting_of_status (rfl : _ = TaskStatus.ready) (by decide) (by decide)
    · rw [releaseTask_refused ha]
      exact h
  | trigger =>
    rw [handle, scheduleTrigger_state]
    exact noneWaiting_schedulePending (noneWaiting_triggerPendingTasks h)

/-- In a store only the router has written to, no task ever waits. -/
theorem noneWaiting_run (nodes : Table Node) (run : List (Time × Request)) :
    NoneWaiting (exec step (initWith nodes) run).state := by
  refine List.foldlRecOn (motive := fun r => NoneWaiting r.state) run step ?_
    fun r h req _ => noneWaiting_step h req
  intro k x hx
  cases hx

/-- **After any run of requests** the failure of a task that another depends on does not
propagate. -/
theorem not_propagated_run (nodes : Table Node) (run : List (Time × Request)) (now : Time)
    (reason : Option String) {x : Task}
    (hs : ((exec step (initWith nodes) run).state.tasks.get? t).isSome)
    (hx : (exec step (initWith nodes) run).state.tasks.get? k = some x) (ht : t ∈ x.dependsOn) :
    ¬ FailurePropagated (exec step (initWith nodes) run) now t reason := by
  intro hp
  exact noneWaiting_run nodes run k x hx (blockable_of_propagated hp hs hx ht).2

end HermesCluster.TaskRouter
