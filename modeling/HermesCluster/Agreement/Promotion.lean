import HermesCluster.Core.Resolver
import HermesCluster.Routers.Spec
import HermesCluster.State.Agrees
import HermesCluster.State.Failures

/-!
# The paths that promote a task

A pending task is made ready by `resolve_dependencies` of the resolver, by
`trigger_pending_tasks` of either store, by the advance handler and by `_trigger_downstream`.
All of them ask that every dependency is there and completed (`allDone`).  The resolver also
decodes the rows it reads, which the others do not.

`promotion_agrees_iff`: so the five agree on a task unless it is due and the store cannot read
its version or that of a dependency.
-/

namespace HermesCluster

open WorkflowResolver

/-- The tables of the two stores hold the same tasks. -/
def HoldsTasks (store : ClusterStore) (state : ClusterState) : Prop :=
  ∀ k, store.tasks.get? k = (state.tasks.get? k).map rowOf

/-- Tables that hold the same tasks row by row do so by key. -/
theorem HoldsTasks.of_rows {store : ClusterStore} {state : ClusterState}
    (h : store.tasks.rows = state.tasks.rows.map rowOf) : HoldsTasks store state := by
  intro k
  rw [Table.get?, Table.get?, h, List.find?_map]
  rfl

inductive PromotionPath
  | resolveDependencies
  | stateTrigger
  | storeTrigger
  | advance
  | downstream (completed : TaskId)
deriving DecidableEq, Repr

namespace PromotionPath

/-- Whether the path makes the task ready; the last two before they schedule. -/
def Readies (now : Time) (store : ClusterStore) (r : TaskRouter) (t : TaskId) :
    PromotionPath → Prop
  | resolveDependencies =>
    ((WorkflowResolver.resolveDependencies now t).run store).2.statusOf t =
      some TaskStatus.ready.value
  | stateTrigger =>
    ((r.state.triggerPendingTasks now).2.tasks.get? t).map Task.status = some .ready
  | storeTrigger => (store.triggerPendingTasks now).2.statusOf t = some TaskStatus.ready.value
  | advance => (r.manualAdvance now t).1 = .ok (.status "advanced")
  | downstream completed =>
    ((TaskRouter.downstream r.state now completed).tasks.get? t).map Task.status = some .ready

/-- `_trigger_downstream` looks at the dependents of its task. -/
def LooksAt (x : Task) : PromotionPath → Prop
  | downstream completed => completed ∈ x.dependsOn
  | _ => True

end PromotionPath

/-! ### The resolver -/

namespace ClusterStore

/-- `get_task` reads a completed task. -/
def ReadsCompleted (s : ClusterStore) (d : TaskId) : Prop :=
  ∃ r, s.tasks.get? d = some r ∧ decodes r = true ∧ r.status = TaskStatus.completed.value

end ClusterStore

open ClusterStore

variable {s : ClusterStore} {now : Time} {t : TaskId}

/-- The loop over the dependencies finds all of them completed. -/
theorem run_checkDependencies_iff (deps : List TaskId) (allDone : Bool) :
    ((checkDependencies deps allDone).run s).1 = .ok (true, false) ↔
      allDone = true ∧ ∀ d ∈ deps, s.ReadsCompleted d := by
  induction deps generalizing allDone with
  | nil =>
    refine ⟨fun h => ?_, fun h => ?_⟩
    · cases h
      exact ⟨rfl, fun d hd => by cases hd⟩
    · rw [h.1]
      rfl
  | cons d deps ih =>
    rw [List.forall_mem_cons]
    cases hr : s.tasks.get? d with
    | none =>
      rw [run_check_cons (getTask_of_none hr), Option.any_none, if_neg Bool.false_ne_true,
        Option.any_none, Bool.and_false, ih]
      refine iff_of_false (fun h => by cases h.1) ?_
      rintro ⟨-, ⟨r, hr', -⟩, -⟩
      rw [hr] at hr'
      cases hr'
    | some r =>
      have hreads : s.ReadsCompleted d ↔
          decodes r = true ∧ r.status = TaskStatus.completed.value := by
        rw [ReadsCompleted, hr]
        simp
      rw [hreads]
      by_cases hd : decodes r = true
      · rw [run_check_cons (getTask_of_some hr hd), Option.any_some, Option.any_some,
          readRow_status hd, TaskStatus.value_inj, and_iff_right hd]
        by_cases hf : (readRow r).status = .failed
        · rw [if_pos (decide_eq_true hf), hf]
          exact iff_of_false (fun h => by cases h) fun h => by cases h.2.1
        · rw [if_neg (by simpa using hf), ih, Bool.and_eq_true, decide_eq_true_eq, and_assoc]
      · obtain ⟨e, he⟩ := getTask_raises hr hd
        rw [checkDependencies, Prog.run_bind_error _ (Session.run_getTask_error he)]
        exact iff_of_false (fun h => by cases h) fun h => hd h.2.1.1

/-- Of the three ways to go on after the loop only one makes the task ready. -/
theorem ready_of_checked {r : TaskRow} (hr : s.tasks.get? t = some r)
    (hp : r.status = TaskStatus.pending.value) (checked : Bool × Bool) :
    ((if checked.2 then do
        let _ ← Session.setTaskStatus now t .blocked "dependency failed"
        return false
      else if checked.1 then do
        let _ ← Session.setTaskStatus now t .ready
        return true
      else return false : Session Bool).run s).2.statusOf t = some TaskStatus.ready.value ↔
      checked = (true, false) := by
  have hset : ∀ (status : TaskStatus) (reason : String),
      (s.setTaskStatus now t status reason).statusOf t = some status.value := by
    intro status reason
    rw [statusOf, get?_setTaskStatus, if_pos rfl, hr]
    rfl
  obtain ⟨allDone, failed⟩ := checked
  cases failed with
  | true =>
    refine iff_of_false (fun h => ?_) fun h => by cases h
    have hblocked : some TaskStatus.blocked.value = some TaskStatus.ready.value :=
      (hset .blocked "dependency failed").symm.trans h
    exact absurd hblocked (by decide)
  | false =>
    cases allDone with
    | true => exact iff_of_true (hset .ready "") rfl
    | false =>
      refine iff_of_false (fun h => ?_) fun h => by cases h
      have hpending : s.statusOf t = some TaskStatus.ready.value := h
      rw [statusOf, hr, Option.map_some, hp] at hpending
      exact absurd hpending (by decide)

variable (now) in
/-- **The resolver** makes a pending task ready if it can read the task and reads all its
dependencies as completed. -/
theorem ready_resolveDependencies_iff {r : TaskRow} (hr : s.tasks.get? t = some r)
    (hp : r.status = TaskStatus.pending.value) :
    ((resolveDependencies now t).run s).2.statusOf t = some TaskStatus.ready.value ↔
      decodes r = true ∧ ∀ d ∈ r.dependsOn, s.ReadsCompleted d := by
  have hwait : s.statusOf t ≠ some TaskStatus.ready.value := by
    rw [statusOf, hr, Option.map_some, hp]
    decide
  obtain rfl : r.id = t := Table.key_of_get? hr
  by_cases hd : decodes r = true
  · have hiff := run_checkDependencies_iff (s := s) r.dependsOn true
    have hsame := run_checkDependencies_snd r.dependsOn true s
    rw [and_iff_right hd, run_resolve_pending hr hd hp]
    rcases hcheck : (checkDependencies r.dependsOn true).run s with ⟨e | checked, s₁⟩
    · rw [hcheck] at hiff hsame
      obtain rfl : s₁ = s := hsame
      rw [Prog.run_bind_error _ hcheck]
      exact iff_of_false hwait fun h => by cases hiff.mpr ⟨rfl, h⟩
    · rw [hcheck] at hiff hsame
      obtain rfl : s₁ = s := hsame
      rw [Prog.run_bind_ok _ hcheck, ready_of_checked hr hp]
      have hok : (Except.ok checked : Except PyError (Bool × Bool)) = .ok (true, false) ↔
          checked = (true, false) := Except.ok.injEq checked (true, false) ▸ Iff.rfl
      rw [← hok, hiff, and_iff_right rfl]
  · obtain ⟨e, he⟩ := getTask_raises hr hd
    rw [resolveDependencies, Prog.run_bind_error _ (Session.run_getTask_error he)]
    exact iff_of_false hwait fun h => hd h.1

/-! ### The other paths -/

namespace HoldsTasks

variable {store : ClusterStore} {state : ClusterState} {x : Task}

theorem completed_iff (h : HoldsTasks store state) (d : TaskId) :
    store.Completed d ↔ state.Completed d := by
  rw [ClusterStore.Completed, ClusterState.Completed, h]
  cases state.tasks.get? d with
  | none => simp
  | some y =>
    simp only [Option.map_some, Option.some.injEq, exists_eq_left']
    exact status_rowOf

theorem allDone (h : HoldsTasks store state) (deps : List TaskId) :
    store.allDone deps = state.allDone deps := by
  rw [Bool.eq_iff_iff, ClusterStore.allDone_iff, ClusterState.allDone_iff]
  exact forall₂_congr fun d _ => h.completed_iff d

theorem decodes_rowOf (x : Task) : decodes (rowOf x) = true ↔ fits64 x.version = true := by
  rw [decodes_iff]
  refine ⟨?_, fun h => ⟨x.status, rfl, h⟩⟩
  rintro ⟨-, -, h⟩
  exact h

/-- A completed dependency is read as such if its version fits. -/
theorem readsCompleted_iff (h : HoldsTasks store state) (d : TaskId) :
    store.ReadsCompleted d ↔
      state.Completed d ∧ ∀ y, state.tasks.get? d = some y → fits64 y.version = true := by
  rw [ReadsCompleted, ClusterState.Completed, h]
  cases state.tasks.get? d with
  | none => simp
  | some y =>
    simp only [Option.map_some, Option.some.injEq, exists_eq_left', forall_eq']
    rw [decodes_rowOf, status_rowOf, and_comm]

end HoldsTasks

namespace PromotionPath

variable {store : ClusterStore} {r : TaskRouter} {x : Task}

/-- The versions the resolver reads on the way fit in 64 bits. -/
def Readable (state : ClusterState) (x : Task) : Prop :=
  fits64 x.version = true ∧
    ∀ d ∈ x.dependsOn, ∀ y, state.tasks.get? d = some y → fits64 y.version = true

variable (now) in
theorem readies_resolveDependencies (h : HoldsTasks store r.state)
    (hx : r.state.tasks.get? t = some x) (hp : x.status = .pending) :
    resolveDependencies.Readies now store r t ↔
      r.state.allDone x.dependsOn ∧ Readable r.state x := by
  have hrow : store.tasks.get? t = some (rowOf x) := by rw [h, hx]; rfl
  have hiff := ready_resolveDependencies_iff now hrow (status_rowOf.mpr hp)
  rw [Readies, hiff, HoldsTasks.decodes_rowOf, ClusterState.allDone_iff, Readable, and_left_comm]
  refine and_congr_right fun _ => ?_
  rw [← forall₂_and]
  exact forall₂_congr fun d _ => h.readsCompleted_iff d

theorem readies_stateTrigger (hx : r.state.tasks.get? t = some x) (hp : x.status = .pending) :
    stateTrigger.Readies now store r t ↔ r.state.allDone x.dependsOn := by
  rw [Readies, ClusterState.get?_triggerPendingTasks, hx, Option.map_some, Option.map_some,
    ClusterState.promoted_status, Option.some.injEq]
  by_cases hd : r.state.allDone x.dependsOn = true
  · rw [if_pos ⟨hp, hd⟩]
    exact iff_of_true rfl hd
  · rw [if_neg fun h => hd h.2, hp]
    exact iff_of_false (by decide) hd

theorem readies_storeTrigger (h : HoldsTasks store r.state) (hx : r.state.tasks.get? t = some x)
    (hp : x.status = .pending) :
    storeTrigger.Readies now store r t ↔ r.state.allDone x.dependsOn := by
  have hst : (rowOf x).status = TaskStatus.pending.value := status_rowOf.mpr hp
  rw [Readies, statusOf, ClusterStore.get?_triggerPendingTasks, h, hx, Option.map_some,
    Option.map_some, Option.map_some, Option.some.injEq, ClusterStore.promoted_status_ready, hst,
    ← h.allDone]
  exact ⟨fun hr => hr.elim (fun he => absurd he (by decide)) fun hd => hd.2,
    fun hd => Or.inr ⟨rfl, hd⟩⟩

theorem readies_advance (hx : r.state.tasks.get? t = some x) :
    advance.Readies now store r t ↔ r.state.allDone x.dependsOn := by
  rw [Readies, TaskRouter.manualAdvance, ClusterState.getTask, hx]
  dsimp only
  by_cases hd : r.state.allDone x.dependsOn = true
  · rw [if_neg fun h => h.2 hd]
    exact iff_of_true rfl hd
  · have hne : x.dependsOn ≠ [] := by
      intro he
      rw [he] at hd
      exact hd rfl
    rw [if_pos ⟨hne, hd⟩]
    exact iff_of_false (fun h => by cases h) hd

theorem readies_downstream {c : TaskId} (hx : r.state.tasks.get? t = some x)
    (hp : x.status = .pending) (hc : c ∈ x.dependsOn) :
    (downstream c).Readies now store r t ↔ r.state.allDone x.dependsOn := by
  rw [Readies, TaskRouter.get?_downstream, hx, Option.map_some, Option.map_some,
    TaskRouter.downstreamed, Option.some.injEq]
  by_cases hd : r.state.allDone x.dependsOn = true
  · rw [if_pos ⟨hc, hp, hd⟩]
    exact iff_of_true rfl hd
  · rw [if_neg fun h => hd h.2.2, hp]
    exact iff_of_false (by decide) hd

/-- Every path but the resolver asks for `allDone` and nothing else. -/
theorem readies_iff_allDone (h : HoldsTasks store r.state) (hx : r.state.tasks.get? t = some x)
    (hp : x.status = .pending) {p : PromotionPath} (hl : p.LooksAt x)
    (hne : p ≠ resolveDependencies) :
    p.Readies now store r t ↔ r.state.allDone x.dependsOn := by
  cases p with
  | resolveDependencies => exact absurd rfl hne
  | stateTrigger => exact readies_stateTrigger hx hp
  | storeTrigger => exact readies_storeTrigger h hx hp
  | advance => exact readies_advance hx
  | downstream c => exact readies_downstream hx hp hl

/-- The paths that look at the task agree on whether it becomes ready. -/
def PathsAgree (now : Time) (store : ClusterStore) (r : TaskRouter) (t : TaskId) (x : Task) :
    Prop :=
  ∀ p q : PromotionPath, p.LooksAt x → q.LooksAt x →
    (p.Readies now store r t ↔ q.Readies now store r t)

end PromotionPath

open PromotionPath

/-- **The promotion paths agree** on a pending task exactly if it is not due or the resolver
can read it and its dependencies. -/
theorem promotion_agrees_iff {store : ClusterStore} {r : TaskRouter} {x : Task}
    (h : HoldsTasks store r.state) (hx : r.state.tasks.get? t = some x)
    (hp : x.status = .pending) :
    PathsAgree now store r t x ↔
      (r.state.allDone x.dependsOn → fits64 x.version = true ∧
        ∀ d ∈ x.dependsOn, ∀ y, r.state.tasks.get? d = some y → fits64 y.version = true) := by
  have hres := readies_resolveDependencies now h hx hp
  refine ⟨fun hagree hd => ?_, fun hread p q hl hl' => ?_⟩
  · have hready := (hagree .resolveDependencies .stateTrigger trivial trivial).mpr
      ((readies_stateTrigger hx hp).mpr hd)
    exact (hres.mp hready).2
  · have hall : ∀ p : PromotionPath, p.LooksAt x →
        (p.Readies now store r t ↔ r.state.allDone x.dependsOn) := by
      intro p hl
      by_cases hne : p = .resolveDependencies
      · rw [hne]
        exact hres.trans ⟨fun hd => hd.1, fun hd => ⟨hd, hread hd⟩⟩
      · exact readies_iff_allDone h hx hp hl hne
    exact (hall p hl).trans (hall q hl').symm

/-! ### A task that waits for one whose version has run over -/

/-- What two sync messages say of the tasks `task_c` and `task_t`. -/
def farTask : TaskSync :=
  { taskId := "task_c", title := "collect", status := "running", version := 9223372036854775807 }

def dueTask : TaskSync :=
  { taskId := "task_t", title := "train", status := "pending", version := 1 }

/-- Both tasks are synced, `task_t` is given its dependency, and `task_c` completes. -/
def overState : ClusterState :=
  ((((({} : ClusterState).applyTaskState 1 farTask).applyTaskState 1 dueTask).setDependencies 2
    "task_t" ["task_c"]).setTaskStatus 3 "task_c" .completed)

def overStore : ClusterStore :=
  ((((({} : ClusterStore).applyTaskState 1 farTask).applyTaskState 1 dueTask).setDependencies 2
    "task_t" ["task_c"]).setTaskStatus 3 "task_c" .completed)

def overRouter : TaskRouter := { state := overState }

/-- The task that waits. -/
def overDue : Task :=
  { id := "task_t", title := "train", dependsOn := ["task_c"], status := .pending,
    createdAt := 1, updatedAt := 2, version := 2 }

/-- The triggers make `task_t` ready and the resolver does not. -/
theorem resolver_disagrees :
    HoldsTasks overStore overState ∧ overState.tasks.get? "task_t" = some overDue ∧
      overDue.status = .pending ∧
      ¬ PathsAgree 4 overStore overRouter "task_t" overDue := by
  refine ⟨HoldsTasks.of_rows (by decide +kernel), by decide +kernel, rfl, fun h => ?_⟩
  have hstore : PromotionPath.storeTrigger.Readies 4 overStore overRouter "task_t" := by
    rw [Readies]
    decide +kernel
  have hres : ¬ PromotionPath.resolveDependencies.Readies 4 overStore overRouter "task_t" := by
    rw [Readies]
    decide +kernel
  exact hres ((h .resolveDependencies .storeTrigger trivial trivial).mpr hstore)

/-- `promotion_agrees_iff` at these tables. -/
theorem promotion_agrees_overDue :
    PathsAgree 4 overStore overRouter "task_t" overDue ↔
      (overRouter.state.allDone overDue.dependsOn → fits64 overDue.version = true ∧
        ∀ d ∈ overDue.dependsOn, ∀ y, overRouter.state.tasks.get? d = some y →
          fits64 y.version = true) :=
  promotion_agrees_iff (HoldsTasks.of_rows (by decide +kernel)) (by decide +kernel) rfl

end HermesCluster
