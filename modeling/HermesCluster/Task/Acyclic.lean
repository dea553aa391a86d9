import HermesCluster.Lib.Dag
import HermesCluster.Lib.Run
import HermesCluster.State.TaskSpec
import HermesCluster.Task.Spec

/-!
# The graph of the dependencies

Four methods write `depends_on`: `create_task` and `set_dependencies` of the two states, and
`create_task` and `update_task` of `TaskManager` over either.  None of them looks for a cycle.
Whatever the state, such a request replaces the list of one task or leaves all lists as they
are (`depsOf_step`, for both), so a run from the empty state keeps the graph acyclic exactly if
each request does that declares dependencies reaching their own task (`dag_iff`).
-/

namespace HermesCluster

open Relation

/-- A request that may write dependencies. -/
inductive DependencyRequest
  | createTask (taskId : TaskId) (title : String) (requires : List Capability) (priority : Int)
  | setDependencies (taskId : TaskId) (dependsOn : List TaskId)
  | managerCreateTask (token title : String) (requires : List Capability) (priority : Int)
    (dependsOn : List TaskId) (assignTo : Option NodeId)
  | managerUpdateTask (taskId : TaskId) (title : Option String) (priority : Option Int)
    (requires : Option (List Capability)) (dependsOn : Option (List TaskId))
deriving DecidableEq, Repr

/-! ### Dependency lists -/

/-- The graph of a family of dependency lists: an edge from each task to its dependencies. -/
def DependsOn (deps : TaskId → List TaskId) (t d : TaskId) : Prop := d ∈ deps t

/-- The lists after a request that declares these, for this task. -/
def declared (deps : TaskId → List TaskId) : Option (TaskId × List TaskId) → TaskId → List TaskId
  | none => deps
  | some (t, l) => Function.update deps t l

/-- No dependency that the request declares depends on the task it declares it for. -/
def NoCycle (deps : TaskId → List TaskId) : Option (TaskId × List TaskId) → Prop
  | none => True
  | some (t, l) => ∀ d ∈ l, ¬ ReflTransGen (DependsOn deps) d t

theorem acyclic_declared_iff {deps : TaskId → List TaskId} (h : Dag.Acyclic (DependsOn deps))
    (w : Option (TaskId × List TaskId)) :
    Dag.Acyclic (DependsOn (declared deps w)) ↔ NoCycle deps w := by
  cases w with
  | none => exact ⟨fun _ => trivial, fun _ => h⟩
  | some w =>
    obtain ⟨t, l⟩ := w
    rw [NoCycle, ← Dag.acyclic_redirect_iff h]
    refine Dag.acyclic_congr fun a b => ?_
    by_cases ha : a = t
    · subst ha
      simp [DependsOn, declared, Dag.Redirect]
    · simp [DependsOn, declared, Dag.Redirect, ha]

/-- The graph of the dependencies has no cycle in any state of the run, and a request that
would make one changes nothing. -/
def StaysDag {σ ι : Type} (step : σ → ι → σ) (deps : σ → TaskId → List TaskId)
    (declares : σ → ι → Option (TaskId × List TaskId)) (s : σ) (run : List ι) : Prop :=
  Run.Always step (fun s => Dag.Acyclic (DependsOn (deps s))) s run ∧
    Run.EachStep step (fun s i => ¬ NoCycle (deps s) (declares s i) → step s i = s) s run

/-- A system whose steps write what they declare keeps its graph acyclic exactly as long as no
step declares a cycle. -/
theorem staysDag_iff {σ ι : Type} {step : σ → ι → σ} {deps : σ → TaskId → List TaskId}
    {declares : σ → ι → Option (TaskId × List TaskId)}
    (hstep : ∀ s i, deps (step s i) = declared (deps s) (declares s i)) (s : σ)
    (h : Dag.Acyclic (DependsOn (deps s))) (run : List ι) :
    StaysDag step deps declares s run ↔
      Run.EachStep step (fun s i => NoCycle (deps s) (declares s i)) s run := by
  have hiff : Run.Always step (fun s => Dag.Acyclic (DependsOn (deps s))) s run ↔
      Run.EachStep step (fun s i => NoCycle (deps s) (declares s i)) s run := by
    refine Run.always_iff_eachStep (I := fun s => Dag.Acyclic (DependsOn (deps s)))
      (A := fun _ _ => True) (fun s hs => hs) (fun s i hs _ => ?_) (fun s i _ _ hp => hp) run s h
      fun _ _ _ => trivial
    rw [hstep]
    exact acyclic_declared_iff hs _
  refine ⟨fun hdag => hiff.mp hdag.1, fun hc => ⟨hiff.mpr hc, hc.imp fun s i hs hn => ?_⟩⟩
  exact absurd hs hn

/-! ### `ClusterState` -/

namespace ClusterState

/-- The assignment in `TaskManager.create_task` over this state, which has no `_tx`: it raises an
`AttributeError` once the task runs. -/
def managerAssign (s : ClusterState) (now : Time) (taskId : TaskId) (assignTo : Option NodeId) :
    ClusterState :=
  match assignTo.filter (· ≠ "") with
  | none => s
  | some nodeId => if s.getNode nodeId = none then s else s.setTaskStatus now taskId .running

/-- `TaskManager.create_task` over this state, whether it returns or raises. -/
def managerCreateTask (s : ClusterState) (now : Time) (token title : String)
    (requires : List Capability) (priority : Int) (dependsOn : List TaskId)
    (assignTo : Option NodeId) : ClusterState :=
  if blank title ∨ priority < 1 ∨ 5 < priority then s
  else
    let s := s.createTask now (generateId "task" token) title requires priority
    let s := if dependsOn = [] then s
      else s.setDependencies now (generateId "task" token) dependsOn
    s.managerAssign now (generateId "task" token) assignTo

/-- A request to this state; `update_task` of an existing task raises an `AttributeError` before
it writes. -/
def request (s : ClusterState) : Time × DependencyRequest → ClusterState
  | (now, .createTask taskId title requires priority) =>
    s.createTask now taskId title requires priority
  | (now, .setDependencies taskId dependsOn) => s.setDependencies now taskId dependsOn
  | (now, .managerCreateTask token title requires priority dependsOn assignTo) =>
    s.managerCreateTask now token title requires priority dependsOn assignTo
  | (_, .managerUpdateTask ..) => s

def depsOf (s : ClusterState) (t : TaskId) : List TaskId := (s.tasks.get? t).elim [] Task.dependsOn

/-- The task whose list the request replaces, and by which. -/
def declares (s : ClusterState) : Time × DependencyRequest → Option (TaskId × List TaskId)
  | (_, .createTask taskId ..) => some (taskId, [])
  | (_, .setDependencies taskId dependsOn) =>
    if (s.tasks.get? taskId).isSome then some (taskId, dependsOn) else none
  | (_, .managerCreateTask token title _ priority dependsOn _) =>
    if blank title ∨ priority < 1 ∨ 5 < priority then none
    else some (generateId "task" token, dependsOn)
  | (_, .managerUpdateTask ..) => none

variable {s : ClusterState} {now : Time} {t : TaskId}

theorem depsOf_createTask (title : String) (requires : List Capability) (priority : Int) :
    (s.createTask now t title requires priority).depsOf = Function.update s.depsOf t [] := by
  funext k
  rw [depsOf, get?_createTask]
  by_cases hk : k = t
  · subst hk
    rw [if_pos rfl, Function.update_self]
    rfl
  · rw [if_neg hk, Function.update_of_ne hk]
    rfl

theorem depsOf_setDependencies (deps : List TaskId) (h : (s.tasks.get? t).isSome) :
    (s.setDependencies now t deps).depsOf = Function.update s.depsOf t deps := by
  funext k
  rw [depsOf, get?_setDependencies]
  by_cases hk : k = t
  · subst hk
    obtain ⟨x, hx⟩ := Option.isSome_iff_exists.mp h
    rw [if_pos rfl, Function.update_self, hx]
    rfl
  · rw [if_neg hk, Function.update_of_ne hk]
    rfl

theorem depsOf_setDependencies_none (deps : List TaskId) (h : s.tasks.get? t = none) :
    (s.setDependencies now t deps).depsOf = s.depsOf := by
  funext k
  rw [depsOf, get?_setDependencies]
  by_cases hk : k = t
  · subst hk
    rw [if_pos rfl, depsOf, h]
    rfl
  · rw [if_neg hk]
    rfl

theorem depsOf_managerAssign (assignTo : Option NodeId) :
    (s.managerAssign now t assignTo).depsOf = s.depsOf := by
  rw [managerAssign]
  split
  · rfl
  split
  · rfl
  funext k
  rw [depsOf, get?_setTaskStatus, depsOf]
  split
  · cases s.tasks.get? k <;> rfl
  · rfl

theorem depsOf_managerCreateTask (token title : String) (requires : List Capability)
    (priority : Int) (deps : List TaskId) (assignTo : Option NodeId)
    (h : ¬ (blank title ∨ priority < 1 ∨ 5 < priority)) :
    (s.managerCreateTask now token title requires priority deps assignTo).depsOf =
      Function.update s.depsOf (generateId "task" token) deps := by
  rw [managerCreateTask, if_neg h]
  dsimp only
  rw [depsOf_managerAssign]
  split
  · rename_i hd
    rw [hd, depsOf_createTask]
  · rw [depsOf_setDependencies, depsOf_createTask, Function.update_idem]
    rw [get?_createTask, if_pos rfl]
    rfl

/-- **What a request does to the lists.** -/
theorem depsOf_request (s : ClusterState) (op : Time × DependencyRequest) :
    (s.request op).depsOf = declared s.depsOf (s.declares op) := by
  obtain ⟨now, op⟩ := op
  cases op with
  | createTask t title requires priority => exact depsOf_createTask title requires priority
  | setDependencies t deps =>
    rw [request, declares]
    split
    · exact depsOf_setDependencies deps ‹_›
    · exact depsOf_setDependencies_none deps (Option.not_isSome_iff_eq_none.mp ‹_›)
  | managerCreateTask token title requires priority deps assignTo =>
    rw [request, declares]
    split
    · rw [managerCreateTask, if_pos ‹_›]
      rfl
    · exact depsOf_managerCreateTask token title requires priority deps assignTo ‹_›
  | managerUpdateTask t title priority requires deps => rfl

end ClusterState

/-! ### `ClusterStore` -/

namespace ClusterStore

/-- A request to this state, whether it returns or raises. -/
def request (s : ClusterStore) : Time × DependencyRequest → ClusterStore
  | (now, .createTask taskId title requires priority) =>
    ((Session.createTask now taskId title requires priority).run s).2
  | (now, .setDependencies taskId dependsOn) => s.setDependencies now taskId dependsOn
  | (now, .managerCreateTask token title requires priority dependsOn assignTo) =>
    ((TaskManager.createTask now token title requires priority dependsOn assignTo).run s).2
  | (now, .managerUpdateTask taskId title priority requires dependsOn) =>
    ((TaskManager.updateTask now taskId title priority requires dependsOn).run s).2

def depsOf (s : ClusterStore) (t : TaskId) : List TaskId :=
  (s.tasks.get? t).elim [] TaskRow.dependsOn

/-- The task whose list the request replaces, and by which: none where it raises before it
writes, or has nothing to write. -/
def declares (s : ClusterStore) : Time × DependencyRequest → Option (TaskId × List TaskId)
  | (_, .createTask ..) => none
  | (_, .setDependencies taskId dependsOn) =>
    if (s.tasks.get? taskId).isSome then some (taskId, dependsOn) else none
  | (_, .managerCreateTask token title _ priority dependsOn _) =>
    if blank title ∨ priority < 1 ∨ 5 < priority then none
    else if dependsOn = [] ∨ (s.tasks.get? (generateId "task" token)).any (!decodes ·) then none
    else some (generateId "task" token, dependsOn)
  | (_, .managerUpdateTask taskId title priority _ dependsOn) =>
    if (s.tasks.get? taskId).any decodes ∧ ¬ title.any blank ∧
        ¬ priority.any fun p => p < 1 ∨ 5 < p then
      dependsOn.map fun deps => (taskId, deps)
    else none

variable {s s' : ClusterStore} {now : Time} {t : TaskId}

theorem depsOf_update {f : TaskRow → TaskRow}
    (hget : ∀ k, s'.tasks.get? k = if k = t then (s.tasks.get? k).map f else s.tasks.get? k)
    (hf : ∀ r, (f r).dependsOn = r.dependsOn) : s'.depsOf = s.depsOf := by
  funext k
  rw [depsOf, hget, depsOf]
  split
  · cases s.tasks.get? k with
    | none => rfl
    | some r => exact hf r
  · rfl

/-- An update of one row that replaces its list. -/
theorem depsOf_replace {f : TaskRow → TaskRow} {deps : List TaskId}
    (hget : ∀ k, s'.tasks.get? k = if k = t then (s.tasks.get? k).map f else s.tasks.get? k)
    (h : (s.tasks.get? t).isSome) (hf : ∀ r, (f r).dependsOn = deps) :
    s'.depsOf = Function.update s.depsOf t deps := by
  funext k
  rw [depsOf, hget]
  by_cases hk : k = t
  · subst hk
    obtain ⟨r, hr⟩ := Option.isSome_iff_exists.mp h
    rw [if_pos rfl, Function.update_self, hr]
    exact hf r
  · rw [if_neg hk, Function.update_of_ne hk]
    rfl

theorem depsOf_setDependencies (deps : List TaskId) (h : (s.tasks.get? t).isSome) :
    (s.setDependencies now t deps).depsOf = Function.update s.depsOf t deps :=
  depsOf_replace (fun _ => get?_setDependencies deps) h fun _ => rfl

theorem depsOf_setDependencies_none (deps : List TaskId) (h : s.tasks.get? t = none) :
    (s.setDependencies now t deps).depsOf = s.depsOf := by
  funext k
  rw [depsOf, get?_setDependencies]
  by_cases hk : k = t
  · subst hk
    rw [if_pos rfl, depsOf, h]
    rfl
  · rw [if_neg hk]
    rfl

theorem madeReady_dependsOn (r : TaskRow) : (madeReady now r).dependsOn = r.dependsOn := by
  rw [madeReady]
  split <;> rfl

/-- `create_task` of the store leaves the list of an old row, and a new one has none. -/
theorem depsOf_createTask {title : String} {requires : List Capability} {priority : Int}
    (h : s.createTask now t title requires priority = .ok s') : s'.depsOf = s.depsOf := by
  by_cases hp : fits64 priority = true
  · obtain ⟨s₁, hok, -, hget⟩ := createTask_ok s now t title requires hp
    rw [h] at hok
    cases hok
    funext k
    rw [depsOf, hget, depsOf]
    by_cases hk : k = t
    · subst hk
      rw [if_pos rfl, Option.elim_some, madeReady_dependsOn]
      cases s.tasks.get? k <;> rfl
    · rw [if_neg hk]
  · rw [createTask_raises title requires hp] at h
    cases h

theorem isSome_createTask {title : String} {requires : List Capability} {priority : Int}
    (h : s.createTask now t title requires priority = .ok s') : (s'.tasks.get? t).isSome := by
  by_cases hp : fits64 priority = true
  · obtain ⟨s₁, hok, -, hget⟩ := createTask_ok s now t title requires hp
    rw [h] at hok
    cases hok
    rw [hget, if_pos rfl]
    rfl
  · rw [createTask_raises title requires hp] at h
    cases h

/-! The parts of `TaskManager.create_task` and `update_task` -/

/-- The call changes no list. -/
def SameDeps (s s' : ClusterStore) : Prop := s'.depsOf = s.depsOf

theorem SameDeps.refl (s : ClusterStore) : SameDeps s s := rfl

theorem SameDeps.trans (s s₁ s₂ : ClusterStore) (h₁ : SameDeps s s₁) (h₂ : SameDeps s₁ s₂) :
    SameDeps s s₂ := Eq.trans h₂ h₁

theorem sameDeps_createTask (title : String) (requires : List Capability) (priority : Int)
    (s : ClusterStore) :
    SameDeps s ((Session.createTask now t title requires priority).run s).2 := by
  rw [Session.createTask]
  refine Prog.rel_bind SameDeps.trans (fun s => ?_) (fun _ s => ?_) s
  · refine Prog.rel_tx SameDeps.refl fun _ s' h => ?_
    cases hc : s.createTask now t title requires priority with
    | error e => rw [hc] at h; cases h
    | ok s₁ =>
      rw [hc] at h
      cases h
      exact depsOf_createTask hc
  · rw [Prog.run_bind_pure_snd, Session.run_getTask_snd]
    exact SameDeps.refl s

theorem sameDeps_assign (assignTo : Option NodeId) (s : ClusterStore) :
    SameDeps s ((TaskManager.assign now t assignTo).run s).2 := by
  rw [TaskManager.assign]
  split
  · exact SameDeps.refl s
  refine Prog.rel_read_bind (SameDeps.refl s) fun node _ => ?_
  split
  · exact SameDeps.refl s
  refine Prog.rel_bind SameDeps.trans (fun s => ?_) (fun _ s => ?_) s
  · exact depsOf_update (get?_setTaskStatus s now t .running "") fun r => rfl
  · exact depsOf_update (get?_setAssignee _) fun r => rfl

/-- `create_task` once the lists are written. -/
theorem sameDeps_assigned (task : Task) (assignTo : Option NodeId) (s : ClusterStore) :
    SameDeps s ((do
      TaskManager.assign now t assignTo
      let stored ← Session.getTask t
      return stored.getD task : Session Task).run s).2 := by
  refine Prog.rel_bind SameDeps.trans (sameDeps_assign assignTo) (fun _ s => ?_) s
  rw [Prog.run_bind_pure_snd, Session.run_getTask_snd]
  exact SameDeps.refl s

theorem run_addDependencies {deps : List TaskId} (h : deps ≠ []) (s : ClusterStore) :
    (TaskManager.addDependencies now t deps).run s =
      (.ok (), s.setDependencies now t deps) := by
  rw [TaskManager.addDependencies, if_neg h]
  rfl

theorem depsOf_managerCreateTask (token title : String) (requires : List Capability)
    (priority : Int) (deps : List TaskId) (assignTo : Option NodeId)
    (h : ¬ (blank title ∨ priority < 1 ∨ 5 < priority)) :
    ((TaskManager.createTask now token title requires priority deps assignTo).run s).2.depsOf =
      declared s.depsOf
        (if deps = [] ∨ (s.tasks.get? (generateId "task" token)).any (!decodes ·) then none
        else some (generateId "task" token, deps)) := by
  have hp : fits64 priority = true := fits64_iff.mpr (by omega)
  rw [TaskManager.createTask, if_neg fun hb => h (.inl hb), if_neg fun hb => h (.inr hb)]
  by_cases hdeps : deps = []
  · rw [if_pos (.inl hdeps)]
    refine Prog.rel_bind SameDeps.trans (sameDeps_createTask title requires priority)
      (fun task s => ?_) s
    rw [TaskManager.addDependencies, if_pos hdeps]
    exact sameDeps_assigned task assignTo s
  · obtain ⟨s', hok, hret, hraise⟩ := run_createTask (s := s)
      (t := generateId "task" token) now title requires hp
    by_cases hd : (s.tasks.get? (generateId "task" token)).any (!decodes ·) = true
    · rw [if_pos (.inr hd)]
      obtain ⟨r, hr, hdec⟩ := (Option.any_eq_true _ _).mp hd
      obtain ⟨e, he⟩ := hraise ⟨r, hr, by simpa using hdec⟩
      rw [Prog.run_bind_error _ he]
      exact depsOf_createTask hok
    · rw [if_neg (not_or.mpr ⟨hdeps, hd⟩)]
      obtain ⟨task, hrun⟩ := hret fun r hr => by
        rw [hr] at hd
        simpa using hd
      rw [Prog.run_bind_ok _ hrun, Prog.run_bind_ok _ (run_addDependencies hdeps s')]
      refine Eq.trans (sameDeps_assigned task assignTo _) ?_
      rw [depsOf_setDependencies deps (isSome_createTask hok), depsOf_createTask hok]
      rfl

/-- The update of `update_task` replaces the list if it is given one. -/
theorem depsOf_updatedBy {title : Option String} {priority : Option Int}
    {requires : Option (List Capability)} {deps : Option (List TaskId)}
    (hget : ∀ k, s'.tasks.get? k =
      if k = t then (s.tasks.get? k).map (updatedBy now title priority requires deps)
      else s.tasks.get? k)
    (h : (s.tasks.get? t).isSome) :
    s'.depsOf = declared s.depsOf (deps.map fun l => (t, l)) := by
  cases deps with
  | none =>
    refine depsOf_update hget fun r => ?_
    rw [updatedBy]
    split <;> rfl
  | some l =>
    refine depsOf_replace hget h fun r => ?_
    rw [updatedBy, if_neg (by simp)]
    rfl

theorem depsOf_managerUpdateTask (title : Option String) (priority : Option Int)
    (requires : Option (List Capability)) (deps : Option (List TaskId)) :
    ((TaskManager.updateTask now t title priority requires deps).run s).2.depsOf =
      declared s.depsOf
        (if (s.tasks.get? t).any decodes ∧ ¬ title.any blank ∧
            ¬ priority.any fun p => p < 1 ∨ 5 < p then deps.map fun l => (t, l) else none) := by
  rw [TaskManager.updateTask]
  cases hr : s.tasks.get? t with
  | none =>
    rw [Prog.run_bind_ok _ (Session.run_getTask_ok (getTask_of_none hr)), Option.any_none,
      if_neg (by simp)]
    rfl
  | some r =>
    by_cases hd : decodes r = true
    · rw [Prog.run_bind_ok _ (Session.run_getTask_ok (getTask_of_some hr hd)), Option.any_some]
      dsimp only
      by_cases hok : ¬ title.any blank = true ∧ ¬ (priority.any fun p => p < 1 ∨ 5 < p) = true
      · rw [if_pos ⟨hd, hok⟩]
        obtain ⟨s', hs'⟩ :
            ∃ s', s.updateTask now t title priority requires deps = .ok ((), s') := by
          rw [updateTask, if_neg hok.1, if_neg hok.2]
          exact ⟨_, rfl⟩
        rw [Prog.run_bind_ok _ (Prog.run_tx_ok hs'), Session.run_getTask_snd]
        exact depsOf_updatedBy (updateTask_ok hs') (by rw [hr]; rfl)
      · rw [if_neg fun h => hok h.2]
        obtain ⟨e, he⟩ : ∃ e, s.updateTask now t title priority requires deps = .error e := by
          rw [updateTask]
          split
          · exact ⟨_, rfl⟩
          · rw [if_pos (by grind)]
            exact ⟨_, rfl⟩
        rw [Prog.run_bind_error _ (Prog.run_tx_error he)]
        rfl
    · obtain ⟨e, he⟩ := getTask_raises hr hd
      rw [Prog.run_bind_error _ (Session.run_getTask_error he), Option.any_some,
        if_neg fun h => hd h.1]
      rfl

/-- **What a request does to the lists.** -/
theorem depsOf_request (s : ClusterStore) (op : Time × DependencyRequest) :
    (s.request op).depsOf = declared s.depsOf (s.declares op) := by
  obtain ⟨now, op⟩ := op
  cases op with
  | createTask t title requires priority => exact sameDeps_createTask title requires priority s
  | setDependencies t deps =>
    rw [request, declares]
    split
    · exact depsOf_setDependencies deps ‹_›
    · exact depsOf_setDependencies_none deps (Option.not_isSome_iff_eq_none.mp ‹_›)
  | managerCreateTask token title requires priority deps assignTo =>
    rw [request, declares]
    split
    · rename_i h
      rw [TaskManager.createTask]
      split
      · rfl
      · rw [if_pos (h.resolve_left ‹_›)]
        rfl
    · exact depsOf_managerCreateTask token title requires priority deps assignTo ‹_›
  | managerUpdateTask t title priority requires deps =>
    exact depsOf_managerUpdateTask title priority requires deps

end ClusterStore

/-- **The dependencies form a DAG.**  Along a run from the empty state, over either state, the
graph has no cycle, and a request that would make one changes nothing, exactly if no request
declares a dependency that depends on the task it is declared for. -/
theorem dag_iff (run : List (Time × DependencyRequest)) :
    (StaysDag ClusterState.request ClusterState.depsOf ClusterState.declares {} run ↔
      Run.EachStep ClusterState.request (fun s op => NoCycle s.depsOf (s.declares op)) {} run) ∧
    (StaysDag ClusterStore.request ClusterStore.depsOf ClusterStore.declares {} run ↔
      Run.EachStep ClusterStore.request (fun s op => NoCycle s.depsOf (s.declares op)) {} run) := by
  refine ⟨staysDag_iff ClusterState.depsOf_request {} ?_ run,
    staysDag_iff ClusterStore.depsOf_request {} ?_ run⟩
  · exact Dag.acyclic_of_no_edge fun a b h => by cases h
  · exact Dag.acyclic_of_no_edge fun a b h => by cases h

/-- Two tasks, each declared to depend on the other. -/
def crossDependent : List (Time × DependencyRequest) :=
  [(0, .createTask "task_a" "build" [] 3), (1, .createTask "task_b" "test" [] 3),
    (2, .setDependencies "task_a" ["task_b"]), (3, .setDependencies "task_b" ["task_a"])]

theorem crossDependent_cycle :
    ¬ StaysDag ClusterState.request ClusterState.depsOf ClusterState.declares {}
      crossDependent ∧
    ¬ StaysDag ClusterStore.request ClusterStore.depsOf ClusterStore.declares {}
      crossDependent := by
  refine ⟨fun h => ?_, fun h => ?_⟩
  · refine h.1 crossDependent (List.prefix_refl _) "task_a" (.tail (.single ?_) (b := "task_b") ?_)
    · show "task_b" ∈ ClusterState.depsOf _ "task_a"
      decide
    · show "task_a" ∈ ClusterState.depsOf _ "task_b"
      decide
  · refine h.1 crossDependent (List.prefix_refl _) "task_a" (.tail (.single ?_) (b := "task_b") ?_)
    · show "task_b" ∈ ClusterStore.depsOf _ "task_a"
      decide +kernel
    · show "task_a" ∈ ClusterStore.depsOf _ "task_b"
      decide +kernel

end HermesCluster
