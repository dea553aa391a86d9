import HermesCluster.Core.Resolver

/-!
# What `complete_task` releases

A completion is to release the tasks that waited for it: those that were pending or blocked,
name it in `depends_on` and have all their dependencies completed now.  `_propagate` has a loop
for the blocked ones, but `resolve_dependencies` turns away every task that is not pending.
`released_iff` says when all are released, whatever the store holds.
-/

namespace HermesCluster

open ClusterStore WorkflowResolver

namespace ClusterStore

/-- The task is ready or running. -/
def Underway (s : ClusterStore) (k : TaskId) : Prop :=
  s.statusOf k = some TaskStatus.ready.value ∨ s.statusOf k = some TaskStatus.running.value

/-- Every task that waited for `c` in `s` and has all its dependencies completed in `s'` is ready
or running there. -/
def Released (s s' : ClusterStore) (c : TaskId) : Prop :=
  ∀ k r, s.tasks.get? k = some r →
    r.status = TaskStatus.pending.value ∨ r.status = TaskStatus.blocked.value →
    c ∈ r.dependsOn → (∀ d ∈ r.dependsOn, s'.Completed d) → s'.Underway k

/-- `get_task` reads the row of the task. -/
def Reads (s : ClusterStore) (c : TaskId) : Prop :=
  ∃ r, s.tasks.get? c = some r ∧ decodes r = true

/-- The task waits for `c`, and for nothing else. -/
def WaitsFor (s : ClusterStore) (c k : TaskId) (r : TaskRow) : Prop :=
  s.tasks.get? k = some r ∧
    (r.status = TaskStatus.pending.value ∨ r.status = TaskStatus.blocked.value) ∧
    c ∈ r.dependsOn ∧ ∀ d ∈ r.dependsOn, s.Completed d ∨ d = c ∧ s.Reads c

/-- The tables once the task is completed. -/
def completing (s : ClusterStore) (now : Time) (c : TaskId) : ClusterStore :=
  s.setTaskStatus now c .completed

/-- The pass over the pending tasks comes to the row: all rows decode once `c` is completed, and
no task of the pass up to this one depends on an earlier one that it writes and spoils. -/
def Reached (s : ClusterStore) (now : Time) (c : TaskId) (r : TaskRow) : Prop :=
  s.Reads c ∧ (∀ q ∈ (s.completing now c).tasks.rows, decodes q = true) ∧
    ∀ a q b, (s.completing now c).waitingOn c = a ++ q :: b → r ∉ a →
      ¬ (s.completing now c).stuck now a q = true

/-! ### Scheduling -/

/-- Ready rows turn running, and nothing else changes. -/
def Schedules (s s' : ClusterStore) : Prop :=
  ∀ k, s'.tasks.get? k = s.tasks.get? k ∨
    s.statusOf k = some TaskStatus.ready.value ∧ s'.statusOf k = some TaskStatus.running.value

theorem Schedules.refl (s : ClusterStore) : Schedules s s := fun _ => .inl rfl

theorem schedules_schedulePending {s s' : ClusterStore} {now : Time} {n : Nat}
    (h : s.schedulePending now = .ok (n, s')) : Schedules s s' := by
  have hget := (schedulePending_inv h).2
  intro k
  cases hr : s.tasks.get? k with
  | none => exact .inl (by rw [hget, hr]; rfl)
  | some r =>
    by_cases hready : r.status = TaskStatus.ready.value
    · cases hfit : s.firstFit r.requires with
      | none =>
        refine .inl ?_
        rw [hget, hr, Option.map_some, scheduled, if_pos hready, hfit]
      | some node =>
        refine .inr ⟨by rw [statusOf, hr, Option.map_some, hready], ?_⟩
        rw [statusOf, hget, hr, Option.map_some, scheduled, if_pos hready, hfit]
        rfl
    · refine .inl ?_
      rw [hget, hr, Option.map_some, scheduled, if_neg hready]

theorem Schedules.underway_iff {s s' : ClusterStore} (h : Schedules s s') (k : TaskId) :
    s'.Underway k ↔ s.Underway k := by
  rcases h k with e | ⟨hready, hrun⟩
  · rw [Underway, statusOf, e, Underway, statusOf]
  · exact iff_of_true (.inr hrun) (.inl hready)

theorem Schedules.completed_iff {s s' : ClusterStore} (h : Schedules s s') (d : TaskId) :
    s'.Completed d ↔ s.Completed d := by
  rcases h d with e | ⟨hready, hrun⟩
  · rw [Completed, e, Completed]
  · exact iff_of_false (not_completed_of_statusOf hrun (by decide))
      (not_completed_of_statusOf hready (by decide))

theorem not_underway {s : ClusterStore} {k : TaskId} {r : TaskRow} {u : TaskStatus}
    (hr : s.tasks.get? k = some r) (hst : r.status = u.value) (h₁ : u ≠ .ready)
    (h₂ : u ≠ .running) : ¬ s.Underway k := by
  rw [Underway, statusOf, hr, Option.map_some, hst]
  rintro (h | h)
  · exact h₁ (TaskStatus.value_injective (Option.some.inj h))
  · exact h₂ (TaskStatus.value_injective (Option.some.inj h))

end ClusterStore

/-! ### One waiting task -/

variable {s : ClusterStore} {now : Time} {turns : Nat} {c k : TaskId} {r : TaskRow}

/-- The rows of a pass are the pending ones of the table that depend on `c`. -/
theorem mem_waitingOn : r ∈ s.waitingOn c ↔
    s.tasks.get? r.id = some r ∧ r.status = TaskStatus.pending.value ∧ c ∈ r.dependsOn := by
  rw [waitingOn, List.mem_filter, Table.mem_rows_iff, decide_eq_true_eq, key_taskRow]

theorem nodup_waitingOn : (s.waitingOn c).Nodup :=
  (List.Nodup.of_map _ s.tasks.nodup).filter _

/-- The tasks `_propagate` goes through are the rows of the pass. -/
theorem filter_readRow (hdec : ∀ q ∈ s.tasks.rows, decodes q = true) :
    (s.tasks.rows.map readRow).filter (fun x => x.status = .pending ∧ c ∈ x.dependsOn) =
      (s.waitingOn c).map readRow := by
  rw [List.filter_map, waitingOn]
  refine congrArg (List.map readRow) (List.filter_congr fun q hq => ?_)
  rw [Function.comp_apply, decide_eq_decide, readRow_status (hdec q hq)]
  exact and_congr_left fun _ => TaskStatus.value_inj.symm

/-- A row with all its dependencies completed is made ready. -/
theorem resolvedRow_of_allDone (h : s.allDone r.dependsOn = true) :
    s.resolvedRow now r = withStatus now .ready "" r := by
  rw [resolvedRow, not_hasFailed_of_allDone h, if_neg Bool.false_ne_true, if_pos h]

/-- A ready row stays as it is. -/
theorem underway_of_resolves {s' : ClusterStore} (h : Resolves s s')
    (hr : s.tasks.get? k = some r) (hready : r.status = TaskStatus.ready.value) :
    s'.Underway k := by
  have hne : r.status ≠ TaskStatus.pending.value := by
    rw [hready]
    decide
  refine .inl ?_
  rw [statusOf, h.get?_of_ne hr hne, Option.map_some, hready]

/-- **Propagation and one task that is due**: it turns ready exactly if the pass comes to it. -/
theorem underway_propagate_iff (depth : Nat) (hr : s.tasks.get? k = some r)
    (hp : r.status = TaskStatus.pending.value) (hc : c ∈ r.dependsOn)
    (hdone : s.allDone r.dependsOn = true) :
    ((propagate now turns (depth + 1) c).run s).2.Underway k ↔
      (∀ q ∈ s.tasks.rows, decodes q = true) ∧ r ∈ s.handled now [] (s.waitingOn c) := by
  have hwait : ¬ s.Underway k := not_underway hr hp (by decide) (by decide)
  have hid : r.id = k := Table.key_of_get? hr
  rw [propagate]
  by_cases hdec : ∀ q ∈ s.tasks.rows, decodes q = true
  · have hall : s.getAllTasks = .ok (s.tasks.rows.map readRow) := mapM_rowToTask_ok hdec
    rw [Prog.run_bind_ok _ (show Session.getAllTasks.run s = _ from Prog.run_read_ok hall),
      resolveAll_filter, filter_readRow hdec, and_iff_right hdec]
    have hrows : ∀ q ∈ s.waitingOn c, s.tasks.get? q.id = some q ∧
        q.status = TaskStatus.pending.value ∧ c ∈ q.dependsOn := fun q => mem_waitingOn.mp
    have hmem : r ∈ s.waitingOn c := mem_waitingOn.mpr ⟨by rwa [hid], hp, hc⟩
    have hseen : SeenOf s [] := fun p hp => by cases hp
    have hstart : Midway s now [] s := fun k => by simp
    obtain ⟨res, t, hrun, hmid, hend⟩ :=
      resolveAll_midway hdec hrows nodup_waitingOn hseen hstart
    have hrow := hmid k
    rw [hr, Option.map_some] at hrow
    -- what the pass leaves, and what comes after it keeps
    by_cases hin : r ∈ s.handled now [] (s.waitingOn c)
    · refine iff_of_true ?_ hin
      rw [if_pos hin, resolvedRow_of_allDone hdone] at hrow
      have hstay : ∀ s', Resolves t s' → s'.Underway k :=
        fun s' hs => underway_of_resolves hs hrow rfl
      cases res with
      | error e =>
        rw [Prog.run_bind_error _ hrun]
        exact hstay t (Resolves.refl t)
      | ok l =>
        rw [Prog.run_bind_ok _ hrun]
        refine hstay _ ?_
        refine Prog.rel_bind Resolves.trans (resolves_resolveAll now c .blocked _) (fun _ s => ?_) t
        exact resolves_cascade (resolves_propagate now turns depth) turns _ s
    · refine iff_of_false ?_ hin
      obtain ⟨e, rfl⟩ : ∃ e, res = .error e := by
        rcases hend with ⟨hall, -⟩ | ⟨-, he⟩
        · rw [hall] at hin
          exact absurd (List.mem_append_right [] hmem) hin
        · exact he
      rw [Prog.run_bind_error _ hrun]
      rw [if_neg hin] at hrow
      exact not_underway hrow hp (by decide) (by decide)
  · refine iff_of_false ?_ fun h => hdec h.1
    cases hall : s.getAllTasks with
    | ok tasks => exact absurd (getAllTasks_ok_iff.mp ⟨tasks, hall⟩) hdec
    | error e =>
      rw [Prog.run_bind_error _ (show Session.getAllTasks.run s = _ from Prog.run_read_error hall)]
      exact hwait

/-! ### The call -/

theorem get?_completing (s : ClusterStore) (now : Time) (c k : TaskId) :
    (s.completing now c).tasks.get? k =
      if k = c then (s.tasks.get? k).map (withStatus now .completed "") else s.tasks.get? k :=
  get?_setTaskStatus s now c .completed "" k

theorem completed_completing (hc : (s.tasks.get? c).isSome) (d : TaskId) :
    (s.completing now c).Completed d ↔ s.Completed d ∨ d = c := by
  rw [Completed, get?_completing]
  by_cases hd : d = c
  · subst hd
    obtain ⟨r, hr⟩ := Option.isSome_iff_exists.mp hc
    rw [if_pos rfl, hr]
    exact iff_of_true ⟨_, rfl, rfl⟩ (.inr rfl)
  · rw [if_neg hd, ← Completed, or_iff_left hd]

/-- The call, once it has read the task: the propagation and, if that returns, a scheduling
pass. -/
theorem run_completeTask (now : Time) (turns : Nat) (hread : s.Reads c) :
    ∃ p : Except PyError (Option (List TaskId)) × ClusterStore,
      p = (onDependencyComplete now turns c).run (s.completing now c) ∧
      Schedules p.2 ((ClusterCore.completeTask now turns c).run s).2 ∧
      (((ClusterCore.completeTask now turns c).run s).1 = .ok none → p.1 = .ok none) := by
  obtain ⟨r, hr, hdec⟩ := hread
  refine ⟨_, rfl, ?_⟩
  have hset : (Session.setTaskStatus now c .completed).run s =
      (.ok (s.tasks.get? c).isSome, s.completing now c) := rfl
  rw [ClusterCore.completeTask,
    Prog.run_bind_ok _ (Session.run_getTask_ok (getTask_of_some hr hdec))]
  dsimp only
  rw [Prog.run_bind_ok _ hset, Prog.run_bind]
  rcases (onDependencyComplete now turns c).run (s.completing now c) with ⟨e | x, t⟩
  · exact ⟨Schedules.refl t, fun h => by cases h⟩
  · cases x with
    | none => exact ⟨Schedules.refl t, fun _ => rfl⟩
    | some l =>
      rw [Prog.andThen_ok]
      dsimp only
      refine ⟨?_, fun h => ?_⟩
      · rw [Prog.run_bind_pure_snd]
        exact Prog.rel_tx Schedules.refl fun n s' h => schedules_schedulePending h
      · rw [Prog.run_bind] at h
        rcases hs : (Session.schedulePending now).run t with ⟨e | n, t'⟩
        · rw [hs] at h
          cases h
        · rw [hs] at h
          cases h

/-- One waiting task, once `c` is completed. -/
theorem underway_completeTask_iff (hread : s.Reads c) (hr : s.tasks.get? k = some r)
    (hst : r.status = TaskStatus.pending.value ∨ r.status = TaskStatus.blocked.value)
    (hc : c ∈ r.dependsOn) (hdone : ∀ d ∈ r.dependsOn, s.Completed d ∨ d = c) :
    ((ClusterCore.completeTask now turns c).run s).2.Underway k ↔
      k ≠ c ∧ r.status = TaskStatus.pending.value ∧ s.Reached now c r := by
  obtain ⟨p, rfl, hsched, -⟩ := run_completeTask now turns hread
  have hsome : (s.tasks.get? c).isSome := by
    obtain ⟨q, hq, -⟩ := hread
    rw [hq]
    rfl
  rw [hsched.underway_iff]
  -- a row that is not pending once `c` is completed stays as it is
  have hstay : ∀ q u, (s.completing now c).tasks.get? k = some q → q.status = TaskStatus.value u →
      u ≠ .pending → u ≠ .ready → u ≠ .running →
      ¬ ((onDependencyComplete now turns c).run (s.completing now c)).2.Underway k := by
    intro q u hq hu hp h₁ h₂
    refine not_underway ((resolves_propagate now turns _ c _).get?_of_ne hq ?_) hu h₁ h₂
    rw [hu]
    exact fun h => hp (TaskStatus.value_injective h)
  have hrow := get?_completing s now c k
  by_cases hk : k = c
  · refine iff_of_false ?_ fun h => h.1 hk
    rw [if_pos hk, hr] at hrow
    exact hstay _ .completed hrow rfl (by decide) (by decide) (by decide)
  · rw [if_neg hk, hr] at hrow
    rcases hst with hp | hb
    · have hall : (s.completing now c).allDone r.dependsOn = true := by
        refine allDone_iff.mpr fun d hd => ?_
        rw [completed_completing hsome]
        exact hdone d hd
      have hmem : r ∈ (s.completing now c).waitingOn c := by
        refine mem_waitingOn.mpr ⟨?_, hp, hc⟩
        rw [show r.id = k from Table.key_of_get? hr]
        exact hrow
      refine (underway_propagate_iff 9 hrow hp hc hall).trans ?_
      rw [mem_handled_iff hmem (by simp), Reached]
      simp [hk, hp, hread]
    · refine iff_of_false ?_ fun h => ?_
      · exact hstay r .blocked hrow hb (by decide) (by decide) (by decide)
      · rw [hb] at h
        exact absurd h.2.1 (by decide)

/-- A call that does not read the task leaves the tables as they are. -/
theorem run_completeTask_unread (now : Time) (turns : Nat) (hread : ¬ s.Reads c) :
    ∃ x, (ClusterCore.completeTask now turns c).run s = (x, s) ∧ x ≠ .ok none := by
  rw [ClusterCore.completeTask]
  cases hr : s.tasks.get? c with
  | none =>
    rw [Prog.run_bind_ok _ (Session.run_getTask_ok (getTask_of_none hr))]
    exact ⟨_, rfl, fun h => by cases h⟩
  | some r =>
    obtain ⟨e, he⟩ := getTask_raises hr fun hd => hread ⟨r, hr, hd⟩
    rw [Prog.run_bind_error _ (Session.run_getTask_error he)]
    exact ⟨_, rfl, fun h => by cases h⟩

theorem length_completing (s : ClusterStore) (now : Time) (c : TaskId) :
    (s.completing now c).tasks.rows.length = s.tasks.rows.length := by
  rw [completing, setTaskStatus]
  exact List.length_map _

/-- **What a completion releases.**  With a turn for every task the loops of the call end; and the
call releases every task that waits for `c` and for nothing else exactly if each of them is
another task than `c`, pending and not blocked, and reached by the pass. -/
theorem released_iff (s : ClusterStore) (now : Time) (c : TaskId) (turns : Nat)
    (hturns : s.tasks.rows.length ≤ turns) :
    ((ClusterCore.completeTask now turns c).run s).1 ≠ .ok none ∧
    (Released s ((ClusterCore.completeTask now turns c).run s).2 c ↔
      ∀ k r, s.WaitsFor c k r →
        k ≠ c ∧ r.status = TaskStatus.pending.value ∧ s.Reached now c r) := by
  by_cases hread : s.Reads c
  · obtain ⟨p, hp, hsched, hnone⟩ := run_completeTask now turns hread
    have hsome : (s.tasks.get? c).isSome := by
      obtain ⟨q, hq, -⟩ := hread
      rw [hq]
      rfl
    have hcomp : ∀ d, ((ClusterCore.completeTask now turns c).run s).2.Completed d ↔
        s.Completed d ∨ d = c := by
      intro d
      rw [hsched.completed_iff, hp, onDependencyComplete,
        (resolves_propagate now turns _ c _).completed_iff, completed_completing hsome]
    refine ⟨fun h => ?_, fun h k r hwait => ?_, fun h k r hr hst hc hdone => ?_⟩
    · refine propagate_ends (x := none) maxTriggerChainDepth (c := c) ?_
        (Prod.ext (hp ▸ hnone h) rfl) rfl
      rw [length_completing]
      exact hturns
    · obtain ⟨hr, hst, hc, hdone⟩ := hwait
      have hdone' : ∀ d ∈ r.dependsOn, s.Completed d ∨ d = c :=
        fun d hd => (hdone d hd).imp_right And.left
      refine (underway_completeTask_iff hread hr hst hc hdone').mp (h k r hr hst hc fun d hd => ?_)
      exact (hcomp d).mpr (hdone' d hd)
    · have hdone' : ∀ d ∈ r.dependsOn, s.Completed d ∨ d = c :=
        fun d hd => (hcomp d).mp (hdone d hd)
      refine (underway_completeTask_iff hread hr hst hc hdone').mpr (h k r ⟨hr, hst, hc, ?_⟩)
      exact fun d hd => (hdone' d hd).imp_right fun e => ⟨e, hread⟩
  · obtain ⟨x, hrun, hx⟩ := run_completeTask_unread now turns hread
    rw [hrun]
    refine ⟨hx, fun h k r hwait => ?_, fun h k r hr hst hc hdone => ?_⟩
    · obtain ⟨hr, hst, hc, hdone⟩ := hwait
      have hunder := h k r hr hst hc fun d hd => (hdone d hd).resolve_right fun e => hread e.2
      rcases hst with hp | hb
      · exact absurd hunder (not_underway hr hp (by decide) (by decide))
      · exact absurd hunder (not_underway hr hb (by decide) (by decide))
    · exact absurd (h k r ⟨hr, hst, hc, fun d hd => .inl (hdone d hd)⟩).2.2.1 hread

/-- A build that runs, and a deployment that its first failure has blocked. -/
def deployment : TaskRow :=
  { id := "task_b", title := "deploy", dependsOn := ["task_a"], status := "blocked",
    createdAt := 0, updatedAt := 0, version := 3 }

def blockedStore : ClusterStore :=
  { tasks := .put (.put .empty
      { id := "task_a", title := "build", status := "running", createdAt := 0, updatedAt := 0,
        version := 5 }) deployment }

theorem released_iff_blockedStore :
    blockedStore.tasks.rows.length ≤ 2 ∧
    (Released blockedStore ((ClusterCore.completeTask 1 2 "task_a").run blockedStore).2 "task_a" ↔
      ∀ k r, blockedStore.WaitsFor "task_a" k r → k ≠ "task_a" ∧
        r.status = TaskStatus.pending.value ∧ blockedStore.Reached 1 "task_a" r) :=
  ⟨by decide, (released_iff blockedStore 1 "task_a" 2 (by decide)).2⟩

/-- The build completes, and the deployment stays blocked. -/
theorem blocked_not_released :
    ((ClusterCore.completeTask 1 2 "task_a").run blockedStore).1 = .ok (some true) ∧
    ¬ Released blockedStore ((ClusterCore.completeTask 1 2 "task_a").run blockedStore).2
      "task_a" := by
  refine ⟨by decide +kernel, fun h => ?_⟩
  have hdone : ∀ d ∈ deployment.dependsOn,
      ((ClusterCore.completeTask 1 2 "task_a").run blockedStore).2.Completed d := by
    intro d hd
    rw [List.mem_singleton.mp hd]
    exact ⟨{ id := "task_a", title := "build", status := "completed", createdAt := 0,
             updatedAt := 1, version := 6 }, by decide +kernel, rfl⟩
  rcases h "task_b" deployment (by decide) (by decide) (by decide) hdone with h | h
  · exact absurd h (by decide +kernel)
  · exact absurd h (by decide +kernel)

end HermesCluster
