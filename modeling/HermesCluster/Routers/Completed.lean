import HermesCluster.Lib.Run
import HermesCluster.Routers.Spec

/-!
# Completed work

Which requests make a completed task ready or running again.  `Over` says that a
task is completed or failed; a request that does not `Reopens` a task keeps it over
(`over_step`), and one that does makes it ready or running (`active_of_reopens`).

`completed_never_active_again` follows for whole runs, in either direction: no
completed task comes back exactly as long as no request reopens one.  `complete`,
`fail`, `unblock`, `dependencies`, `claim` and the scheduler never do; `advance`
does, which only looks at the dependencies, and so does `release`, which only looks
at the assignee that completion left in place.
-/

namespace HermesCluster.TaskRouter

open ClusterState Run

variable {s s' : ClusterState} {r : TaskRouter} {now : Time} {t k : TaskId}

/-- `t` names a task that is completed or failed. -/
def Over (s : ClusterState) (t : TaskId) : Prop :=
  ∃ x, s.tasks.get? t = some x ∧ (x.status = .completed ∨ x.status = .failed)

/-- `t` names a task that is ready or running. -/
def Active (s : ClusterState) (t : TaskId) : Prop :=
  ∃ x, s.tasks.get? t = some x ∧ (x.status = .ready ∨ x.status = .running)

instance : Decidable (Over s t) :=
  decidable_of_iff (∃ x ∈ s.tasks.get? t, x.status = .completed ∨ x.status = .failed)
    (by simp [Over])

instance : Decidable (Active s t) :=
  decidable_of_iff (∃ x ∈ s.tasks.get? t, x.status = .ready ∨ x.status = .running)
    (by simp [Active])

/-- The requests that hand task `t` out again: `advance` and `release` where they
pass their checks, and a submission that draws the id of `t`. -/
def Reopens (r : TaskRouter) (t : TaskId) : Request → Prop
  | .submit token _ _ _ => generateId "task" token = t
  | .advance t' => t' = t ∧ AdvanceAccepted r.state t
  | .release t' n _ => t' = t ∧ ReleaseAccepted r.state t n
  | _ => False

/-! ### Tasks that are over -/

theorem Over.not_active (h : Over s t) : ¬ Active s t := by
  obtain ⟨x, hx, ho⟩ := h
  rintro ⟨y, hy, ha⟩
  rw [hx] at hy
  obtain rfl := Option.some.inj hy
  rcases ho with ho | ho <;> rw [ho] at ha <;> revert ha <;> decide

/-- An update that leaves tasks that are over alone. -/
theorem Over.map {f : Task → Task} (h : Over s t)
    (hget : s'.tasks.get? t = (s.tasks.get? t).map f)
    (hf : ∀ x : Task, x.status ≠ .pending → x.status ≠ .ready → x.status ≠ .running →
      x.status ≠ .blocked → (f x).status = x.status) : Over s' t := by
  obtain ⟨x, hx, ho⟩ := h
  refine ⟨f x, by rw [hget, hx]; rfl, ?_⟩
  rw [hf x] <;> rcases ho with ho | ho <;> rw [ho] <;> decide

theorem Over.same (h : Over s t) (hget : s'.tasks.get? t = s.tasks.get? t) : Over s' t := by
  obtain ⟨x, hx, ho⟩ := h
  exact ⟨x, hget.trans hx, ho⟩

theorem Over.promoted (h : Over s t) : Over (s.triggerPendingTasks now).2 t :=
  h.map get?_triggerPendingTasks fun x hp _ _ _ => by rw [promoted_status, if_neg]; simp [hp]

theorem Over.scheduled (h : Over s t) : Over (s.schedulePending now).2 t :=
  h.map get?_schedulePending fun x _ hr _ _ => by rw [scheduled_of_not_ready hr]

theorem Over.downstream (h : Over s t) (d : TaskId) : Over (downstream s now d) t :=
  h.map get?_downstream fun x hp _ _ _ => by simp [downstreamed, hp]

theorem Over.blockDependents (h : Over s t) (d : TaskId) :
    Over ((s.getDependents d).foldl (blockDependent now) s) t :=
  h.map get?_blockDependents fun x hp _ _ _ => by simp [blockedBy, hp]

/-- A status that is over keeps tasks over, whichever it is written to. -/
theorem Over.setTaskStatus (h : Over s t) {status : TaskStatus}
    (hs : status = .completed ∨ status = .failed) (d : TaskId) (reason : String) :
    Over (s.setTaskStatus now d status reason) t := by
  by_cases hd : t = d
  · obtain ⟨x, hx, -⟩ := h
    exact ⟨withStatus now status reason x, by rw [get?_setTaskStatus, if_pos hd, hx]; rfl, hs⟩
  · exact h.same (by rw [get?_setTaskStatus, if_neg hd])

/-! ### One request -/

/-- **Kept.**  A task that is over stays so under every request that does not
reopen it. -/
theorem over_step (h : Over r.state t) (req : Time × Request) (hn : ¬ Reopens r t req.2) :
    Over (r.step req).state t := by
  obtain ⟨now, req⟩ := req
  show Over (r.handle now req).2.state t
  cases req with
  | submit token title requires priority =>
    have hne : t ≠ generateId "task" token := fun e => hn e.symm
    have hs : Over (submitted r.state now token title requires priority) t :=
      h.same (by rw [submitted, get?_createTask, if_neg hne])
    exact hs.promoted
  | complete d =>
    rw [handle, completeTask_state]
    split
    · have hs : Over (r.revokeLeaseOf d).state t := h.same (by rw [tasks_revokeLeaseOf])
      exact ((hs.setTaskStatus (Or.inl rfl) d "").downstream d).scheduled
    · exact h
  | fail d reason =>
    rw [handle, failTask_state]
    split
    · exact (h.setTaskStatus (Or.inr rfl) d _).blockDependents d
    · exact h
  | unblock d =>
    rw [handle, unblockTask_state]
    by_cases hd : t = d
    · exact h.map (f := fun x => if x.status = .blocked then unblocked now x else x)
        (by rw [get?_unblockTask, if_pos hd]) fun x _ _ _ hb => by rw [if_neg hb]
    · exact h.same (by rw [get?_unblockTask, if_neg hd])
  | advance d =>
    rw [handle]
    by_cases ha : AdvanceAccepted r.state d
    · have hd : t ≠ d := fun e => hn ⟨e.symm, e ▸ ha⟩
      rw [manualAdvance_accepted now ha]
      have hs : Over (r.state.setTaskStatus now d .ready) t :=
        h.same (by rw [get?_setTaskStatus, if_neg hd])
      exact hs.scheduled
    · rw [manualAdvance_refused ha]; exact h
  | dependencies d deps =>
    rw [handle, setDependencies_state]
    by_cases hd : t = d
    · exact h.map (f := withDependencies now deps) (by rw [get?_setDependencies, if_pos hd])
        fun x _ _ _ _ => rfl
    · exact h.same (by rw [get?_setDependencies, if_neg hd])
  | claim token d n =>
    rw [handle]
    by_cases hc : ClaimAccepted r.state d
    · have hd : t ≠ d := by
        rintro rfl
        obtain ⟨x, hx, hr, -⟩ := hc
        exact h.not_active ⟨x, hx, Or.inl hr⟩
      exact h.same (by rw [get?_claimTask hc, if_neg hd])
    · rw [claimTask_refused hc]; exact h
  | release d n reason =>
    rw [handle]
    by_cases ha : ReleaseAccepted r.state d n
    · have hd : t ≠ d := fun e => hn ⟨e.symm, e ▸ ha⟩
      exact h.same (by rw [releaseTask_accepted now ha, get?_releasedState, if_neg hd])
    · rw [releaseTask_refused ha]; exact h
  | trigger => exact Over.scheduled (Over.promoted h)

theorem Active.of_map {f : Task → Task} {x : Task} (hx : s.tasks.get? t = some x)
    (hget : s'.tasks.get? t = (s.tasks.get? t).map f)
    (hf : (f x).status = .ready ∨ (f x).status = .running) : Active s' t :=
  ⟨f x, by rw [hget, hx]; rfl, hf⟩

/-- **Handed out.**  A request that reopens a task makes it ready, or running if the
scheduler takes it at once. -/
theorem active_of_reopens (req : Time × Request) (h : Reopens r t req.2) :
    Active (r.step req).state t := by
  obtain ⟨now, req⟩ := req
  show Active (r.handle now req).2.state t
  cases req with
  | submit token title requires priority =>
    have hid : t = generateId "task" token := h.symm
    have hnew : (submitted r.state now token title requires priority).tasks.get? t =
        some (newTask now (generateId "task" token) title requires
          (if priority > 0 then priority else 3)) := by
      rw [submitted, get?_createTask, if_pos hid]
    refine Active.of_map hnew get?_triggerPendingTasks (Or.inl ?_)
    rw [promoted_status, if_pos ⟨rfl, rfl⟩]
  | advance d =>
    obtain ⟨rfl, ha⟩ := h
    obtain ⟨x, hx, -⟩ := id ha
    have hready : (r.state.setTaskStatus now d .ready).tasks.get? d =
        some (withStatus now .ready "" x) := by rw [get?_setTaskStatus, if_pos rfl, hx]; rfl
    rw [handle, manualAdvance_accepted now ha]
    refine Active.of_map hready get?_schedulePending ?_
    rw [scheduled_status]
    split
    · exact Or.inr rfl
    · exact Or.inl rfl
  | release d n reason =>
    obtain ⟨rfl, ha⟩ := h
    obtain ⟨x, hx, -⟩ := id ha
    rw [handle, releaseTask_accepted now ha]
    refine Active.of_map (f := fun x => releasedFor now reason (withStatus now .ready "" x)) hx
      ?_ (Or.inl rfl)
    rw [get?_releasedState, if_pos rfl]
  | _ => exact absurd h id

/-! ### Runs -/

/-- **Completed work.**  From any store, along any run of requests: a task that has
been completed is never ready or running again exactly when, once it has been
completed, no request reopens it. -/
theorem completed_never_active_again (r : TaskRouter) (run : List (Time × Request)) (t : TaskId) :
    (∀ l m, l ++ m <+: run → (exec step r l).state.Completed t →
        ¬ Active (exec step r (l ++ m)).state t) ↔
      ∀ l m req, l ++ m ++ [req] <+: run → (exec step r l).state.Completed t →
        ¬ Reopens (exec step r (l ++ m)) t req.2 := by
  refine never_after_iff (Q := fun r => r.state.Completed t) (S := fun r => Over r.state t)
    (R := fun r => Active r.state t) (B := fun r req => Reopens r t req.2) ?_ ?_ ?_ ?_ r run
  · rintro r ⟨x, hx, hc⟩
    exact ⟨x, hx, Or.inl hc⟩
  · exact fun r h => h.not_active
  · exact fun r req h hn => over_step h req hn
  · exact fun r req h => active_of_reopens req h

/-- A completed task is advanced; another is released by the node it ran on. -/
theorem completed_active_again :
    ((exec step init [(1, .submit "a" "build" [] 3), (2, .complete "task_a")]).state.Completed
        "task_a" ∧
      Active (exec step init [(1, .submit "a" "build" [] 3), (2, .complete "task_a"),
        (3, .advance "task_a")]).state "task_a") ∧
    ((exec step init [(1, .submit "a" "build" [] 3), (2, .claim "x" "task_a" "n1"),
        (3, .complete "task_a")]).state.Completed "task_a" ∧
      Active (exec step init [(1, .submit "a" "build" [] 3), (2, .claim "x" "task_a" "n1"),
        (3, .complete "task_a"), (4, .release "task_a" "n1" none)]).state "task_a") :=
  ⟨⟨⟨_, rfl, by decide⟩, by decide⟩, ⟨⟨_, rfl, by decide⟩, by decide⟩⟩

end HermesCluster.TaskRouter
