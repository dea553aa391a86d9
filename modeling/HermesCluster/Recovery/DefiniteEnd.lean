import HermesCluster.Recovery.AuditLog
import HermesCluster.State.Scheduling

/-!
# Where rescheduling ends

Every listed task is to end running on an online node that fits it, or failed and without
an assignee.  `reschedule_orphaned` tells the two apart by `if task and task.assigned_to`,
which does not see a node whose id is the empty string: the task it put there ends failed
and assigned.
-/

namespace HermesCluster.ClusterState

variable {s s' : ClusterState} {now : Time} {t : TaskId} {ids : List TaskId}

/-- `x` was given up. -/
def GivenUp (x : Task) : Prop := x.status = .failed ∧ x.assignedTo = none

/-- The events appended between `s` and `s'` are counted by `rescheduled`, and there is one
for each entry of `ids` that names a task of `s`. -/
def EventsCounted (s s' : ClusterState) (ids : List TaskId) (rescheduled : Nat) : Prop :=
  ∃ new, s'.recoveryEvents = s.recoveryEvents ++ new ∧
    rescheduled = countAction "reschedule" new ∧
    countAction "reschedule" new + countAction "mark_failed" new =
      ids.countP (fun t => (s.tasks.get? t).isSome)

/-- Rescheduling `ids` reaches a definite end. -/
def DefiniteEnd (s : ClusterState) (now : Time) (ids : List TaskId) : Prop :=
  let r := Rescheduler.rescheduleOrphaned s now ids
  (∀ t ∈ ids, (s.tasks.get? t).isSome → ∃ y, r.2.tasks.get? t = some y ∧
    (RunsSuitably r.2.nodes y ∨ GivenUp y)) ∧ EventsCounted s r.2 ids r.1

/-! ### The events -/

theorem outcome_isSome (s : ClusterState) (now : Time) (t : TaskId) :
    (s.outcome now t).isSome = (s.tasks.get? t).isSome := Option.isSome_map

/-- One event, of one of the two kinds, for each entry that names a task. -/
theorem countAction_outcomes (s : ClusterState) (now : Time) (ids : List TaskId) :
    countAction "reschedule" (ids.filterMap (s.outcome now)) +
      countAction "mark_failed" (ids.filterMap (s.outcome now)) =
        ids.countP (fun t => (s.tasks.get? t).isSome) := by
  induction ids with
  | nil => rfl
  | cons t ids ih =>
    rw [List.countP_cons, ← outcome_isSome s now]
    cases he : s.outcome now t with
    | none =>
      rw [List.filterMap_cons_none he, ih]
      rfl
    | some e =>
      rw [List.filterMap_cons_some he, countAction, countAction, List.countP_cons,
        List.countP_cons]
      simp only [countAction] at ih
      rcases (outcome_action he).2 with ha | ha
      · simp only [ha, Option.isSome_some, if_true]
        simp
        omega
      · simp only [ha, Option.isSome_some, if_true]
        simp
        omega

theorem eventsCounted (s : ClusterState) (now : Time) (ids : List TaskId) :
    EventsCounted s (Rescheduler.rescheduleOrphaned s now ids).2 ids
      (Rescheduler.rescheduleOrphaned s now ids).1 := by
  obtain ⟨hlog, hcount⟩ := rescheduleOrphaned_log s now ids
  exact ⟨_, hlog, hcount, countAction_outcomes s now ids⟩

/-! ### The tasks -/

/-- A task settled where `settledPlacement` says is definitely settled, unless the node has
no name. -/
theorem settled_iff {x y : Task} (hnodes : s'.nodes = s.nodes) (hreq : y.requires = x.requires)
    (hplace : y.placement = s.settledPlacement x.requires) :
    (RunsSuitably s'.nodes y ∨ GivenUp y) ↔
      ∀ node, s.firstFit x.requires = some node → node.id ≠ "" := by
  have hstatus : y.status = (s.settledPlacement x.requires).1 := congrArg Prod.fst hplace
  have hassigned : y.assignedTo = (s.settledPlacement x.requires).2 := congrArg Prod.snd hplace
  rw [RunsSuitably, GivenUp, hstatus, hassigned, hreq, hnodes]
  cases hf : s.firstFit x.requires with
  | none => simp [settledPlacement, hf]
  | some node =>
    by_cases hid : node.id = ""
    · simp [settledPlacement, hf, hid]
    · have hspec := find?_online hf
      simp only [settledPlacement, hf, if_neg hid]
      refine iff_of_true (.inl ⟨trivial, node.id, node, rfl, hspec⟩) ?_
      intro node' h
      cases h
      exact hid

/-- **Rescheduling reaches a definite end** exactly when no listed task has a node without
a name as the first online node that fits it. -/
theorem definite_end_iff (s : ClusterState) (now : Time) (ids : List TaskId) :
    DefiniteEnd s now ids ↔ ∀ t ∈ ids, ∀ x, s.tasks.get? t = some x →
      ∀ node, s.firstFit x.requires = some node → node.id ≠ "" := by
  have hspec := rescheduled_rescheduleOrphaned now ids (0, s)
  have hone : ∀ t ∈ ids, ∀ x, s.tasks.get? t = some x → ∃ y,
      (Rescheduler.rescheduleOrphaned s now ids).2.tasks.get? t = some y ∧
      y.requires = x.requires ∧ y.placement = s.settledPlacement x.requires := by
    intro t ht x hx
    obtain ⟨y, hy, hreq, hplace⟩ := hspec.present t x hx
    refine ⟨y, hy, hreq, hplace.trans (afterReschedule_of_mem ?_)⟩
    show t ∈ ids ∧ (s.tasks.get? t).isSome
    rw [hx]
    exact ⟨ht, rfl⟩
  rw [DefiniteEnd, and_iff_left (eventsCounted s now ids)]
  refine forall₂_congr fun t ht => ⟨?_, ?_⟩
  · intro h x hx
    obtain ⟨y, hy, hreq, hplace⟩ := hone t ht x hx
    obtain ⟨y', hy', hend⟩ := h (by rw [hx]; rfl)
    obtain rfl := Option.some.inj (hy.symm.trans hy')
    exact (settled_iff hspec.nodes hreq hplace).mp hend
  · intro h hsome
    obtain ⟨x, hx⟩ := Option.isSome_iff_exists.mp hsome
    obtain ⟨y, hy, hreq, hplace⟩ := hone t ht x hx
    exact ⟨y, hy, (settled_iff hspec.nodes hreq hplace).mpr (h x hx)⟩

/-- The only online node has the empty id: the task is failed, and assigned to it. -/
theorem indefinite_end :
    let s : ClusterState :=
      { nodes := Table.empty.put { id := "", name := "worker", lastHeartbeat := ⟨0, none⟩ }
        tasks := Table.empty.put (newTask 1 "task_a" "build" [] 3) }
    (((Rescheduler.rescheduleOrphaned s 2 ["task_a"]).2.tasks.get? "task_a").map
        Task.placement = some (.failed, some "")) ∧
      ¬ DefiniteEnd s 2 ["task_a"] := by
  refine ⟨by decide, ?_⟩
  rintro ⟨hend, -⟩
  obtain ⟨y, hy, hrun | hgone⟩ := hend "task_a" (by decide) (by decide)
  · cases hy
    exact absurd hrun.1 (by decide)
  · cases hy
    exact absurd hgone.2 (by decide)

end HermesCluster.ClusterState
