import HermesCluster.Recovery.Pipeline
import HermesCluster.State.TaskSpec

/-!
# What rescheduling does

`Rescheduled O s s'` says that the tasks in `O` were rescheduled, a relation closed
under doing one thing after another.  Where such a task ends up depends only on the
nodes: on the first online node that fits it, or failed (`settledPlacement`).  Every
pass of the scheduler also takes the other ready tasks along (`scheduledPlacement`), so
these move as soon as `O` is not empty.

`rescheduled_rescheduleOrphaned` is the result: `reschedule_orphaned` reschedules the
tasks of its list that exist.
-/

namespace HermesCluster

/-- Where a task is: its status and its assignee. -/
abbrev Placement := TaskStatus × Option NodeId

def Task.placement (x : Task) : Placement := (x.status, x.assignedTo)

namespace ClusterState

variable {s s' s₁ s₂ : ClusterState} {now : Time} {k t : TaskId} {n : NodeId}

/-- Where a pass of the scheduler leaves a task. -/
def scheduledPlacement (s : ClusterState) (requires : List Capability) (p : Placement) :
    Placement :=
  if p.1 = .ready then
    match s.firstFit requires with
    | some node => (.running, some node.id)
    | none => p
  else p

/-- Where rescheduling leaves a task, wherever it was. -/
def settledPlacement (s : ClusterState) (requires : List Capability) : Placement :=
  match s.firstFit requires with
  | some node => if node.id = "" then (.failed, some "") else (.running, some node.id)
  | none => (.failed, none)

theorem scheduledPlacement_of_not_ready {requires : List Capability} {p : Placement}
    (h : p.1 ≠ .ready) : s.scheduledPlacement requires p = p := if_neg h

theorem scheduled_placement (x : Task) :
    (s.scheduled now x).placement = s.scheduledPlacement x.requires x.placement := by
  by_cases hr : x.status = .ready
  · cases hf : s.firstFit x.requires with
    | none => rw [scheduled_of_noFit hf, scheduledPlacement, hf]; simp
    | some node =>
      rw [scheduled_of_fit hr hf, scheduledPlacement, hf]; exact (if_pos hr).symm
  · rw [scheduled_of_not_ready hr, scheduledPlacement_of_not_ready hr]

theorem settledPlacement_not_ready (requires : List Capability) :
    (s.settledPlacement requires).1 ≠ .ready := by
  unfold settledPlacement
  split
  · split <;> simp
  · simp

theorem scheduledPlacement_idem (requires : List Capability) (p : Placement) :
    s.scheduledPlacement requires (s.scheduledPlacement requires p) =
      s.scheduledPlacement requires p := by
  by_cases h : p.1 = .ready
  · cases hf : s.firstFit requires with
    | none => simp [scheduledPlacement, hf]
    | some node => simp [scheduledPlacement, hf, h]
  · rw [scheduledPlacement_of_not_ready h, scheduledPlacement_of_not_ready h]

theorem firstFit_congr (h : s'.nodes = s.nodes) (requires : List Capability) :
    s'.firstFit requires = s.firstFit requires := by
  rw [firstFit, onlineNodes, h]; rfl

/-! ### Rescheduling -/

open Classical in
/-- Where a task is after the tasks in `O` have been rescheduled. -/
noncomputable def afterReschedule (O : TaskId → Prop) (s : ClusterState) (k : TaskId) (x : Task) :
    Placement :=
  if O k then s.settledPlacement x.requires
  else if ∃ j, O j then s.scheduledPlacement x.requires x.placement
  else x.placement

/-- The tasks in `O` were rescheduled. -/
structure Rescheduled (O : TaskId → Prop) (s s' : ClusterState) : Prop where
  nodes : s'.nodes = s.nodes
  absent : ∀ k, s.tasks.get? k = none → s'.tasks.get? k = none
  present : ∀ k x, s.tasks.get? k = some x → ∃ x', s'.tasks.get? k = some x' ∧
    x'.requires = x.requires ∧ x'.placement = afterReschedule O s k x

theorem afterReschedule_of_mem {O : TaskId → Prop} {x : Task} (h : O k) :
    afterReschedule O s k x = s.settledPlacement x.requires := if_pos h

theorem afterReschedule_of_not_mem {O : TaskId → Prop} {x : Task} (h : ¬ O k) {j : TaskId}
    (hj : O j) : afterReschedule O s k x = s.scheduledPlacement x.requires x.placement := by
  rw [afterReschedule, if_neg h, if_pos ⟨j, hj⟩]

theorem afterReschedule_of_empty {O : TaskId → Prop} {x : Task} (h : ¬ ∃ j, O j) :
    afterReschedule O s k x = x.placement := by
  rw [afterReschedule, if_neg (fun hk => h ⟨k, hk⟩), if_neg h]

theorem Rescheduled.of_tasks_eq (hn : s'.nodes = s.nodes) (ht : s'.tasks = s.tasks) :
    Rescheduled (fun _ => False) s s' := by
  refine ⟨hn, fun k hk => by rw [ht]; exact hk, fun k x hx => ⟨x, by rw [ht]; exact hx, rfl, ?_⟩⟩
  rw [afterReschedule_of_empty (fun ⟨j, hj⟩ => hj)]

theorem Rescheduled.congr {O O' : TaskId → Prop} (h : Rescheduled O s s')
    (ho : ∀ k, O k ↔ O' k) : Rescheduled O' s s' := by
  have he : O = O' := funext fun k => propext (ho k)
  exact he ▸ h

theorem Rescheduled.isSome (h : Rescheduled O s s') (k : TaskId) :
    (s'.tasks.get? k).isSome = (s.tasks.get? k).isSome := by
  cases hk : s.tasks.get? k with
  | none => rw [h.absent k hk]
  | some x =>
    obtain ⟨x', hx', -⟩ := h.present k x hk
    rw [hx']; rfl

/-- Rescheduling twice reschedules what either time did. -/
theorem Rescheduled.trans {O₁ O₂ : TaskId → Prop} (h₁ : Rescheduled O₁ s s₁)
    (h₂ : Rescheduled O₂ s₁ s₂) : Rescheduled (fun k => O₁ k ∨ O₂ k) s s₂ := by
  refine ⟨h₂.nodes.trans h₁.nodes, fun k hk => h₂.absent k (h₁.absent k hk), fun k x hx => ?_⟩
  obtain ⟨x₁, hx₁, hreq₁, hp₁⟩ := h₁.present k x hx
  obtain ⟨x₂, hx₂, hreq₂, hp₂⟩ := h₂.present k x₁ hx₁
  refine ⟨x₂, hx₂, hreq₂.trans hreq₁, ?_⟩
  have hsettled : s₁.settledPlacement x₁.requires = s.settledPlacement x.requires := by
    rw [settledPlacement, firstFit_congr h₁.nodes, hreq₁]; rfl
  have hsched : ∀ p, s₁.scheduledPlacement x₁.requires p = s.scheduledPlacement x.requires p := by
    intro p
    rw [scheduledPlacement, firstFit_congr h₁.nodes, hreq₁]; rfl
  rw [hp₂]
  by_cases ho₂ : O₂ k
  · rw [afterReschedule_of_mem ho₂, afterReschedule_of_mem (Or.inr ho₂), hsettled]
  · by_cases ho₁ : O₁ k
    · -- already settled, and so no longer ready for the second scheduler
      rw [afterReschedule_of_mem (O := fun k => O₁ k ∨ O₂ k) (Or.inl ho₁)]
      have hp : x₁.placement = s.settledPlacement x.requires :=
        hp₁.trans (afterReschedule_of_mem ho₁)
      by_cases he : ∃ j, O₂ j
      · obtain ⟨j, hj⟩ := he
        rw [afterReschedule_of_not_mem ho₂ hj, hsched, hp,
          scheduledPlacement_of_not_ready (settledPlacement_not_ready _)]
      · rw [afterReschedule_of_empty he, hp]
    · have ho : ¬ (O₁ k ∨ O₂ k) := fun h => h.elim ho₁ ho₂
      by_cases he₁ : ∃ j, O₁ j
      · obtain ⟨j₁, hj₁⟩ := he₁
        have hp := hp₁.trans (afterReschedule_of_not_mem ho₁ hj₁)
        rw [afterReschedule_of_not_mem (O := fun k => O₁ k ∨ O₂ k) ho (Or.inl hj₁)]
        by_cases he₂ : ∃ j, O₂ j
        · obtain ⟨j, hj⟩ := he₂
          rw [afterReschedule_of_not_mem ho₂ hj, hsched, hp, scheduledPlacement_idem]
        · rw [afterReschedule_of_empty he₂, hp]
      · have hp := hp₁.trans (afterReschedule_of_empty he₁)
        by_cases he₂ : ∃ j, O₂ j
        · obtain ⟨j, hj⟩ := he₂
          rw [afterReschedule_of_not_mem ho₂ hj, hsched, hp,
            afterReschedule_of_not_mem (O := fun k => O₁ k ∨ O₂ k) ho (Or.inr hj)]
        · rw [afterReschedule_of_empty he₂, hp, afterReschedule_of_empty
            (fun ⟨j, hj⟩ => hj.elim (fun h => he₁ ⟨j, h⟩) (fun h => he₂ ⟨j, h⟩))]

/-! ### `Rescheduler` -/

open Rescheduler in
theorem get?_markFailed : (markFailed s now t).tasks.get? k =
    if k = t then (s.tasks.get? k).map
      (withStatus now .failed "no available node for reschedule") else s.tasks.get? k :=
  get?_setTaskStatus _ _

/-- `retried now t s` is the store in which `reschedule_orphaned` looks at `t` again. -/
def retried (now : Time) (t : TaskId) (s : ClusterState) : ClusterState :=
  ((s.unassignTask now t).schedulePending now).2

theorem nodes_retried : (s.retried now t).nodes = s.nodes :=
  (sameButTasks_schedulePending (s := s.unassignTask now t)).nodes

theorem get?_retried_self {x : Task} (ht : s.tasks.get? t = some x) :
    (s.retried now t).tasks.get? t = some (s.scheduled now (unassigned now x)) := by
  rw [retried, get?_schedulePending, get?_unassignTask, if_pos rfl, ht]; rfl

theorem get?_retried_ne (hk : k ≠ t) :
    (s.retried now t).tasks.get? k = (s.tasks.get? k).map (s.scheduled now) := by
  rw [retried, get?_schedulePending, get?_unassignTask, if_neg hk]; rfl

theorem retried_placement (s : ClusterState) (now : Time) (x : Task) :
    (s.scheduled now (unassigned now x)).placement =
    match s.firstFit x.requires with
    | some node => (.running, some node.id)
    | none => (.ready, none) := scheduled_placement _

section RescheduleOne

open Rescheduler

variable {acc : Nat × ClusterState} {x : Task}

/-- The scheduler assigns the task to the first node that fits, if any. -/
theorem gotAssigned_retried (now : Time) (ht : s.tasks.get? t = some x) :
    gotAssigned (s.retried now t) t = ((s.firstFit x.requires).map Node.id).filter (· ≠ "") := by
  have hself : (s.retried now t).getTask t = _ := get?_retried_self ht
  rw [gotAssigned, hself, Option.bind_some]
  have hplace := congrArg Prod.snd (retried_placement s now x)
  change Task.assignedTo _ = _ at hplace
  rw [hplace]
  cases s.firstFit x.requires <;> rfl

theorem rescheduleOne_state (now : Time) (ht : acc.2.tasks.get? t = some x) :
    (rescheduleOne now acc t).2 =
      if 0 < ((acc.2.unassignTask now t).schedulePending now).1 then
        (gotAssigned (acc.2.retried now t) t).elim (markFailed (acc.2.retried now t) now t)
          fun nodeId => (acc.2.retried now t).appendRecoveryEvent now
            { taskId := t, action := "reschedule", status := "completed", timestamp := now,
              message := some ("Rescheduled to node " ++ nodeId) }
      else markFailed (acc.2.retried now t) now t := by
  unfold rescheduleOne getTask
  simp only [ht, gt_iff_lt, retried]
  split
  · cases gotAssigned ((acc.2.unassignTask now t).schedulePending now).2 t <;> rfl
  · rfl

/-- The scheduler counts the task itself, when a node fits it. -/
theorem schedulePending_unassign_pos {node : Node} (now : Time) (ht : s.tasks.get? t = some x)
    (hf : s.firstFit x.requires = some node) :
    0 < ((s.unassignTask now t).schedulePending now).1 := by
  refine schedulePending_pos.mpr ⟨t, unassigned now x, ?_, rfl, ?_⟩
  · rw [get?_unassignTask, if_pos rfl, ht]; rfl
  · show (s.firstFit x.requires).isSome
    rw [hf]; rfl

/-- The task is kept where the scheduler put it, or marked failed. -/
theorem rescheduleOne_cases (now : Time) (ht : acc.2.tasks.get? t = some x) :
    (∃ node, acc.2.firstFit x.requires = some node ∧ node.id ≠ "" ∧
      (rescheduleOne now acc t).2.tasks = (acc.2.retried now t).tasks ∧
      (rescheduleOne now acc t).2.nodes = (acc.2.retried now t).nodes) ∨
    ((∀ node, acc.2.firstFit x.requires = some node → node.id = "") ∧
      (rescheduleOne now acc t).2 = markFailed (acc.2.retried now t) now t) := by
  have hgot := gotAssigned_retried now ht
  have hstate := rescheduleOne_state now ht
  cases hf : acc.2.firstFit x.requires with
  | none =>
    have hnone : gotAssigned (acc.2.retried now t) t = none := by rw [hgot, hf]; rfl
    refine Or.inr ⟨fun node h => (by cases h), ?_⟩
    rw [hstate, hnone]
    exact ite_self _
  | some node =>
    rw [hf, Option.map_some] at hgot
    by_cases hid : node.id = ""
    · have hnone : gotAssigned (acc.2.retried now t) t = none := by rw [hgot, hid]; rfl
      refine Or.inr ⟨fun node' h => by rw [← Option.some.inj h]; exact hid, ?_⟩
      rw [hstate, hnone]
      exact ite_self _
    · have hsome : gotAssigned (acc.2.retried now t) t = some node.id := by
        rw [hgot, Option.filter_some, if_pos (by simpa using hid)]
      refine Or.inl ⟨node, rfl, hid, ?_⟩
      rw [hstate, if_pos (schedulePending_unassign_pos now ht hf), hsome]
      exact ⟨rfl, rfl⟩

/-- One task is rescheduled when it ends where it should and the others where the
scheduler leaves them. -/
theorem Rescheduled.of_one (ht : s.tasks.get? t = some x) (hn : s'.nodes = s.nodes)
    (hne : ∀ k, k ≠ t → s'.tasks.get? k = (s.tasks.get? k).map (s.scheduled now))
    (x' : Task) (hx' : s'.tasks.get? t = some x') (hreq : x'.requires = x.requires)
    (hp : x'.placement = s.settledPlacement x.requires) :
    Rescheduled (fun k => k = t) s s' := by
  refine ⟨hn, fun k hk => ?_, fun k y hy => ?_⟩
  · have hkt : k ≠ t := fun e => by rw [e, ht] at hk; cases hk
    rw [hne k hkt, hk]; rfl
  · by_cases hkt : k = t
    · subst hkt
      rw [ht] at hy
      obtain rfl := Option.some.inj hy
      exact ⟨x', hx', hreq, hp.trans (afterReschedule_of_mem (O := fun j => j = k) rfl).symm⟩
    · refine ⟨s.scheduled now y, by rw [hne k hkt, hy]; rfl, scheduled_requires y, ?_⟩
      rw [afterReschedule_of_not_mem (O := fun j => j = t) hkt (j := t) rfl, scheduled_placement]

/-- **One task rescheduled.** -/
theorem rescheduled_rescheduleOne (now : Time) (acc : Nat × ClusterState) (t : TaskId) :
    Rescheduled (fun k => k = t ∧ (acc.2.tasks.get? t).isSome) acc.2
      (rescheduleOne now acc t).2 := by
  cases ht : acc.2.tasks.get? t with
  | none =>
    have hsame : (rescheduleOne now acc t).2 = acc.2 := by
      unfold rescheduleOne getTask
      rw [ht]
    exact (Rescheduled.of_tasks_eq (by rw [hsame]) (by rw [hsame])).congr fun k => by simp
  | some x =>
    have hplace := retried_placement acc.2 now x
    refine Rescheduled.congr (O := fun k => k = t) ?_ fun k => by simp
    rcases rescheduleOne_cases now ht with ⟨node, hf, hid, htasks, hnodes⟩ | ⟨hf, hfailed⟩
    · refine Rescheduled.of_one ht (hnodes.trans nodes_retried)
        (fun k hk => by rw [htasks]; exact get?_retried_ne hk)
        (acc.2.scheduled now (unassigned now x))
        (by rw [htasks]; exact get?_retried_self ht) (scheduled_requires _) ?_
      rw [hplace, settledPlacement, hf]
      exact (if_neg hid).symm
    · rw [hfailed]
      refine Rescheduled.of_one ht nodes_retried
        (fun k hk => by rw [get?_markFailed, if_neg hk]; exact get?_retried_ne hk)
        (withStatus now .failed "no available node for reschedule"
          (acc.2.scheduled now (unassigned now x)))
        (by rw [get?_markFailed, if_pos rfl, get?_retried_self ht]; rfl) (scheduled_requires _) ?_
      have hassigned := congrArg Prod.snd hplace
      change Task.assignedTo _ = _ at hassigned
      show (TaskStatus.failed, Task.assignedTo (acc.2.scheduled now (unassigned now x))) = _
      rw [hassigned, settledPlacement]
      cases hfit : acc.2.firstFit x.requires with
      | none => rfl
      | some node =>
        have hid := hf node hfit
        simp [hid]

end RescheduleOne

/-- **A list of tasks rescheduled.** -/
theorem rescheduled_rescheduleOrphaned (now : Time) : ∀ (l : List TaskId)
    (acc : Nat × ClusterState),
    Rescheduled (fun k => k ∈ l ∧ (acc.2.tasks.get? k).isSome) acc.2
      (l.foldl (Rescheduler.rescheduleOne now) acc).2 := by
  intro l
  induction l with
  | nil => intro acc; exact (Rescheduled.of_tasks_eq rfl rfl).congr fun k => by simp
  | cons t l ih =>
    intro acc
    have hone := rescheduled_rescheduleOne now acc t
    refine (hone.trans (ih _)).congr fun k => ?_
    rw [hone.isSome, List.mem_cons]
    refine ⟨?_, ?_⟩
    · rintro (⟨rfl, h⟩ | ⟨h, hs⟩)
      · exact ⟨Or.inl rfl, h⟩
      · exact ⟨Or.inr h, hs⟩
    · rintro ⟨rfl | h, hs⟩
      · exact Or.inl ⟨rfl, hs⟩
      · exact Or.inr ⟨h, hs⟩

end ClusterState

end HermesCluster
