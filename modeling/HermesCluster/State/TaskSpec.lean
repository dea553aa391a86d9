import HermesCluster.State.ClusterState

/-!
# What the task methods of `ClusterState` do

One lemma per method, at one task id: `get?_setTaskStatus`, `get?_unassignTask`
and so on.  The two loops are the substance.

* `get?_triggerPendingTasks`: each task is promoted or not by looking at the
  table as it was before the loop (`promoted`); promotions made earlier in the
  loop do not matter, since they complete nothing.
* `get?_schedulePending`: each ready task goes to the first online node that
  fits it (`scheduled`), whatever the order of the loop.

`SameButTasks` is the frame: what these methods leave alone.
-/

namespace HermesCluster.ClusterState

variable {s s' : ClusterState} {now : Time} {t k : TaskId}

/-! ### The frame of the task methods -/

/-- Everything but the tasks and the decision log is unchanged. -/
structure SameButTasks (s s' : ClusterState) : Prop where
  nodes : s'.nodes = s.nodes
  leases : s'.leases = s.leases
  taskLeaseIndex : s'.taskLeaseIndex = s.taskLeaseIndex
  leaseCallbackCalls : s'.leaseCallbackCalls = s.leaseCallbackCalls
  recoveryEvents : s'.recoveryEvents = s.recoveryEvents

theorem SameButTasks.refl (s : ClusterState) : SameButTasks s s := ⟨rfl, rfl, rfl, rfl, rfl⟩

theorem SameButTasks.trans {s₁ s₂ s₃ : ClusterState} (h : SameButTasks s₁ s₂)
    (g : SameButTasks s₂ s₃) : SameButTasks s₁ s₃ :=
  ⟨g.nodes.trans h.nodes, g.leases.trans h.leases, g.taskLeaseIndex.trans h.taskLeaseIndex,
    g.leaseCallbackCalls.trans h.leaseCallbackCalls, g.recoveryEvents.trans h.recoveryEvents⟩

/-- A loop whose turns leave everything but the tasks alone. -/
theorem sameButTasks_foldl {σ ι : Type*} (store : σ → ClusterState) {f : σ → ι → σ}
    (hf : ∀ r i, SameButTasks (store r) (store (f r i))) (l : List ι) (r : σ) :
    SameButTasks (store r) (store (l.foldl f r)) :=
  List.foldlRecOn (motive := fun r' => SameButTasks (store r) (store r')) l f
    (SameButTasks.refl _) fun r' h i _ => h.trans (hf r' i)

theorem SameButTasks.onlineNodes (h : SameButTasks s s') : s'.onlineNodes = s.onlineNodes := by
  rw [ClusterState.onlineNodes, h.nodes]; rfl

theorem SameButTasks.firstFit (h : SameButTasks s s') (requires : List Capability) :
    s'.firstFit requires = s.firstFit requires := by
  rw [ClusterState.firstFit, h.onlineNodes]; rfl

theorem sameButTasks_setTaskStatus (status : TaskStatus) (reason : String) :
    SameButTasks s (s.setTaskStatus now t status reason) := ⟨rfl, rfl, rfl, rfl, rfl⟩

/-! ### Single updates -/

theorem get?_setTaskStatus (status : TaskStatus) (reason : String) :
    (s.setTaskStatus now t status reason).tasks.get? k =
      if k = t then (s.tasks.get? k).map (withStatus now status reason) else s.tasks.get? k :=
  Table.get?_modify _ _ (withStatus now status reason) (fun _ => rfl) _

theorem get?_createTask (title : String) (requires : List Capability) (priority : Int) :
    (s.createTask now t title requires priority).tasks.get? k =
      if k = t then some (newTask now t title requires priority) else s.tasks.get? k :=
  Table.get?_put _ _ _

theorem get?_promote : (s.promote now t).tasks.get? k =
    if k = t then (s.tasks.get? k).map (madeReady now) else s.tasks.get? k :=
  Table.get?_modify _ _ (madeReady now) (fun _ => rfl) _

theorem get?_unassignTask : (s.unassignTask now t).tasks.get? k =
    if k = t then (s.tasks.get? k).map (unassigned now) else s.tasks.get? k :=
  Table.get?_modify _ _ (unassigned now) (fun _ => rfl) _

/-- What `unblock_task` makes of a task under its id. -/
theorem get?_unblockTask : (s.unblockTask now t).2.tasks.get? k =
    if k = t then (s.tasks.get? k).map
      (fun x => if x.status = .blocked then unblocked now x else x)
    else s.tasks.get? k := by
  unfold ClusterState.unblockTask
  cases ht : s.tasks.get? t with
  | none =>
    by_cases hk : k = t
    · rw [if_pos hk, hk, ht]; rfl
    · rw [if_neg hk]
  | some x =>
    by_cases hb : x.status = .blocked
    · simp only [hb, if_true]
      refine (Table.get?_modify _ _ (unblocked now) (fun _ => rfl) _).trans ?_
      by_cases hk : k = t
      · simp [hk, ht, hb]
      · simp [hk]
    · simp only [hb, if_false]
      by_cases hk : k = t
      · simp [hk, ht, hb]
      · simp [hk]

theorem sameButTasks_unblockTask (s : ClusterState) (now : Time) (t : TaskId) :
    SameButTasks s (s.unblockTask now t).2 := by
  rw [ClusterState.unblockTask]
  split
  · exact SameButTasks.refl s
  · split
    · exact ⟨rfl, rfl, rfl, rfl, rfl⟩
    · exact SameButTasks.refl s

theorem get?_setDependencies (deps : List TaskId) :
    (s.setDependencies now t deps).tasks.get? k =
      if k = t then (s.tasks.get? k).map (withDependencies now deps) else s.tasks.get? k :=
  Table.get?_modify _ _ (withDependencies now deps) (fun _ => rfl) _

/-- An applied task state writes the task it names, old or new, and no other. -/
theorem get?_applyTaskState (s : ClusterState) (now : Time) (ts : TaskSync) (k : TaskId) :
    (s.applyTaskState now ts).tasks.get? k =
      if k = ts.taskId then some ((s.tasks.get? k).elim (syncedNew now ts) (synced now ts))
      else s.tasks.get? k := by
  unfold applyTaskState
  cases hget : s.tasks.get? ts.taskId with
  | none =>
    refine (Table.get?_put _ _ _).trans ?_
    by_cases hid : k = ts.taskId
    · rw [if_pos hid, hid, hget]
      exact if_pos rfl
    · rw [if_neg hid]
      exact if_neg hid
  | some x =>
    refine (Table.get?_modify s.tasks ts.taskId (synced now ts) (fun _ => rfl) k).trans ?_
    by_cases hid : k = ts.taskId
    · rw [if_pos hid, if_pos hid, hid, hget]
      rfl
    · rw [if_neg hid, if_neg hid]

theorem mem_getDependents {d : TaskId} :
    d ∈ s.getDependents t ↔ ∃ x, s.tasks.get? d = some x ∧ t ∈ x.dependsOn := by
  refine Table.mem_map_key_filter.trans ?_
  simp only [decide_eq_true_eq]

theorem nodup_getDependents : (s.getDependents t).Nodup :=
  (List.filter_sublist.map Task.id).nodup s.tasks.nodup

/-! ### Completed tasks -/

/-- `t` names a completed task. -/
def Completed (s : ClusterState) (t : TaskId) : Prop :=
  ∃ x, s.tasks.get? t = some x ∧ x.status = .completed

instance : Decidable (s.Completed t) :=
  decidable_of_iff (∃ x ∈ s.tasks.get? t, x.status = .completed) (by simp [Completed])

theorem allDone_iff {deps : List TaskId} : s.allDone deps ↔ ∀ d ∈ deps, s.Completed d := by
  rw [allDone, List.all_eq_true]
  refine forall₂_congr (fun d _ => ?_)
  cases h : s.tasks.get? d with
  | none => simp [Completed, h]
  | some x => simp [Completed, h]

theorem allDone_congr (h : ∀ d, s'.Completed d ↔ s.Completed d) (deps : List TaskId) :
    s'.allDone deps = s.allDone deps := by
  rw [Bool.eq_iff_iff, allDone_iff, allDone_iff]
  exact forall₂_congr (fun d _ => h d)

/-- An update at every task that neither completes a task nor undoes a completion
leaves the completed tasks as they are. -/
theorem completed_congr_of_map {f : Task → Task}
    (h : ∀ k, s'.tasks.get? k = (s.tasks.get? k).map f)
    (hf : ∀ k x, s.tasks.get? k = some x → ((f x).status = .completed ↔ x.status = .completed)) :
    ∀ d, s'.Completed d ↔ s.Completed d := by
  intro d
  cases hd : s.tasks.get? d with
  | none => simp [Completed, h, hd]
  | some x => simpa [Completed, h, hd] using hf d x hd

/-- An update of one task leaves the other completed tasks as they are. -/
theorem completed_update {f : Task → Task}
    (hget : ∀ k, s'.tasks.get? k = if k = t then (s.tasks.get? k).map f else s.tasks.get? k)
    (d : TaskId) (hd : d ≠ t) : s'.Completed d ↔ s.Completed d := by
  rw [Completed, Completed, hget, if_neg hd]

/-- The same for an update of one task. -/
theorem completed_congr_of_update {f : Task → Task}
    (h : ∀ k, s'.tasks.get? k = if k = t then (s.tasks.get? k).map f else s.tasks.get? k)
    (hf : ∀ x, s.tasks.get? t = some x → ((f x).status = .completed ↔ x.status = .completed)) :
    ∀ d, s'.Completed d ↔ s.Completed d := by
  intro d
  by_cases hd : d = t
  · subst hd
    cases hx : s.tasks.get? d with
    | none => simp [Completed, h, hx]
    | some x => simpa [Completed, h, hx] using hf x hx
  · rw [Completed, Completed, h, if_neg hd]

/-! ### `trigger_pending_tasks` -/

/-- What `trigger_pending_tasks` does to a task of the table `s`. -/
def promoted (s : ClusterState) (now : Time) (x : Task) : Task :=
  if x.status = .pending ∧ s.allDone x.dependsOn then madeReady now x else x

@[simp] theorem promoted_dependsOn (x : Task) :
    (s.promoted now x).dependsOn = x.dependsOn := by unfold promoted; split <;> rfl

@[simp] theorem promoted_assignedTo (x : Task) :
    (s.promoted now x).assignedTo = x.assignedTo := by unfold promoted; split <;> rfl

@[simp] theorem promoted_requires (x : Task) :
    (s.promoted now x).requires = x.requires := by unfold promoted; split <;> rfl

theorem promoted_status (x : Task) : (s.promoted now x).status =
    if x.status = .pending ∧ s.allDone x.dependsOn then .ready else x.status := by
  unfold promoted; split <;> rfl

/-- One turn of the loop: the empty dependency list needs no case of its own. -/
theorem triggerOne_eq (acc : Nat × ClusterState) (x : Task) : triggerOne now acc x =
    if x.status = .pending ∧ acc.2.allDone x.dependsOn then
      (acc.1 + 1, acc.2.promote now x.id) else acc := by
  unfold triggerOne
  by_cases hp : x.status = .pending
  · by_cases hd : x.dependsOn = []
    · simp [hp, hd, allDone]
    · simp [hp, hd]
  · simp [hp]

theorem completed_promote (hx : ∀ x, s.tasks.get? t = some x → x.status ≠ .completed) :
    ∀ d, (s.promote now t).Completed d ↔ s.Completed d := by
  intro d
  by_cases hd : d = t
  · subst hd
    refine ⟨?_, ?_⟩
    · rintro ⟨y, hy, hc⟩
      rw [get?_promote, if_pos rfl, Option.map_eq_some_iff] at hy
      obtain ⟨x, -, rfl⟩ := hy
      cases hc
    · rintro ⟨x, hx', hc⟩
      exact absurd hc (hx x hx')
  · simp [Completed, get?_promote, hd]

/-- What a turn of the loop makes of the row `r` for the listed task `x`. -/
def promotedRow (s : ClusterState) (now : Time) (x r : Task) : Task :=
  if x.status = .pending ∧ s.allDone x.dependsOn then madeReady now r else r

theorem promotedRow_id (x r : Task) : (s.promotedRow now x r).id = r.id := by
  unfold promotedRow; split <;> rfl

/-- The loop reads the dependencies of each task in the table it is changing; they
may as well be read in the table `s` it started from.  The induction carries that
the completed tasks are those of `s` and that the tasks still to come are as they
were. -/
theorem foldl_triggerOne (s : ClusterState) :
    ∀ (l : List Task), (l.map Task.id).Nodup → ∀ acc : Nat × ClusterState,
      (∀ d, acc.2.Completed d ↔ s.Completed d) →
      (∀ x ∈ l, acc.2.tasks.get? x.id = some x) →
      (l.foldl (triggerOne now) acc).2.tasks =
        l.foldl (fun tb x => tb.modify x.id (s.promotedRow now x) (promotedRow_id x))
          acc.2.tasks := by
  intro l
  induction l with
  | nil => intro _ acc _ _; rfl
  | cons a l ih =>
    intro hl acc hc hrows
    rw [List.map_cons, List.nodup_cons] at hl
    have ha : acc.2.tasks.get? a.id = some a := hrows a List.mem_cons_self
    rw [List.foldl_cons, List.foldl_cons, triggerOne_eq, allDone_congr hc]
    by_cases h : a.status = .pending ∧ s.allDone a.dependsOn
    · rw [if_pos h]
      have hrow : s.promotedRow now a = madeReady now := by
        funext r; rw [promotedRow, if_pos h]
      rw [ih hl.2 _ ?_ ?_]
      · simp only [promote, hrow]
      · intro d
        refine (completed_promote (fun x hx => ?_) d).trans (hc d)
        rw [ha] at hx
        obtain rfl := Option.some.inj hx
        rw [h.1]; decide
      · intro x hx
        have hne : x.id ≠ a.id := fun e => hl.1 (e ▸ List.mem_map_of_mem hx)
        rw [get?_promote, if_neg hne]
        exact hrows x (List.mem_cons_of_mem a hx)
    · rw [if_neg h]
      have hrow : s.promotedRow now a = fun r => r := by
        funext r; rw [promotedRow, if_neg h]
      rw [ih hl.2 acc hc (fun x hx => hrows x (List.mem_cons_of_mem a hx))]
      simp only [hrow, Table.modify_id]

theorem sameButTasks_triggerPendingTasks :
    SameButTasks s (s.triggerPendingTasks now).2 := by
  refine sameButTasks_foldl Prod.snd (fun acc a => ?_) _ (0, s)
  rw [triggerOne_eq]
  split
  · exact ⟨rfl, rfl, rfl, rfl, rfl⟩
  · exact SameButTasks.refl _

/-- **Promotion.**  `trigger_pending_tasks` makes each pending task ready exactly
when its dependencies are completed, and changes no other task. -/
theorem get?_triggerPendingTasks :
    (s.triggerPendingTasks now).2.tasks.get? k = (s.tasks.get? k).map (s.promoted now) := by
  rw [triggerPendingTasks, foldl_triggerOne s s.tasks.rows s.tasks.nodup (0, s)
    (fun _ => Iff.rfl) (fun x hx => Table.get?_of_mem hx)]
  have h := Table.get?_foldl_modify (s.promotedRow now) (fun a r => promotedRow_id a r)
    s.tasks.rows s.tasks.nodup s.tasks k
  refine h.trans ?_
  cases hk : s.tasks.get? k with
  | none => split <;> rfl
  | some x =>
    have hfind : s.tasks.rows.find? (fun a => decide (Keyed.key a = k)) = some x := hk
    rw [hfind]
    rfl

theorem completed_triggerPendingTasks :
    ∀ d, (s.triggerPendingTasks now).2.Completed d ↔ s.Completed d := by
  refine completed_congr_of_map (fun k => get?_triggerPendingTasks) (fun k x _ => ?_)
  rw [promoted_status]
  split
  · rename_i h; rw [h.1]; decide
  · exact Iff.rfl

/-! ### `schedule_pending` -/

/-- What `schedule_pending` does to a task of the table `s`. -/
def scheduled (s : ClusterState) (now : Time) (x : Task) : Task :=
  if x.status = .ready then
    match s.firstFit x.requires with
    | some node => assignedOn now node.id x
    | none => x
  else x

/-- What a turn of the loop makes of the row `r` for the listed task `x`. -/
def scheduledRow (online : List Node) (now : Time) (x r : Task) : Task :=
  match online.find? (fits x.requires) with
  | some node => assignedOn now node.id r
  | none => r

theorem scheduledRow_id (online : List Node) (x r : Task) :
    (scheduledRow online now x r).id = r.id := by
  unfold scheduledRow; split <;> rfl

theorem foldl_scheduleOne (online : List Node) : ∀ (l : List Task) (acc : Nat × ClusterState),
    (l.foldl (scheduleOne online now) acc).2.tasks =
      l.foldl (fun tb x => tb.modify x.id (scheduledRow online now x) (scheduledRow_id online x))
        acc.2.tasks := by
  intro l
  induction l with
  | nil => intro acc; rfl
  | cons a l ih =>
    intro acc
    rw [List.foldl_cons, List.foldl_cons, ih]
    congr 1
    cases h : online.find? (fits a.requires) with
    | none =>
      have hrow : scheduledRow online now a = fun r => r := by
        funext r; rw [scheduledRow, h]
      simp only [scheduleOne, h, hrow, Table.modify_id]
    | some node =>
      have hrow : scheduledRow online now a = assignedOn now node.id := by
        funext r; rw [scheduledRow, h]
      simp only [scheduleOne, h, hrow, recordDecision, assignTask]

theorem foldl_scheduleOne_fst (online : List Node) :
    ∀ (l : List Task) (acc : Nat × ClusterState),
      (l.foldl (scheduleOne online now) acc).1 =
        acc.1 + l.countP (fun x => (online.find? (fits x.requires)).isSome) := by
  intro l
  induction l with
  | nil => intro acc; rfl
  | cons a l ih =>
    intro acc
    rw [List.foldl_cons, ih, List.countP_cons]
    cases h : online.find? (fits a.requires) with
    | none => simp [scheduleOne, h]
    | some node => simp only [scheduleOne, h, Option.isSome_some, if_true]; omega

theorem mem_readyTasks {x : Task} :
    x ∈ s.readyTasks ↔ s.tasks.get? x.id = some x ∧ x.status = .ready := by
  rw [readyTasks, List.mem_insertionSort, List.mem_filter, Table.mem_rows_iff]
  simp

theorem nodup_readyTasks : (s.readyTasks.map Task.id).Nodup := by
  have hp : s.readyTasks.Perm (s.tasks.rows.filter (·.status = .ready)) :=
    List.perm_insertionSort _ _
  rw [(hp.map Task.id).nodup_iff]
  exact (List.filter_sublist.map Task.id).nodup s.tasks.nodup

theorem sameButTasks_schedulePending : SameButTasks s (s.schedulePending now).2 := by
  unfold schedulePending
  split
  · exact SameButTasks.refl s
  · refine sameButTasks_foldl Prod.snd (fun acc a => ?_) _ (0, s)
    rw [scheduleOne]
    split
    · exact ⟨rfl, rfl, rfl, rfl, rfl⟩
    · exact SameButTasks.refl _

/-- **Scheduling.**  `schedule_pending` assigns each ready task to the first online
node that has its capabilities, and changes no other task. -/
theorem get?_schedulePending :
    (s.schedulePending now).2.tasks.get? k = (s.tasks.get? k).map (s.scheduled now) := by
  unfold schedulePending
  split
  · rename_i hnone
    have hid : s.scheduled now = id := by
      funext x
      simp only [scheduled, firstFit, hnone, List.find?_nil, ite_self, id]
    rw [hid, Option.map_id]; rfl
  · rw [foldl_scheduleOne]
    refine (Table.get?_foldl_modify (scheduledRow s.onlineNodes now)
      (fun a r => scheduledRow_id _ a r) s.readyTasks nodup_readyTasks s.tasks k).trans ?_
    cases hf : s.readyTasks.find? (fun a => decide (Keyed.key a = k)) with
    | some a =>
      have ha := mem_readyTasks.mp (List.mem_of_find?_eq_some hf)
      have hk : a.id = k := by simpa using List.find?_some hf
      rw [← hk, ha.1]
      simp only [Option.map_some, scheduled, ha.2, if_true, scheduledRow, firstFit]
    | none =>
      cases hk : s.tasks.get? k with
      | none => rfl
      | some x =>
        have hx : x.id = k := Table.key_of_get? hk
        have hnr : x.status ≠ .ready := by
          intro hr
          have := List.find?_eq_none.mp hf x (mem_readyTasks.mpr ⟨by rw [hx]; exact hk, hr⟩)
          simp [hx] at this
        simp [scheduled, hnr]

/-- The count is positive exactly when some ready task fits an online node. -/
theorem schedulePending_pos :
    0 < (s.schedulePending now).1 ↔
      ∃ k x, s.tasks.get? k = some x ∧ x.status = .ready ∧ (s.firstFit x.requires).isSome := by
  unfold schedulePending
  split
  · rename_i hnone
    simp [firstFit, hnone]
  · rw [foldl_scheduleOne_fst, Nat.zero_add, List.countP_pos_iff]
    refine ⟨?_, ?_⟩
    · rintro ⟨x, hx, hf⟩
      exact ⟨x.id, x, (mem_readyTasks.mp hx).1, (mem_readyTasks.mp hx).2, hf⟩
    · rintro ⟨k, x, hk, hr, hf⟩
      have hid : x.id = k := Table.key_of_get? hk
      exact ⟨x, mem_readyTasks.mpr ⟨hid ▸ hk, hr⟩, hf⟩

theorem scheduled_of_not_ready {x : Task} (h : x.status ≠ .ready) : s.scheduled now x = x := by
  rw [scheduled, if_neg h]

theorem scheduled_of_noFit {x : Task} (h : s.firstFit x.requires = none) :
    s.scheduled now x = x := by
  unfold scheduled; rw [h]; exact ite_self x

theorem scheduled_of_fit {x : Task} {node : Node} (hr : x.status = .ready)
    (h : s.firstFit x.requires = some node) : s.scheduled now x = assignedOn now node.id x := by
  rw [scheduled, if_pos hr, h]

@[simp] theorem scheduled_dependsOn (x : Task) :
    (s.scheduled now x).dependsOn = x.dependsOn := by
  unfold scheduled; split
  · split <;> rfl
  · rfl

@[simp] theorem scheduled_requires (x : Task) :
    (s.scheduled now x).requires = x.requires := by
  unfold scheduled; split
  · split <;> rfl
  · rfl

/-- A task ends up ready, running or as it was. -/
theorem scheduled_status (x : Task) : (s.scheduled now x).status =
    if x.status = .ready ∧ (s.firstFit x.requires).isSome then .running else x.status := by
  by_cases hr : x.status = .ready
  · cases hf : s.firstFit x.requires with
    | none => simp [scheduled_of_noFit hf]
    | some node => simp [scheduled_of_fit hr hf, hr, assignedOn]
  · simp [scheduled_of_not_ready hr, hr]

theorem completed_schedulePending :
    ∀ d, (s.schedulePending now).2.Completed d ↔ s.Completed d := by
  refine completed_congr_of_map (fun k => get?_schedulePending) (fun k x _ => ?_)
  rw [scheduled_status]
  split
  · rename_i h; rw [h.1]; decide
  · exact Iff.rfl

end HermesCluster.ClusterState
