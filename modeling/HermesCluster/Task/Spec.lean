import HermesCluster.Task.TaskManager
import HermesCluster.State.StoreSpec

/-!
# What the calls of `TaskManager` do to the rows

Which rows a call touches and which statuses it changes, as relations between the store before
and after: `OnlyTasks` for the calls that write the rows of given ids, `KeepsStatus` for those
that leave completed, running and failed rows in their status.  Both are closed under doing one
thing after another, so the loops of the bulk forms keep them.
-/

namespace HermesCluster

namespace ClusterStore

/-- The text in the status column of a row. -/
def statusOf (s : ClusterStore) (k : TaskId) : Option String := (s.tasks.get? k).map TaskRow.status

/-- The call writes the rows of these ids only. -/
def OnlyTasks (ids : List TaskId) (s s' : ClusterStore) : Prop :=
  ∀ k, k ∉ ids → s'.tasks.get? k = s.tasks.get? k

theorem OnlyTasks.refl (ids : List TaskId) (s : ClusterStore) : OnlyTasks ids s s :=
  fun _ _ => rfl

theorem OnlyTasks.trans {ids : List TaskId} {s s₁ s₂ : ClusterStore} (h₁ : OnlyTasks ids s s₁)
    (h₂ : OnlyTasks ids s₁ s₂) : OnlyTasks ids s s₂ := fun k hk => (h₂ k hk).trans (h₁ k hk)

theorem OnlyTasks.mono {ids ids' : List TaskId} {s s' : ClusterStore} (h : OnlyTasks ids s s')
    (hsub : ∀ k ∈ ids, k ∈ ids') : OnlyTasks ids' s s' :=
  fun k hk => h k fun hm => hk (hsub k hm)

/-- An update of one row. -/
theorem OnlyTasks.of_update {s s' : ClusterStore} {t : TaskId} {f : TaskRow → TaskRow}
    (hget : ∀ k, s'.tasks.get? k = if k = t then (s.tasks.get? k).map f else s.tasks.get? k) :
    OnlyTasks [t] s s' := by
  intro k hk
  rw [hget, if_neg fun e => hk (List.mem_singleton.mpr e)]

/-- The statuses that only a few calls end. -/
def Settled (u : TaskStatus) : Prop := u = .completed ∨ u = .running ∨ u = .failed

/-- A row that is completed, running or failed stays so. -/
def KeepsStatus (s s' : ClusterStore) : Prop :=
  ∀ k u, Settled u → s.statusOf k = some u.value → s'.statusOf k = some u.value

theorem KeepsStatus.refl (s : ClusterStore) : KeepsStatus s s := fun _ _ _ h => h

theorem KeepsStatus.trans {s s₁ s₂ : ClusterStore} (h₁ : KeepsStatus s s₁)
    (h₂ : KeepsStatus s₁ s₂) : KeepsStatus s s₂ := fun k u hu h => h₂ k u hu (h₁ k u hu h)

/-- An update of every row that keeps these statuses. -/
theorem KeepsStatus.of_map {s s' : ClusterStore} {f : TaskRow → TaskRow}
    (hget : ∀ k, s'.tasks.get? k = (s.tasks.get? k).map f)
    (hf : ∀ r u, Settled u → r.status = u.value → (f r).status = u.value) : KeepsStatus s s' := by
  intro k u hu hk
  obtain ⟨r, hr, hst⟩ := Option.map_eq_some_iff.mp hk
  rw [statusOf, hget, hr]
  exact congrArg some (hf r u hu hst)

/-- An update of one row that keeps these statuses. -/
theorem KeepsStatus.of_update {s s' : ClusterStore} {t : TaskId} {f : TaskRow → TaskRow}
    (hget : ∀ k, s'.tasks.get? k = if k = t then (s.tasks.get? k).map f else s.tasks.get? k)
    (hf : ∀ r u, s.tasks.get? t = some r → Settled u → r.status = u.value →
      (f r).status = u.value) : KeepsStatus s s' := by
  intro k u hu hk
  obtain ⟨r, hr, hst⟩ := Option.map_eq_some_iff.mp hk
  by_cases hkt : k = t
  · rw [statusOf, hget, if_pos hkt, hr]
    exact congrArg some (hf r u (hkt ▸ hr) hu hst)
  · rw [statusOf, hget, if_neg hkt, hr]
    exact congrArg some hst

/-- Writing only rows that are not there yet changes no status. -/
theorem OnlyTasks.keepsStatus {ids : List TaskId} {s s' : ClusterStore} (h : OnlyTasks ids s s')
    (hnew : ∀ k ∈ ids, s.tasks.get? k = none) : KeepsStatus s s' := by
  intro k u _ hk
  have hnot : k ∉ ids := by
    intro hm
    rw [statusOf, hnew k hm] at hk
    cases hk
  rw [statusOf, h k hnot]
  exact hk

/-! ### Rows -/

variable {now : Time} {u : TaskStatus} {r : TaskRow}

theorem settled_ne_pending (hu : Settled u) : u.value ≠ TaskStatus.pending.value := by
  rcases hu with rfl | rfl | rfl <;> decide

theorem settled_ne_ready (hu : Settled u) : u.value ≠ TaskStatus.ready.value := by
  rcases hu with rfl | rfl | rfl <;> decide

theorem madeReady_settled (hu : Settled u) (h : r.status = u.value) :
    (madeReady now r).status = u.value := by
  rw [madeReady, if_neg]
  · exact h
  · rw [h]
    exact settled_ne_pending hu

theorem updatedBy_settled (title : Option String) (priority : Option Int)
    (requires : Option (List Capability)) (deps : Option (List TaskId)) (hu : Settled u)
    (h : r.status = u.value) : (updatedBy now title priority requires deps r).status = u.value := by
  rw [updatedBy]
  split
  · exact h
  · show (if _ then _ else _) = _
    rw [if_neg]
    · exact h
    · rw [h]
      exact fun hc => settled_ne_ready hu hc.2

theorem not_completed_of_statusOf {s : ClusterStore} {d : TaskId}
    (h : s.statusOf d = some u.value) (hu : u ≠ .completed) : ¬ s.Completed d := by
  rintro ⟨r, hr, hc⟩
  rw [statusOf, hr, Option.map_some, hc] at h
  exact hu (TaskStatus.value_injective (Option.some.inj h)).symm

/-! ### The store's methods -/

variable {s : ClusterStore} {t : TaskId}

theorem getTask_raises (hr : s.tasks.get? t = some r) (hd : ¬ decodes r = true) :
    ∃ e, s.getTask t = .error e := by
  obtain ⟨e, he⟩ := rowToTask_error (Bool.eq_false_iff.mpr hd)
  refine ⟨e, ?_⟩
  rw [getTask, hr]
  show (rowToTask r).map some = _
  rw [he]
  rfl

theorem readRow_status (hd : decodes r = true) : r.status = (readRow r).status.value := by
  obtain ⟨status, hs, -⟩ := decodes_iff.mp hd
  rw [readRow_of_status hs]
  exact hs

/-- What `get_task` read, when it returned. -/
theorem getTask_inv {task : Option Task} {s' : ClusterStore}
    (h : (Session.getTask t).run s = (.ok task, s')) :
    s' = s ∧ (s.tasks.get? t = none ∧ task = none ∨
      ∃ r, s.tasks.get? t = some r ∧ decodes r = true ∧ task = some (readRow r)) := by
  cases hr : s.tasks.get? t with
  | none =>
    rw [Session.run_getTask_ok (getTask_of_none hr)] at h
    cases h
    exact ⟨rfl, .inl ⟨rfl, rfl⟩⟩
  | some r =>
    by_cases hd : decodes r = true
    · rw [Session.run_getTask_ok (getTask_of_some hr hd)] at h
      cases h
      exact ⟨rfl, .inr ⟨r, rfl, hd, rfl⟩⟩
    · obtain ⟨e, he⟩ := getTask_raises hr hd
      rw [Session.run_getTask_error he] at h
      cases h

/-- What `get_all_tasks` read, when it returned. -/
theorem getAllTasks_inv {tasks : List Task} {s' : ClusterStore}
    (h : Session.getAllTasks.run s = (.ok tasks, s')) :
    s' = s ∧ tasks = s.tasks.rows.map readRow ∧ ∀ r ∈ s.tasks.rows, decodes r = true := by
  obtain ⟨hall, rfl⟩ := Prog.ok_of_run_read h
  have hdec := getAllTasks_ok_iff.mp ⟨tasks, hall⟩
  rw [getAllTasks, mapM_rowToTask_ok hdec] at hall
  cases hall
  exact ⟨rfl, rfl, hdec⟩

/-- What a method does that reads a task first: nothing if the read raises, and otherwise what
follows an absent row or the task of a row that decodes. -/
theorem rel_getTask_row {α : Type} {R : ClusterStore → ClusterStore → Prop} (hrefl : R s s)
    {p : Option Task → Session α} (hnone : R s ((p none).run s).2)
    (hsome : ∀ r, s.tasks.get? t = some r → decodes r = true →
      R s ((p (some (readRow r))).run s).2) :
    R s ((Session.getTask t >>= p).run s).2 := by
  cases hr : s.tasks.get? t with
  | none =>
    rw [Prog.run_bind_ok p (Session.run_getTask_ok (getTask_of_none hr))]
    exact hnone
  | some r =>
    by_cases hd : decodes r = true
    · rw [Prog.run_bind_ok p (Session.run_getTask_ok (getTask_of_some hr hd))]
      exact hsome r hr hd
    · obtain ⟨e, he⟩ := getTask_raises hr hd
      rw [Prog.run_bind_error p (Session.run_getTask_error he)]
      exact hrefl

/-- The same, where only the status of the task matters. -/
theorem rel_getTask {α : Type} {R : ClusterStore → ClusterStore → Prop} (hrefl : R s s)
    {p : Option Task → Session α} (hnone : R s ((p none).run s).2)
    (hsome : ∀ task r, s.tasks.get? t = some r → r.status = task.status.value →
      R s ((p (some task)).run s).2) :
    R s ((Session.getTask t >>= p).run s).2 :=
  rel_getTask_row hrefl hnone fun r hr hd => hsome (readRow r) r hr (readRow_status hd)

theorem keepsStatus_triggerPendingTasks : KeepsStatus s (s.triggerPendingTasks now).2 :=
  KeepsStatus.of_map (fun _ => get?_triggerPendingTasks) fun r u hu h => by
    rw [promoted]
    split
    · exact madeReady_settled hu h
    · exact h

theorem keepsStatus_schedulePending {n : Nat} {s' : ClusterStore}
    (h : s.schedulePending now = .ok (n, s')) : KeepsStatus s s' := by
  refine KeepsStatus.of_map (schedulePending_inv h).2 fun r u hu hr => ?_
  rw [scheduled, if_neg]
  · exact hr
  · rw [hr]
    exact settled_ne_ready hu

theorem onlyTasks_createTask {title : String} {requires : List Capability} {priority : Int}
    {s' : ClusterStore} (h : s.createTask now t title requires priority = .ok s') :
    OnlyTasks [t] s s' := by
  by_cases hp : fits64 priority = true
  · obtain ⟨s₁, hok, -, hget⟩ := createTask_ok s now t title requires hp
    rw [h] at hok
    cases hok
    intro k hk
    rw [hget, if_neg fun e => hk (List.mem_singleton.mpr e)]
  · rw [createTask_raises title requires hp] at h
    cases h

/-- `create_task` of the store returns the task, unless the priority does not fit or there is a
row under the id already that does not decode. -/
theorem run_createTask (now : Time) (title : String) (requires : List Capability)
    {priority : Int}
    (hp : fits64 priority = true) :
    ∃ s', s.createTask now t title requires priority = .ok s' ∧
      ((∀ r, s.tasks.get? t = some r → decodes r = true) →
        ∃ task, (Session.createTask now t title requires priority).run s = (.ok task, s')) ∧
      ((∃ r, s.tasks.get? t = some r ∧ ¬ decodes r = true) →
        ∃ e, (Session.createTask now t title requires priority).run s = (.error e, s')) := by
  obtain ⟨s', hok, -, hget⟩ := createTask_ok s now t title requires hp
  have htx : ((Prog.tx fun s => (s.createTask now t title requires priority).map
      fun s => ((), s) : Session Unit)).run s = (.ok (), s') :=
    Prog.run_tx_ok (by rw [hok]; rfl)
  have hrow := hget t
  rw [if_pos rfl] at hrow
  refine ⟨s', hok, fun hd => ?_, fun ⟨r, hr, hd⟩ => ?_⟩
  · have hdec : decodes (madeReady now
        ((s.tasks.get? t).getD (insertedRow now t title requires priority))) = true := by
      rw [decodes_madeReady]
      cases hr : s.tasks.get? t with
      | none => rfl
      | some r => exact hd r hr
    rw [Session.createTask, Prog.run_bind_ok _ htx,
      Prog.run_bind_ok _ (Session.run_getTask_ok (getTask_of_some hrow hdec))]
    exact ⟨_, rfl⟩
  · rw [hr] at hrow
    obtain ⟨e, he⟩ := getTask_raises (r := madeReady now r) hrow
      (by rw [decodes_madeReady]; exact hd)
    rw [Session.createTask, Prog.run_bind_ok _ htx,
      Prog.run_bind_error _ (Session.run_getTask_error he)]
    exact ⟨e, rfl⟩

theorem get?_setAssignee (nodeId : NodeId) (k : TaskId) :
    (s.setAssignee t nodeId).tasks.get? k =
      if k = t then (s.tasks.get? k).map (withAssignee nodeId) else s.tasks.get? k :=
  Table.get?_modify _ _ (withAssignee nodeId) (fun _ => rfl) _

theorem get?_deleteTasks (ids : List TaskId) (k : TaskId) :
    (s.deleteTasks ids).tasks.get? k = if k ∈ ids then none else s.tasks.get? k := by
  rw [deleteTasks]
  show (s.tasks.delete _).get? k = _
  rw [Table.get?_delete]
  cases h : s.tasks.get? k with
  | none => simp
  | some r =>
    have hid : r.id = k := Table.key_of_get? h
    by_cases hk : k ∈ ids
    · rw [if_pos hk]
      exact Option.filter_some_neg (by simp [hid, hk])
    · rw [if_neg hk]
      exact Option.filter_some_pos (by simp [hid, hk])

theorem updateTask_ok {title : Option String} {priority : Option Int}
    {requires : Option (List Capability)} {deps : Option (List TaskId)} {s' : ClusterStore}
    (h : s.updateTask now t title priority requires deps = .ok ((), s')) (k : TaskId) :
    s'.tasks.get? k =
      if k = t then (s.tasks.get? k).map (updatedBy now title priority requires deps)
      else s.tasks.get? k := by
  rw [updateTask] at h
  split at h
  · cases h
  · split at h
    · cases h
    · cases h
      exact Table.get?_modify _ _ (updatedBy now title priority requires deps)
        (key_updatedBy now title priority requires deps) _

/-! ### Deletions -/

/-- What `delete_task` asks of a task. -/
def deletable (s : ClusterStore) (t : TaskId) : Bool :=
  (s.tasks.get? t).any fun r => decodes r ∧ r.status ≠ TaskStatus.assigned.value ∧
    r.status ≠ TaskStatus.running.value

theorem deletable_iff : s.deletable t = true ↔ ∃ r, s.tasks.get? t = some r ∧
    decodes r = true ∧ r.status ≠ TaskStatus.assigned.value ∧
      r.status ≠ TaskStatus.running.value := by
  rw [deletable]
  cases s.tasks.get? t with
  | none => simp
  | some r => simp

theorem run_deleteTask (s : ClusterStore) (t : TaskId) :
    ((TaskManager.deleteTask t).run s).2 = if s.deletable t then s.deleteTasks [t] else s := by
  rw [TaskManager.deleteTask, deletable]
  cases hr : s.tasks.get? t with
  | none =>
    rw [Prog.run_bind_ok _ (Session.run_getTask_ok (getTask_of_none hr))]
    rfl
  | some r =>
    by_cases hd : decodes r = true
    · obtain ⟨status, hs, -⟩ := decodes_iff.mp hd
      rw [Prog.run_bind_ok _ (Session.run_getTask_ok (getTask_of_some hr hd)),
        readRow_of_status hs, Option.any_some, hd, hs]
      cases status <;> rfl
    · obtain ⟨e, he⟩ := getTask_raises hr hd
      rw [Prog.run_bind_error _ (Session.run_getTask_error he), Option.any_some,
        Bool.eq_false_iff.mpr hd]
      rfl

theorem mem_purgeable {cutoff : Time} {k : TaskId} :
    k ∈ s.purgeable cutoff ↔ ∃ r, s.tasks.get? k = some r ∧
      (r.status = TaskStatus.completed.value ∨ r.status = TaskStatus.failed.value) ∧
        r.updatedAt < cutoff := by
  rw [purgeable, List.mem_map]
  refine ⟨?_, ?_⟩
  · rintro ⟨r, hr, rfl⟩
    obtain ⟨hmem, hr⟩ := List.mem_filter.mp hr
    exact ⟨r, Table.mem_rows_iff.mp hmem, by simpa using hr⟩
  · rintro ⟨r, hr, h⟩
    refine ⟨r, List.mem_filter.mpr ⟨Table.mem_of_get? hr, by simpa using h⟩, Table.key_of_get? hr⟩

theorem run_purgeCompleted_ok {older : Int} {cutoff : Time}
    (h : addTtl now (-seconds older) = .ok cutoff) :
    ((TaskManager.purgeCompleted now older).run s).2 = s.deleteTasks (s.purgeable cutoff) := by
  have hread : (Prog.read fun _ : ClusterStore => addTtl now (-seconds older)).run s =
      (.ok cutoff, s) := Prog.run_read_ok h
  rw [TaskManager.purgeCompleted, Prog.run_bind_ok _ hread]
  rfl

theorem run_purgeCompleted_error {older : Int} {e : PyError}
    (h : addTtl now (-seconds older) = .error e) :
    ((TaskManager.purgeCompleted now older).run s).2 = s := by
  have hread : (Prog.read fun _ : ClusterStore => addTtl now (-seconds older)).run s =
      (.error e, s) := Prog.run_read_error h
  rw [TaskManager.purgeCompleted, Prog.run_bind_error _ hread]

end ClusterStore

end HermesCluster
