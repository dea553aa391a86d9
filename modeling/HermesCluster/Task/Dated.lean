import HermesCluster.Lease.LeaseSpec
import HermesCluster.Lib.Run
import HermesCluster.State.Database
import HermesCluster.Task.Timestamps

/-!
# Where the times of the rows come from

No method takes the times of a task from its caller: a row that is new has the clock reading in
both columns, and one that is written keeps `created_at`.  `Stamped` says so of two stores, and is
closed under doing one thing after another.

* `TaskOp.stamped`, `StoreCall.stamped`: every method keeps to it.
* `dated_run`: so while the clock shows datetimes the columns hold datetimes, whatever is rolled
  back.
-/

namespace HermesCluster

namespace ClusterStore

/-- The row was created when it was, and last written then or at the clock reading. -/
def WrittenAt (now : Time) (r r' : TaskRow) : Prop :=
  r'.createdAt = r.createdAt ∧ (r'.updatedAt = r.updatedAt ∨ r'.updatedAt = now)

/-- Every row is new or was there before. -/
def Stamped (now : Time) (s s' : ClusterStore) : Prop :=
  ∀ k r', s'.tasks.get? k = some r' →
    (r'.createdAt = now ∧ r'.updatedAt = now) ∨
      ∃ r, s.tasks.get? k = some r ∧ WrittenAt now r r'

variable {now : Time} {s s' s₁ s₂ : ClusterStore} {r : TaskRow} {t : TaskId}

theorem WrittenAt.refl (r : TaskRow) : WrittenAt now r r := ⟨rfl, .inl rfl⟩

theorem WrittenAt.trans {r₁ r₂ : TaskRow} (h₁ : WrittenAt now r r₁) (h₂ : WrittenAt now r₁ r₂) :
    WrittenAt now r r₂ := by
  refine ⟨h₂.1.trans h₁.1, ?_⟩
  rcases h₂.2 with hsame | hnow
  · rw [hsame]
    exact h₁.2
  · exact .inr hnow

theorem Stamped.refl (s : ClusterStore) : Stamped now s s :=
  fun _ r' h => .inr ⟨r', h, WrittenAt.refl r'⟩

theorem Stamped.trans (h₁ : Stamped now s s₁) (h₂ : Stamped now s₁ s₂) : Stamped now s s₂ := by
  intro k r₂ hr₂
  rcases h₂ k r₂ hr₂ with hnew | ⟨r₁, hr₁, hcreated, hupdated⟩
  · exact .inl hnew
  rcases h₁ k r₁ hr₁ with ⟨hnow, hnow'⟩ | ⟨r, hr, hw⟩
  · -- new in the first half, and written in the second if at all
    refine .inl ⟨hcreated.trans hnow, ?_⟩
    rcases hupdated with hsame | hnow₂
    · exact hsame.trans hnow'
    · exact hnow₂
  · exact .inr ⟨r, hr, hw.trans ⟨hcreated, hupdated⟩⟩

/-- Of the tables only that of the tasks matters. -/
theorem Stamped.of_tasks (h : s'.tasks = s.tasks) : Stamped now s s' := by
  intro k r' hr'
  rw [h] at hr'
  exact Stamped.refl s k r' hr'

/-- An update of every row. -/
theorem Stamped.of_map {f : TaskRow → TaskRow}
    (hget : ∀ k, s'.tasks.get? k = (s.tasks.get? k).map f) (hf : ∀ r, WrittenAt now r (f r)) :
    Stamped now s s' := by
  intro k r' hr'
  rw [hget] at hr'
  obtain ⟨r, hr, rfl⟩ := Option.map_eq_some_iff.mp hr'
  exact .inr ⟨r, hr, hf r⟩

/-- An update of one row. -/
theorem Stamped.of_update {f : TaskRow → TaskRow}
    (hget : ∀ k, s'.tasks.get? k = if k = t then (s.tasks.get? k).map f else s.tasks.get? k)
    (hf : ∀ r, WrittenAt now r (f r)) : Stamped now s s' := by
  intro k r' hr'
  by_cases hk : k = t
  · rw [hget, if_pos hk] at hr'
    obtain ⟨r, hr, rfl⟩ := Option.map_eq_some_iff.mp hr'
    exact .inr ⟨r, hr, hf r⟩
  · rw [hget, if_neg hk] at hr'
    exact Stamped.refl s k r' hr'

/-- What is stamped by a datetime stays dated. -/
theorem Dated.stamped (h : s.Dated) (hnow : IsDatetime now) (hs : Stamped now s s') :
    s'.Dated := by
  intro r' hr'
  rcases hs r'.id r' (Table.get?_of_mem hr') with ⟨hcreated, hupdated⟩ | ⟨r, hr, hw⟩
  · rw [hcreated, hupdated]
    exact ⟨hnow, hnow⟩
  · obtain ⟨hc, hu⟩ := h r (Table.mem_of_get? hr)
    rw [hw.1]
    refine ⟨hc, ?_⟩
    rcases hw.2 with hsame | hnow'
    · rwa [hsame]
    · rwa [hnow']

/-! ### The updates of a row -/

theorem writtenAt_madeReady (r : TaskRow) : WrittenAt now r (madeReady now r) := by
  rw [madeReady]
  split
  · exact ⟨rfl, .inr rfl⟩
  · exact WrittenAt.refl r

theorem writtenAt_unblocked (r : TaskRow) : WrittenAt now r (unblocked now r) := by
  rw [unblocked]
  split
  · exact ⟨rfl, .inr rfl⟩
  · exact WrittenAt.refl r

theorem writtenAt_promoted (r : TaskRow) : WrittenAt now r (s.promoted now r) := by
  rw [promoted]
  split
  · exact writtenAt_madeReady r
  · exact WrittenAt.refl r

theorem writtenAt_scheduled (r : TaskRow) : WrittenAt now r (s.scheduled now r) := by
  rw [scheduled]
  split
  · split
    · exact ⟨rfl, .inr rfl⟩
    · exact WrittenAt.refl r
  · exact WrittenAt.refl r

theorem writtenAt_updatedBy (title : Option String) (priority : Option Int)
    (requires : Option (List Capability)) (deps : Option (List TaskId)) (r : TaskRow) :
    WrittenAt now r (updatedBy now title priority requires deps r) := by
  rw [updatedBy]
  split
  · exact WrittenAt.refl r
  · exact ⟨rfl, .inr rfl⟩

/-! ### The store's methods -/

theorem stamped_createTask {title : String} {requires : List Capability} {priority : Int}
    (h : s.createTask now t title requires priority = .ok s') : Stamped now s s' := by
  by_cases hp : fits64 priority = true
  · obtain ⟨s₁, hok, -, hget⟩ := createTask_ok s now t title requires hp
    rw [h] at hok
    cases hok
    intro k r' hr'
    by_cases hk : k = t
    · rw [hget, if_pos hk] at hr'
      obtain rfl := Option.some.inj hr'
      cases hr : s.tasks.get? k with
      | none =>
        have hw : WrittenAt now (insertedRow now t title requires priority) _ :=
          writtenAt_madeReady _
        exact .inl ⟨hw.1, hw.2.elim id id⟩
      | some r => exact .inr ⟨r, rfl, writtenAt_madeReady r⟩
    · rw [hget, if_neg hk] at hr'
      exact Stamped.refl s k r' hr'
  · rw [createTask_raises title requires hp] at h
    cases h

theorem stamped_setTaskStatus (status : TaskStatus) (failReason : String) :
    Stamped now s (s.setTaskStatus now t status failReason) :=
  Stamped.of_update (get?_setTaskStatus s now t status failReason) fun _ => ⟨rfl, .inr rfl⟩

theorem stamped_setDependencies (dependsOn : List TaskId) :
    Stamped now s (s.setDependencies now t dependsOn) :=
  Stamped.of_update (fun _ => get?_setDependencies dependsOn) fun _ => ⟨rfl, .inr rfl⟩

theorem stamped_assignTask (nodeId : NodeId) : Stamped now s (s.assignTask now t nodeId) :=
  Stamped.of_update (fun _ => get?_assignTask nodeId) fun _ => ⟨rfl, .inr rfl⟩

theorem stamped_setAssignee (nodeId : NodeId) : Stamped now s (s.setAssignee t nodeId) :=
  Stamped.of_update (get?_setAssignee nodeId) fun _ => ⟨rfl, .inl rfl⟩

theorem stamped_unassignTask : Stamped now s (s.unassignTask now t) :=
  Stamped.of_update (fun _ => get?_unassignTask) fun _ => ⟨rfl, .inr rfl⟩

theorem stamped_unblockTask : Stamped now s (s.unblockTask now t).2 :=
  Stamped.of_update (fun _ => get?_unblockTask) writtenAt_unblocked

theorem stamped_triggerPendingTasks : Stamped now s (s.triggerPendingTasks now).2 :=
  Stamped.of_map (fun _ => get?_triggerPendingTasks) writtenAt_promoted

theorem stamped_schedulePending {n : Nat} (h : s.schedulePending now = .ok (n, s')) :
    Stamped now s s' :=
  Stamped.of_map (schedulePending_inv h).2 writtenAt_scheduled

/-- Deleting rows leaves the others as they are. -/
theorem stamped_deleteTasks (ids : List TaskId) : Stamped now s (s.deleteTasks ids) := by
  intro k r' hr'
  rw [get?_deleteTasks] at hr'
  split at hr'
  · cases hr'
  · exact Stamped.refl s k r' hr'

/-- A task state that is new to the store gets the clock reading, whenever its task was created on
the node that sends it. -/
theorem stamped_applyTaskState (ts : TaskSync) : Stamped now s (s.applyTaskState now ts) := by
  intro k r' hr'
  rw [get?_applyTaskState] at hr'
  split at hr'
  · obtain rfl := Option.some.inj hr'
    cases hr : s.tasks.get? k with
    | none => exact .inl ⟨rfl, rfl⟩
    | some r => exact .inr ⟨r, rfl, rfl, .inr rfl⟩
  · exact Stamped.refl s k r' hr'

theorem stamped_handleSyncMessage {msg : SyncMessage} {b : Bool}
    (h : s.handleSyncMessage now msg = .ok (b, s')) : Stamped now s s' := by
  rw [handleSyncMessage] at h
  split at h
  · obtain ⟨-, rfl⟩ := Prod.mk.inj (Except.ok.inj h)
    exact Stamped.refl s
  split at h
  · obtain ⟨-, rfl⟩ := Prod.mk.inj (Except.ok.inj h)
    have hlogged : Stamped now s { s with syncLog := s.syncLog ++ [msg] } := Stamped.of_tasks rfl
    cases msg.taskState with
    | none => exact hlogged
    | some ts => exact hlogged.trans (stamped_applyTaskState ts)
  · cases h

end ClusterStore

/-! ### The calls of `TaskManager` -/

open ClusterStore

namespace TaskManager

variable (now : Time) (token : String)

theorem stamped_trans (a b c : ClusterStore) (h₁ : Stamped now a b) (h₂ : Stamped now b c) :
    Stamped now a c := h₁.trans h₂

theorem stamped_addDependencies (t : TaskId) (deps : List TaskId) (s : ClusterStore) :
    Stamped now s ((addDependencies now t deps).run s).2 := by
  rw [addDependencies]
  split
  · exact Stamped.refl s
  · exact stamped_setDependencies deps

theorem stamped_assign (t : TaskId) (assignTo : Option NodeId) (s : ClusterStore) :
    Stamped now s ((assign now t assignTo).run s).2 := by
  rw [assign]
  split
  · exact Stamped.refl s
  · refine Prog.rel_read_bind (Stamped.refl s) fun node _ => ?_
    split
    · exact Stamped.refl s
    · exact Prog.rel_bind (stamped_trans now) (fun s => stamped_setTaskStatus .running "")
        (fun _ s => stamped_setAssignee _) s

theorem stamped_create (t : TaskId) (title : String) (requires : List Capability)
    (priority : Int) (s : ClusterStore) :
    Stamped now s ((Session.createTask now t title requires priority).run s).2 := by
  rw [Session.createTask]
  refine Prog.rel_bind (stamped_trans now) (fun s => ?_) (fun _ s => ?_) s
  · refine Prog.rel_tx Stamped.refl fun a s' h => ?_
    cases hc : s.createTask now t title requires priority with
    | error e => rw [hc] at h; cases h
    | ok s₁ =>
      rw [hc] at h
      cases h
      exact stamped_createTask hc
  · rw [Prog.run_bind_pure_snd, Session.run_getTask_snd]
    exact Stamped.refl s

theorem stamped_createTask (title : String) (requires : List Capability) (priority : Int)
    (deps : List TaskId) (assignTo : Option NodeId) (s : ClusterStore) :
    Stamped now s ((createTask now token title requires priority deps assignTo).run s).2 := by
  rw [createTask]
  split
  · exact Stamped.refl s
  split
  · exact Stamped.refl s
  refine Prog.rel_bind (stamped_trans now) (stamped_create now _ title requires priority)
    (fun task s => ?_) s
  refine Prog.rel_bind (stamped_trans now) (stamped_addDependencies now _ deps)
    (fun _ s => ?_) s
  refine Prog.rel_bind (stamped_trans now) (stamped_assign now _ assignTo) (fun _ s => ?_) s
  rw [Prog.run_bind_pure_snd, Session.run_getTask_snd]
  exact Stamped.refl s

theorem stamped_duplicateTask (t : TaskId) (titleSuffix : String) (s : ClusterStore) :
    Stamped now s ((duplicateTask now token t titleSuffix).run s).2 := by
  rw [duplicateTask]
  refine rel_getTask (Stamped.refl s) (Stamped.refl s) fun task r _ _ => ?_
  rw [Prog.run_bind_pure_snd]
  exact stamped_createTask now token _ _ _ _ _ s

theorem stamped_updateTask (t : TaskId) (title : Option String) (priority : Option Int)
    (requires : Option (List Capability)) (deps : Option (List TaskId)) (s : ClusterStore) :
    Stamped now s ((updateTask now t title priority requires deps).run s).2 := by
  rw [updateTask]
  refine rel_getTask (Stamped.refl s) (Stamped.refl s) fun task r _ _ => ?_
  dsimp only
  refine Prog.rel_bind (stamped_trans now) (fun s => ?_) (fun _ s => ?_) s
  · refine Prog.rel_tx Stamped.refl fun _ s' h => ?_
    exact Stamped.of_update (updateTask_ok h) (writtenAt_updatedBy title priority requires deps)
  · rw [Session.run_getTask_snd]
    exact Stamped.refl s

theorem stamped_cancelTask (t : TaskId) (s : ClusterStore) :
    Stamped now s ((cancelTask now t).run s).2 := by
  rw [cancelTask]
  refine rel_getTask (Stamped.refl s) (Stamped.refl s) fun task r _ _ => ?_
  dsimp only
  split
  · exact Stamped.refl s
  · rw [Prog.run_bind_pure_snd, Session.setTaskStatus, Prog.run_write]
    exact stamped_setTaskStatus .failed "cancelled"

theorem stamped_retryTask (t : TaskId) (s : ClusterStore) :
    Stamped now s ((retryTask now t).run s).2 := by
  rw [retryTask]
  refine rel_getTask (Stamped.refl s) (Stamped.refl s) fun task r _ _ => ?_
  dsimp only
  split
  · exact Stamped.refl s
  · refine Prog.rel_bind (stamped_trans now) (fun s => stamped_setTaskStatus .pending "")
      (fun _ s => ?_) s
    refine Prog.rel_bind (stamped_trans now) (fun s => stamped_triggerPendingTasks)
      (fun _ s => ?_) s
    rw [Session.run_getTask_snd]
    exact Stamped.refl s

theorem stamped_deleteTask (t : TaskId) (s : ClusterStore) :
    Stamped now s ((deleteTask t).run s).2 := by
  rw [run_deleteTask]
  split
  · exact stamped_deleteTasks [t]
  · exact Stamped.refl s

theorem stamped_purgeCompleted (older : Int) (s : ClusterStore) :
    Stamped now s ((purgeCompleted now older).run s).2 := by
  rw [purgeCompleted]
  refine Prog.rel_read_bind (Stamped.refl s) fun cutoff _ => ?_
  rw [Prog.run_write]
  exact stamped_deleteTasks _

theorem stamped_autoSchedule (s : ClusterStore) :
    Stamped now s ((autoSchedule now).run s).2 := by
  rw [autoSchedule]
  refine Prog.rel_bind (stamped_trans now) (fun s => stamped_triggerPendingTasks)
    (fun promoted s => ?_) s
  refine Prog.rel_bind (stamped_trans now) (fun s => ?_) (fun n s => ?_) s
  · exact Prog.rel_tx Stamped.refl fun n s' h => stamped_schedulePending h
  · rw [Prog.run_bind_pure_snd, Session.getAllTasks, Prog.run_read_snd]
    exact Stamped.refl s

theorem stamped_scheduleTaskToNode (t : TaskId) (nodeId : NodeId) (s : ClusterStore) :
    Stamped now s ((scheduleTaskToNode now t nodeId).run s).2 := by
  rw [scheduleTaskToNode]
  refine rel_getTask (Stamped.refl s) (Stamped.refl s) fun task r _ _ => ?_
  dsimp only
  split
  · exact Stamped.refl s
  refine Prog.rel_read_bind (Stamped.refl s) fun node _ => ?_
  split
  · exact Stamped.refl s
  split
  · exact Stamped.refl s
  split
  · exact Stamped.refl s
  rw [Prog.run_bind_pure_snd, Prog.run_write]
  exact stamped_assignTask nodeId

theorem stamped_bulkCreate (tasks : List NewTask) (s : ClusterStore) :
    Stamped now s ((bulkCreate now tasks).run s).2 := by
  induction tasks generalizing s with
  | nil => exact Stamped.refl s
  | cons new tasks ih =>
    rw [bulkCreate]
    split
    · exact ih s
    · refine Prog.rel_bind (stamped_trans now) (stamped_createTask now new.token _ _ _ _ _)
        (fun task s => ?_) s
      rw [Prog.run_bind_pure_snd]
      exact ih s

theorem stamped_bulkCancel (ids : List TaskId) (s : ClusterStore) :
    Stamped now s ((bulkCancel now ids).run s).2 := by
  induction ids generalizing s with
  | nil => exact Stamped.refl s
  | cons t ids ih =>
    rw [bulkCancel]
    refine Prog.rel_bind (stamped_trans now) (stamped_cancelTask now t) (fun cancelled s => ?_) s
    rw [Prog.run_bind_pure_snd]
    exact ih s

theorem stamped_bulkDelete (ids : List TaskId) (s : ClusterStore) :
    Stamped now s ((bulkDelete ids).run s).2 := by
  induction ids generalizing s with
  | nil => exact Stamped.refl s
  | cons t ids ih =>
    rw [bulkDelete]
    refine Prog.rel_bind (stamped_trans now) (stamped_deleteTask now t) (fun deleted s => ?_) s
    rw [Prog.run_bind_pure_snd]
    exact ih s

end TaskManager

open TaskManager

/-- **One call of `TaskManager`.** -/
theorem TaskOp.stamped (now : Time) (op : TaskOp) (s : ClusterStore) :
    Stamped now s ((op.program now).run s).2 := by
  cases op with
  | create token title requires priority deps assignTo =>
    simp only [program, Prog.run_bind_pure_snd]
    exact stamped_createTask now token title requires priority deps assignTo s
  | duplicate token t titleSuffix =>
    simp only [program, Prog.run_bind_pure_snd]
    exact stamped_duplicateTask now token t titleSuffix s
  | update t title priority requires deps =>
    simp only [program, Prog.run_bind_pure_snd]
    exact stamped_updateTask now t title priority requires deps s
  | cancel t =>
    simp only [program, Prog.run_bind_pure_snd]
    exact stamped_cancelTask now t s
  | retry t =>
    simp only [program, Prog.run_bind_pure_snd]
    exact stamped_retryTask now t s
  | delete t =>
    simp only [program, Prog.run_bind_pure_snd]
    exact stamped_deleteTask now t s
  | purge older =>
    simp only [program, Prog.run_bind_pure_snd]
    exact stamped_purgeCompleted now older s
  | autoSchedule =>
    simp only [program, Prog.run_bind_pure_snd]
    exact stamped_autoSchedule now s
  | scheduleTo t nodeId =>
    simp only [program, Prog.run_bind_pure_snd]
    exact stamped_scheduleTaskToNode now t nodeId s
  | bulkCreate tasks =>
    simp only [program, Prog.run_bind_pure_snd]
    exact stamped_bulkCreate now tasks s
  | bulkCancel ids =>
    simp only [program, Prog.run_bind_pure_snd]
    exact stamped_bulkCancel now ids s
  | bulkDelete ids =>
    simp only [program, Prog.run_bind_pure_snd]
    exact stamped_bulkDelete now ids s

/-! ### The methods of the store -/

namespace Session

variable (now : Time)

theorem stamped_createLease (token : String) (t : TaskId) (nodeId : NodeId) (ttl : Duration)
    (s : ClusterStore) :
    Stamped now s ((createLease now token t nodeId ttl).run s).2 := by
  rw [createLease]
  refine Prog.rel_read_bind (Stamped.refl s) fun _ _ => ?_
  refine Prog.rel_tx Stamped.refl fun lease s' h => Stamped.of_tasks ?_
  obtain ⟨-, rfl⟩ := ClusterStore.createLease_inv h
  rfl

theorem stamped_getActiveLeases (s : ClusterStore) :
    Stamped now s ((getActiveLeases now).run s).2 := by
  rw [getActiveLeases]
  refine Prog.rel_bind (stamped_trans now) (fun s => Stamped.refl s) (fun rows s => ?_) s
  split
  · exact Stamped.of_tasks rfl
  · exact Stamped.refl s

theorem stamped_handleSyncMessage (msg : SyncMessage) (s : ClusterStore) :
    Stamped now s ((handleSyncMessage now msg).run s).2 := by
  rw [handleSyncMessage]
  refine Prog.rel_read_bind (Stamped.refl s) fun current _ => ?_
  split
  · exact Stamped.refl s
  · exact Prog.rel_tx Stamped.refl fun _ s' h => ClusterStore.stamped_handleSyncMessage h

theorem stamped_handleBatchSync (messages : List SyncMessage) (s : ClusterStore) :
    Stamped now s ((handleBatchSync now messages).run s).2 := by
  induction messages generalizing s with
  | nil => exact Stamped.refl s
  | cons msg messages ih =>
    rw [handleBatchSync]
    refine Prog.rel_bind (stamped_trans now) (stamped_handleSyncMessage now msg)
      (fun applied s => ?_) s
    rw [Prog.run_bind_pure_snd]
    exact ih s

end Session

/-- What a method of the store does to the store, it does to the database. -/
theorem stamped_onStore {α : Type} {now : Time} {p : Session α} {d : Database}
    (h : Stamped now d.store (p.run d.store).2) :
    Stamped now d.store ((Database.onStore p).run d).2.store := by
  rw [Database.run_onStore]
  exact h

/-- The same of a method whose result is not used. -/
theorem stamped_onStore_unit {α : Type} {now : Time} {p : Session α} {d : Database}
    (h : Stamped now d.store (p.run d.store).2) :
    Stamped now d.store ((do let _ ← Database.onStore p : DbSession Unit).run d).2.store := by
  rw [Prog.run_bind_pure_snd]
  exact stamped_onStore h

/-- What a check lets pass. -/
theorem eq_of_check {α : Type} {c : Prop} [Decidable c] {e : PyError} {r r' : α}
    (h : (if c then .ok r else .error e : Except PyError α) = .ok r') : r = r' := by
  split at h
  · exact Except.ok.inj h
  · cases h

/-- A transaction on the other tables. -/
theorem stamped_other {α : Type} {now : Time} {f : Database → Except PyError (α × Database)}
    {d : Database} (hf : ∀ a d', f d = .ok (a, d') → d'.store = d.store) :
    Stamped now d.store ((Prog.tx f).run d).2.store := by
  cases h : f d with
  | error e =>
    rw [Prog.run_tx_error h]
    exact Stamped.refl d.store
  | ok r =>
    rw [Prog.run_tx_ok h]
    exact Stamped.of_tasks (congrArg ClusterStore.tasks (hf r.1 r.2 h))

/-- **One method of the store.**  Those of the other tables do not touch it. -/
theorem StoreCall.stamped (now : Time) (call : StoreCall) (d : Database) :
    Stamped now d.store ((call.program now).run d).2.store := by
  cases call with
  | registerNode | updateHeartbeat | updateCapabilities | setNodeStatus =>
    exact stamped_onStore (Stamped.of_tasks rfl)
  | createTask t title requires priority =>
    exact stamped_onStore_unit (stamped_create now t title requires priority d.store)
  | setTaskStatus t status failReason =>
    exact stamped_onStore_unit (stamped_setTaskStatus status failReason)
  | unassignTask t => exact stamped_onStore stamped_unassignTask
  | unblockTask t => exact stamped_onStore_unit stamped_unblockTask
  | setDependencies t deps => exact stamped_onStore_unit (stamped_setDependencies deps)
  | createLease token t nodeId ttl =>
    exact stamped_onStore_unit (Session.stamped_createLease now token t nodeId ttl d.store)
  | revokeLease id => exact stamped_onStore_unit (Stamped.of_tasks rfl)
  | getActiveLeases => exact stamped_onStore_unit (Session.stamped_getActiveLeases now d.store)
  | handleSyncMessage msg =>
    exact stamped_onStore_unit (Session.stamped_handleSyncMessage now msg d.store)
  | handleBatchSync messages =>
    exact stamped_onStore_unit (Session.stamped_handleBatchSync now messages d.store)
  | triggerPendingTasks => exact stamped_onStore_unit stamped_triggerPendingTasks
  | schedulePending =>
    exact stamped_onStore_unit (Prog.rel_tx Stamped.refl fun _ _ h => stamped_schedulePending h)
  | recordDecision decision =>
    refine stamped_onStore (Prog.rel_tx Stamped.refl fun _ s' h => Stamped.of_tasks ?_)
    obtain ⟨-, rfl⟩ := Prod.mk.inj (eq_of_check h)
    rfl
  | appendRecoveryEvent | triggerRecovery | registerHook =>
    refine stamped_other fun _ d' h => ?_
    obtain ⟨-, rfl⟩ := Prod.mk.inj (eq_of_check h)
    rfl
  | addDelivery _ _ _ payload | setConfig payload =>
    refine stamped_other fun _ d' h => ?_
    cases payload with
    | error e => cases h
    | ok text =>
      obtain ⟨-, rfl⟩ := Prod.mk.inj (Except.ok.inj h)
      rfl
  | registerFederationCluster | removeFederationCluster | deregisterHook =>
    simp only [program]
    exact Stamped.of_tasks rfl

/-! ### Runs -/

namespace Database

/-- The time columns of `tasks` hold datetimes, of those committed and of those a reader sees. -/
def Dated (c : Connection Database) : Prop :=
  c.committed.store.Dated ∧ c.visible.store.Dated

theorem dated_exec {now : Time} (hnow : IsDatetime now) {α : Type} {p : DbSession α}
    (hp : ∀ d, Stamped now d.store (p.run d).2.store) {c : Connection Database} (h : Dated c) :
    Dated (p.exec c).2 :=
  Prog.exec_keeps (I := fun d : Database => d.store.Dated) (fun d hd => hd.stamped hnow (hp d))
    h.1 h.2

theorem dated_step {c : Connection Database} {i : Time × DbOp} (h : Dated c)
    (hnow : IsDatetime i.1) : Dated (step c i) := by
  obtain ⟨now, op⟩ := i
  cases op with
  | store call => exact dated_exec hnow (call.stamped now) h
  | manager call => exact dated_exec hnow (fun d => stamped_onStore (call.stamped now d.store)) h
  | updateNodeStatus nodeId status => exact h

/-- **The columns hold datetimes** in every state of a run, while the clock shows datetimes. -/
theorem dated_run {d : Database} (h : d.store.Dated) (run : List (Time × DbOp))
    (hclock : ∀ i ∈ run, IsDatetime i.1) : Run.Always step Dated (Connection.opened d) run := by
  refine Run.always_of_eachStep (C := fun _ i => IsDatetime i.1) (fun _ _ => dated_step) run
    (Connection.opened d) ⟨h, h⟩ fun l i hl => ?_
  exact hclock i (hl.subset (List.mem_append_right l List.mem_cons_self))

/-- So to compare the texts is to compare the times, in every state of the run. -/
theorem comparesTimes_run {d : Database} (h : d.store.Dated) (run : List (Time × DbOp))
    (hclock : ∀ i ∈ run, IsDatetime i.1) :
    Run.Always step (fun c => c.visible.store.readyRowsText = c.visible.store.readyRows ∧
      ∀ cutoff, IsDatetime cutoff →
        c.visible.store.purgeableText (stamp cutoff) = c.visible.store.purgeable cutoff)
      (Connection.opened d) run :=
  (dated_run h run hclock).imp fun _ hc =>
    ⟨readyRowsText_eq hc.2, fun _ hcutoff => purgeableText_eq hc.2 hcutoff⟩

end Database

end HermesCluster
