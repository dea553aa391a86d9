import HermesCluster.Lib.VersionGate
import HermesCluster.State.Database
import HermesCluster.Task.Spec

/-!
# Which operations raise in a transaction

For each method, from the tables it is called on: whether its first transaction raises
(`FailsFirst`), and whether a later one does that finds the tables changed (`FailsPartway`).
Only `handle_batch_sync` and `auto_schedule` fail partway; most methods of `TaskManager` check
what they are given and never fail in a transaction.

* `StoreCall.failures`, `TaskOp.failures`: these conditions are exact.
-/

namespace HermesCluster

open ClusterStore

/-! ### Programs that never fail -/

namespace Session

variable {now : Time}

theorem neverFails_getTask (taskId : TaskId) : (getTask taskId).NeverFails :=
  Prog.neverFails_read _

theorem neverFails_setTaskStatus (taskId : TaskId) (status : TaskStatus) (failReason : String) :
    (setTaskStatus now taskId status failReason).NeverFails :=
  Prog.neverFails_write _

/-- What starts with reading a task, and never fails whether there is one or not. -/
theorem neverFails_getTask_bind {α : Type} (taskId : TaskId) {f : Option Task → Session α}
    (hnone : (f none).NeverFails) (hsome : ∀ task, (f (some task)).NeverFails) :
    (getTask taskId >>= f).NeverFails := by
  refine (neverFails_getTask taskId).bind fun task => ?_
  cases task with
  | none => exact hnone
  | some task => exact hsome task

theorem neverFails_createTask (taskId : TaskId) (title : String) (requires : List Capability)
    {priority : Int} (h : fits64 priority = true) :
    (createTask now taskId title requires priority).NeverFails := by
  rw [createTask]
  refine Prog.NeverFails.bind (Prog.neverFails_tx fun s => ?_) fun _ => ?_
  · obtain ⟨s', hs, -⟩ := createTask_ok s now taskId title requires h
    exact ⟨((), s'), by rw [hs]; rfl⟩
  · exact (neverFails_getTask taskId).bind fun _ => Prog.neverFails_pure _

theorem neverFails_getActiveLeases : (getActiveLeases now).NeverFails := by
  rw [getActiveLeases]
  refine (Prog.neverFails_write _).bind fun rows => ?_
  split
  · exact Prog.neverFails_write _
  · exact Prog.neverFails_pure _

end Session

namespace TaskManager

variable {now : Time}

theorem neverFails_addDependencies (taskId : TaskId) (dependsOn : List TaskId) :
    (addDependencies now taskId dependsOn).NeverFails := by
  rw [addDependencies]
  split
  · exact Prog.neverFails_pure _
  · exact (Prog.neverFails_write _).bind fun _ => Prog.neverFails_pure _

theorem neverFails_assign (taskId : TaskId) (assignTo : Option NodeId) :
    (assign now taskId assignTo).NeverFails := by
  rw [assign]
  cases assignTo.filter (· ≠ "") with
  | none => exact Prog.neverFails_pure _
  | some nodeId =>
    refine (Prog.neverFails_read _).bind fun node => ?_
    split
    · exact Prog.neverFails_raise _
    · exact (Session.neverFails_setTaskStatus taskId _ _).bind fun _ => Prog.neverFails_write _

/-- The priority is checked before the store is called. -/
theorem neverFails_createTask (token title : String) (requires : List Capability)
    (priority : Int) (dependsOn : List TaskId) (assignTo : Option NodeId) :
    (createTask now token title requires priority dependsOn assignTo).NeverFails := by
  rw [createTask]
  split
  · exact Prog.neverFails_raise _
  · split
    · exact Prog.neverFails_raise _
    · rename_i hp
      have hfits : fits64 priority = true := fits64_iff.mpr (by omega)
      refine (Session.neverFails_createTask _ title requires hfits).bind fun task => ?_
      refine (neverFails_addDependencies _ dependsOn).bind fun _ => ?_
      refine (neverFails_assign _ assignTo).bind fun _ => ?_
      exact (Session.neverFails_getTask _).bind fun _ => Prog.neverFails_pure _

theorem neverFails_duplicateTask (token : String) (taskId : TaskId) (titleSuffix : String) :
    (duplicateTask now token taskId titleSuffix).NeverFails := by
  refine Session.neverFails_getTask_bind taskId (Prog.neverFails_pure _) fun original => ?_
  exact (neverFails_createTask _ _ _ _ _ _).bind fun _ => Prog.neverFails_pure _

theorem neverFails_cancelTask (taskId : TaskId) : (cancelTask now taskId).NeverFails := by
  refine Session.neverFails_getTask_bind taskId (Prog.neverFails_pure _) fun task => ?_
  refine Prog.NeverFails.ite (Prog.neverFails_pure _) ?_
  exact (Session.neverFails_setTaskStatus taskId _ _).bind fun _ => Prog.neverFails_pure _

theorem neverFails_retryTask (taskId : TaskId) : (retryTask now taskId).NeverFails := by
  refine Session.neverFails_getTask_bind taskId (Prog.neverFails_pure _) fun task => ?_
  refine Prog.NeverFails.ite (Prog.neverFails_pure _) ?_
  refine (Session.neverFails_setTaskStatus taskId _ _).bind fun _ => ?_
  exact (Prog.neverFails_write _).bind fun _ => Session.neverFails_getTask taskId

theorem neverFails_deleteTask (taskId : TaskId) : (deleteTask taskId).NeverFails := by
  refine Session.neverFails_getTask_bind taskId (Prog.neverFails_pure _) fun task => ?_
  refine Prog.NeverFails.ite (Prog.neverFails_pure _) ?_
  exact (Prog.neverFails_write _).bind fun _ => Prog.neverFails_pure _

theorem neverFails_scheduleTaskToNode (taskId : TaskId) (nodeId : NodeId) :
    (scheduleTaskToNode now taskId nodeId).NeverFails := by
  refine Session.neverFails_getTask_bind taskId (Prog.neverFails_pure _) fun task => ?_
  refine Prog.NeverFails.ite (Prog.neverFails_pure _) ?_
  refine (Prog.neverFails_read _).bind fun node => ?_
  cases node with
  | none => exact Prog.neverFails_pure _
  | some node =>
    refine Prog.NeverFails.ite (Prog.neverFails_pure _) ?_
    refine Prog.NeverFails.ite (Prog.neverFails_pure _) ?_
    exact (Prog.neverFails_write _).bind fun _ => Prog.neverFails_pure _

theorem neverFails_bulkCreate (tasks : List NewTask) : (bulkCreate now tasks).NeverFails := by
  induction tasks with
  | nil => exact Prog.neverFails_pure _
  | cons new tasks ih =>
    rw [bulkCreate]
    split
    · exact ih
    · refine (neverFails_createTask _ _ _ _ _ _).bind fun task => ?_
      exact ih.bind fun _ => Prog.neverFails_pure _

theorem neverFails_bulkCancel (taskIds : List TaskId) : (bulkCancel now taskIds).NeverFails := by
  induction taskIds with
  | nil => exact Prog.neverFails_pure _
  | cons taskId taskIds ih =>
    refine (neverFails_cancelTask taskId).bind fun cancelled => ?_
    exact ih.bind fun _ => Prog.neverFails_pure _

theorem neverFails_bulkDelete (taskIds : List TaskId) : (bulkDelete taskIds).NeverFails := by
  induction taskIds with
  | nil => exact Prog.neverFails_pure _
  | cons taskId taskIds ih =>
    refine (neverFails_deleteTask taskId).bind fun deleted => ?_
    exact ih.bind fun _ => Prog.neverFails_pure _

end TaskManager

/-! ### `handle_batch_sync` -/

namespace ClusterStore

/-- The first message of the batch that passes the gate cannot be stored. -/
def FirstUnstorable (s : ClusterStore) (messages : List SyncMessage) : Prop :=
  ∃ msg, messages.find? (fun m => s.syncVersion < m.version) = some msg ∧ ¬ storable msg

/-- Some message of the batch that passes the gate cannot be stored. -/
def SomeUnstorable (s : ClusterStore) (messages : List SyncMessage) : Prop :=
  ∃ msg ∈ VersionGate.passed SyncMessage.version s.syncVersion messages, ¬ storable msg

end ClusterStore

namespace Session

variable {s : ClusterStore} {msg : SyncMessage}

theorem run_readVersion (s : ClusterStore) :
    (Prog.read fun s : ClusterStore => .ok s.syncVersion : Session Int).run s =
      (.ok s.syncVersion, s) := Prog.run_read_ok rfl

/-- A message that does not pass the gate. -/
theorem handleSyncMessage_refused (now : Time) (h : msg.version ≤ s.syncVersion) :
    (handleSyncMessage now msg).opens s = false ∧ (handleSyncMessage now msg).failsAt s = none ∧
      (handleSyncMessage now msg).run s = (.ok false, s) := by
  refine ⟨?_, ?_, ?_⟩
  · rw [handleSyncMessage, Prog.opens_bind_right (Prog.opens_read _ s) (run_readVersion s),
      if_pos h]
    rfl
  · rw [handleSyncMessage, Prog.failsAt_bind_right (Prog.neverFails_read _ _) (run_readVersion s),
      if_pos h]
    rfl
  · rw [handleSyncMessage, Prog.run_bind_ok _ (run_readVersion s), if_pos h, Prog.run_pure]

/-- A message that passes and can be stored. -/
theorem handleSyncMessage_stored (now : Time) (hv : s.syncVersion < msg.version)
    (hs : storable msg = true) :
    (handleSyncMessage now msg).opens s = true ∧ (handleSyncMessage now msg).failsAt s = none ∧
      (handleSyncMessage now msg).run s = (.ok true, s.logged now msg) := by
  have hnot : ¬ msg.version ≤ s.syncVersion := not_le.mpr hv
  have hok := handleSyncMessage_applied now hv hs
  refine ⟨?_, ?_, ?_⟩
  · rw [handleSyncMessage, Prog.opens_bind_right (Prog.opens_read _ s) (run_readVersion s),
      if_neg hnot]
    rfl
  · rw [handleSyncMessage, Prog.failsAt_bind_right (Prog.neverFails_read _ _) (run_readVersion s),
      if_neg hnot]
    simp only [Prog.tx, Prog.failsAt, hok]
  · rw [handleSyncMessage, Prog.run_bind_ok _ (run_readVersion s), if_neg hnot, Prog.run_tx_ok hok]

theorem failures_handleSyncMessage (now : Time) (s : ClusterStore) (msg : SyncMessage) :
    (handleSyncMessage now msg).Failures s
      (s.syncVersion < msg.version ∧ ¬ storable msg = true) False := by
  by_cases hv : s.syncVersion < msg.version
  · have hiff : (∃ e, s.handleSyncMessage now msg = .error e) ↔
        s.syncVersion < msg.version ∧ ¬ storable msg = true := by
      refine ⟨fun ⟨e, he⟩ => ⟨hv, fun hs => ?_⟩, fun ⟨_, hs⟩ => ?_⟩
      · rw [handleSyncMessage_applied now hv hs] at he
        cases he
      · exact ⟨_, handleSyncMessage_raises now hv hs⟩
    rw [handleSyncMessage, ← hiff]
    refine Prog.Failures.read_bind (run_readVersion s) ?_
    rw [if_neg (not_le.mpr hv)]
    exact Prog.failures_tx _ s
  · obtain ⟨-, hat, -⟩ := handleSyncMessage_refused now (not_lt.mp hv)
    refine ⟨?_, ?_⟩
    · simp [Prog.failsFirst_of_none hat, hv]
    · simp [hat]

/-! A batch meets its first message. -/

section Batch

variable (messages : List SyncMessage)

theorem failsFirst_batch_refused (now : Time) (h : msg.version ≤ s.syncVersion) :
    (handleBatchSync now (msg :: messages)).failsFirst s =
      (handleBatchSync now messages).failsFirst s := by
  obtain ⟨hopens, hat, hrun⟩ := handleSyncMessage_refused now h
  rw [handleBatchSync, Prog.failsFirst_bind_right hopens hat hrun,
    Prog.failsFirst_bind_left fun _ => Prog.neverFails_pure _]

theorem failsAt_batch_refused (now : Time) (h : msg.version ≤ s.syncVersion) :
    (handleBatchSync now (msg :: messages)).failsAt s =
      (handleBatchSync now messages).failsAt s := by
  obtain ⟨-, hat, hrun⟩ := handleSyncMessage_refused now h
  rw [handleBatchSync, Prog.failsAt_bind_right hat hrun,
    Prog.failsAt_bind_left fun _ => Prog.neverFails_pure _]

theorem failsFirst_batch_stored (now : Time) (hv : s.syncVersion < msg.version)
    (hs : storable msg = true) :
    (handleBatchSync now (msg :: messages)).failsFirst s = false := by
  obtain ⟨hopens, hat, -⟩ := handleSyncMessage_stored now hv hs
  rw [handleBatchSync, Prog.failsFirst_bind_opened hopens hat]

theorem failsAt_batch_stored (now : Time) (hv : s.syncVersion < msg.version)
    (hs : storable msg = true) :
    (handleBatchSync now (msg :: messages)).failsAt s =
      (handleBatchSync now messages).failsAt (s.logged now msg) := by
  obtain ⟨-, hat, hrun⟩ := handleSyncMessage_stored now hv hs
  rw [handleBatchSync, Prog.failsAt_bind_right hat hrun,
    Prog.failsAt_bind_left fun _ => Prog.neverFails_pure _]

theorem failsFirst_batch_unstorable (now : Time) (hv : s.syncVersion < msg.version)
    (hs : ¬ storable msg = true) :
    (handleBatchSync now (msg :: messages)).failsFirst s = true := by
  have hfirst := (failures_handleSyncMessage now s msg).first_iff.mpr ⟨hv, hs⟩
  rw [handleBatchSync, Prog.failsFirst_bind, hfirst, Bool.true_or]

end Batch

/-- What a batch has stored stays in the log. -/
theorem syncLog_length_failsAt (now : Time) (messages : List SyncMessage) :
    ∀ s b, (handleBatchSync now messages).failsAt s = some b →
      s.syncLog.length ≤ b.syncLog.length := by
  induction messages with
  | nil => intro s b h; cases h
  | cons msg messages ih =>
    intro s b h
    by_cases hv : s.syncVersion < msg.version
    · by_cases hs : storable msg = true
      · rw [failsAt_batch_stored messages now hv hs] at h
        have hle := ih _ b h
        rw [syncLog_logged, List.length_append, List.length_singleton] at hle
        omega
      · rw [Prog.failsAt_of_failsFirst (failsFirst_batch_unstorable messages now hv hs)] at h
        cases h
        exact le_refl _
    · rw [failsAt_batch_refused messages now (not_lt.mp hv)] at h
      exact ih s b h

/-- Where a later transaction of a batch raises, an earlier one has stored something. -/
theorem syncLog_length_failsPartway (now : Time) (messages : List SyncMessage) {b : ClusterStore}
    (hfirst : (handleBatchSync now messages).failsFirst s = false)
    (h : (handleBatchSync now messages).failsAt s = some b) :
    s.syncLog.length < b.syncLog.length := by
  induction messages with
  | nil => cases h
  | cons msg messages ih =>
    by_cases hv : s.syncVersion < msg.version
    · by_cases hs : storable msg = true
      · rw [failsAt_batch_stored messages now hv hs] at h
        have hle := syncLog_length_failsAt now messages _ b h
        rw [syncLog_logged, List.length_append, List.length_singleton] at hle
        omega
      · rw [failsFirst_batch_unstorable messages now hv hs] at hfirst
        cases hfirst
    · rw [failsFirst_batch_refused messages now (not_lt.mp hv)] at hfirst
      rw [failsAt_batch_refused messages now (not_lt.mp hv)] at h
      exact ih hfirst h

/-- Some transaction of a batch raises exactly if some message that passes cannot be stored. -/
theorem failsAt_handleBatchSync (now : Time) (messages : List SyncMessage) :
    ∀ s, (∃ b, (handleBatchSync now messages).failsAt s = some b) ↔
      s.SomeUnstorable messages := by
  induction messages with
  | nil =>
    intro s
    refine iff_of_false ?_ ?_
    · rintro ⟨b, hb⟩
      cases hb
    · rintro ⟨msg, hmem, -⟩
      exact absurd hmem List.not_mem_nil
  | cons msg messages ih =>
    intro s
    by_cases hv : s.syncVersion < msg.version
    · rw [SomeUnstorable, VersionGate.passed_cons_of_lt _ hv]
      by_cases hs : storable msg = true
      · rw [failsAt_batch_stored messages now hv hs, ih, SomeUnstorable, syncVersion_logged now hv]
        simp [hs]
      · rw [Prog.failsAt_of_failsFirst (failsFirst_batch_unstorable messages now hv hs)]
        simp [hs]
    · rw [SomeUnstorable, VersionGate.passed_cons_of_le _ (not_lt.mp hv),
        failsAt_batch_refused messages now (not_lt.mp hv), ih, SomeUnstorable]

theorem failures_handleBatchSync (now : Time) (messages : List SyncMessage) (s : ClusterStore) :
    (handleBatchSync now messages).Failures s (s.FirstUnstorable messages)
      (¬ s.FirstUnstorable messages ∧ s.SomeUnstorable messages) := by
  have hfirst : (handleBatchSync now messages).failsFirst s = true ↔
      s.FirstUnstorable messages := by
    induction messages with
    | nil => simp [FirstUnstorable, handleBatchSync, Prog.failsFirst_of_none
        (Prog.neverFails_pure (ε := PyError) 0 s)]
    | cons msg messages ih =>
      rw [FirstUnstorable]
      by_cases hv : s.syncVersion < msg.version
      · rw [List.find?_cons_of_pos (by simpa using hv)]
        by_cases hs : storable msg = true
        · simp [failsFirst_batch_stored messages now hv hs, hs]
        · simp [failsFirst_batch_unstorable messages now hv hs, hs]
      · rw [List.find?_cons_of_neg (by simpa using hv),
          failsFirst_batch_refused messages now (not_lt.mp hv), ih, FirstUnstorable]
  refine ⟨hfirst, ?_⟩
  rw [← hfirst, Bool.not_eq_true, ← failsAt_handleBatchSync now messages s]
  refine and_congr_right fun hf => exists_congr fun b => and_iff_left_of_imp fun hb heq => ?_
  have hlt := syncLog_length_failsPartway now messages hf hb
  rw [heq] at hlt
  omega

end Session

/-! ### `create_task`, `create_lease` and `schedule_pending` -/

namespace Session

theorem failures_createTask (now : Time) (taskId : TaskId) (title : String)
    (requires : List Capability) (priority : Int) (s : ClusterStore) :
    (createTask now taskId title requires priority).Failures s (¬ fits64 priority = true)
      False := by
  refine Prog.Failures.bind ?_ fun _ =>
    (neverFails_getTask taskId).bind fun _ => Prog.neverFails_pure _
  refine (Prog.failures_tx _ s).congr ?_ Iff.rfl
  by_cases h : fits64 priority = true
  · obtain ⟨s', hs, -⟩ := createTask_ok s now taskId title requires h
    simp [hs, h, Except.map]
  · simp [createTask_raises title requires h, h, Except.map]

theorem failures_createLease (now : Time) (token : String) (taskId : TaskId) (nodeId : NodeId)
    (ttl : Duration) (s : ClusterStore) :
    (createLease now token taskId nodeId ttl).Failures s
      ((∃ t, addTtl now ttl = .ok t) ∧ s.leases.get? (generateId "lease" token) ≠ none) False := by
  cases hexp : addTtl now ttl with
  | error e =>
    have hrun : (Prog.read fun _ => addTtl now ttl : Session Time).run s = (.error e, s) :=
      Prog.run_read_error hexp
    rw [createLease]
    refine (Prog.failures_read_error hrun _).congr ?_ Iff.rfl
    simp
  | ok t =>
    have hrun : (Prog.read fun _ => addTtl now ttl : Session Time).run s = (.ok t, s) :=
      Prog.run_read_ok hexp
    rw [createLease]
    have hcheck : ∃ r, s.createLease now token taskId nodeId ttl =
        if s.leases.get? (generateId "lease" token) = none then .ok r
        else .error .integrityError := by
      rw [ClusterStore.createLease, hexp]
      exact ⟨_, rfl⟩
    obtain ⟨r, hr⟩ := hcheck
    refine (Prog.Failures.read_bind hrun (Prog.failures_check hr)).congr ?_ Iff.rfl
    exact (and_iff_right ⟨t, rfl⟩).symm

theorem failures_schedulePending (now : Time) (s : ClusterStore) :
    (schedulePending now).Failures s (¬ s.Schedulable) False :=
  (Prog.failures_tx _ s).congr (schedulePending_raises_iff now) Iff.rfl

end Session

/-! ### `auto_schedule` -/

namespace ClusterStore

variable {s : ClusterStore}

/-- Some pending row has all its dependencies completed. -/
def Promotable (s : ClusterStore) : Prop :=
  ∃ r ∈ s.tasks.rows, r.status = TaskStatus.pending.value ∧ s.allDone r.dependsOn

/-- What `Schedulable` says, the rows counted as ready that are promoted first. -/
def SchedulableAfterPromotion (s : ClusterStore) : Prop :=
  (∀ n ∈ s.onlineRows, n.load ≠ .nan) ∧
    (s.onlineRows ≠ [] → ∀ r ∈ s.tasks.rows,
      r.status = TaskStatus.ready.value ∨
        (r.status = TaskStatus.pending.value ∧ s.allDone r.dependsOn) → decodes r = true)

theorem promoted_status_ready (now : Time) (r : TaskRow) :
    (s.promoted now r).status = TaskStatus.ready.value ↔
      r.status = TaskStatus.ready.value ∨
        (r.status = TaskStatus.pending.value ∧ s.allDone r.dependsOn) := by
  rw [promoted]
  by_cases hd : s.allDone r.dependsOn = true
  · rw [if_pos hd, madeReady]
    split
    · rename_i hp
      simp [hp, hd]
    · rename_i hp
      simp [hp]
  · rw [if_neg hd]
    simp [hd]

theorem onlineRows_triggerPendingTasks (now : Time) :
    (s.triggerPendingTasks now).2.onlineRows = s.onlineRows := by
  rw [onlineRows, triggerPendingTasks, nodes_foldl_triggerOne, onlineRows]

theorem schedulable_triggerPendingTasks (now : Time) :
    (s.triggerPendingTasks now).2.Schedulable ↔ s.SchedulableAfterPromotion := by
  rw [Schedulable, SchedulableAfterPromotion, onlineRows_triggerPendingTasks]
  refine and_congr_right fun _ => imp_congr_right fun _ => ⟨fun h r hr hst => ?_, fun h x hx => ?_⟩
  · have hget := Table.get?_of_mem hr
    have hnew : (s.triggerPendingTasks now).2.tasks.get? r.id = some (s.promoted now r) := by
      rw [get?_triggerPendingTasks, show s.tasks.get? r.id = some r from hget]
      rfl
    have hid : (s.promoted now r).id = r.id := Table.key_of_get? hnew
    rw [← decodes_promoted (s := s) now r]
    refine h _ (mem_readyRows.mpr ⟨?_, (promoted_status_ready now r).mpr hst⟩)
    rw [hid]
    exact hnew
  · obtain ⟨hget, hst⟩ := mem_readyRows.mp hx
    rw [get?_triggerPendingTasks] at hget
    obtain ⟨r, hr, rfl⟩ := Option.map_eq_some_iff.mp hget
    rw [decodes_promoted]
    exact h r (Table.mem_of_get? hr) ((promoted_status_ready now r).mp hst)

/-- Promotion changes the tables exactly if there is something to promote. -/
theorem triggerPendingTasks_ne_iff (now : Time) :
    (s.triggerPendingTasks now).2 ≠ s ↔ s.Promotable := by
  refine ⟨fun hne => ?_, fun ⟨r, hr, hp, hd⟩ heq => ?_⟩
  · by_contra hno
    refine hne ?_
    have hloop : ∀ l : List TaskRow, (∀ r ∈ l, ¬ s.allDone r.dependsOn = true) →
        l.foldl (triggerOne now) (0, s) = (0, s) := by
      intro l hl
      induction l with
      | nil => rfl
      | cons r l ih =>
        rw [List.foldl_cons, triggerOne_eq, if_neg (hl r List.mem_cons_self)]
        exact ih fun x hx => hl x (List.mem_cons_of_mem r hx)
    rw [triggerPendingTasks, hloop]
    intro r hr hd
    obtain ⟨hmem, hst⟩ := List.mem_filter.mp hr
    exact hno ⟨r, hmem, of_decide_eq_true hst, hd⟩
  · have hget : s.tasks.get? r.id = some r := Table.get?_of_mem hr
    have hnew : (s.triggerPendingTasks now).2.tasks.get? r.id =
        (s.tasks.get? r.id).map (s.promoted now) := get?_triggerPendingTasks
    rw [heq, hget, Option.map_some, Option.some.injEq] at hnew
    have hst := (promoted_status_ready (s := s) now r).mpr (Or.inr ⟨hp, hd⟩)
    rw [← hnew, hp] at hst
    exact absurd hst (by decide)

end ClusterStore

namespace TaskManager

theorem failures_autoSchedule (now : Time) (s : ClusterStore) :
    (autoSchedule now).Failures s False (¬ s.SchedulableAfterPromotion ∧ s.Promotable) := by
  rw [autoSchedule, Session.triggerPendingTasks]
  refine (Prog.failures_write_bind _ s _).congr Iff.rfl ?_
  rw [← schedulable_triggerPendingTasks now, ← triggerPendingTasks_ne_iff now,
    ← schedulePending_raises_iff now]
  have htx := Prog.failsAt_tx_iff (fun s : ClusterStore => s.schedulePending now)
    (s.triggerPendingTasks now).2 (· ≠ s)
  refine Iff.trans (exists_congr fun b => ?_) htx
  rw [Prog.failsAt_bind_left]
  · rfl
  · exact fun _ => (Prog.neverFails_read _).bind fun _ => Prog.neverFails_pure _

theorem failures_updateTask (now : Time) (taskId : TaskId) (title : Option String)
    (priority : Option Int) (requires : Option (List Capability))
    (dependsOn : Option (List TaskId)) (s : ClusterStore) :
    (updateTask now taskId title priority requires dependsOn).Failures s
      ((∃ r, s.tasks.get? taskId = some r ∧ decodes r = true) ∧
        (title.any blank = true ∨ (priority.any fun p => p < 1 ∨ 5 < p) = true)) False := by
  rw [updateTask]
  cases hr : s.tasks.get? taskId with
  | none =>
    have hread := Session.run_getTask_ok (getTask_of_none hr)
    refine Prog.Failures.congr (?_ : Prog.Failures _ s False False) ?_ Iff.rfl
    · exact Prog.Failures.read_bind hread ((Prog.neverFails_pure _).failures s)
    · simp
  | some r =>
    by_cases hd : decodes r = true
    · have hread := Session.run_getTask_ok (getTask_of_some hr hd)
      refine (Prog.Failures.read_bind hread ((Prog.failures_tx _ s).bind fun _ =>
        Session.neverFails_getTask taskId)).congr ?_ Iff.rfl
      have hrow : ∃ r', some r = some r' ∧ decodes r' = true := ⟨r, rfl, hd⟩
      rw [ClusterStore.updateTask, and_iff_right hrow]
      by_cases ht : title.any blank = true
      · rw [if_pos ht]
        exact iff_of_true ⟨_, rfl⟩ (Or.inl ht)
      · rw [if_neg ht]
        by_cases hp : (priority.any fun p => p < 1 ∨ 5 < p) = true
        · rw [if_pos hp]
          exact iff_of_true ⟨_, rfl⟩ (Or.inr hp)
        · rw [if_neg hp]
          refine iff_of_false ?_ (not_or.mpr ⟨ht, hp⟩)
          rintro ⟨e, he⟩
          cases he
    · obtain ⟨e, he⟩ := getTask_raises hr hd
      refine (Prog.failures_read_error (Session.run_getTask_error he) _).congr ?_ Iff.rfl
      simp [hd]

end TaskManager

/-! ### The methods -/

namespace StoreCall

open Database

/-- The first transaction of the call raises. -/
def FailsFirst (now : Time) (d : Database) : StoreCall → Prop
  | .createTask _ _ _ priority => ¬ fits64 priority
  | .createLease token _ _ ttl => (∃ t, addTtl now ttl = .ok t) ∧
      d.store.leases.get? (generateId "lease" token) ≠ none
  | .handleSyncMessage msg => d.store.syncVersion < msg.version ∧ ¬ storable msg
  | .handleBatchSync messages => d.store.FirstUnstorable messages
  | .appendRecoveryEvent token id _ => d.recoveryEvents.get? (recoveryId token id) ≠ none
  | .triggerRecovery token _ => d.recoveryEvents.get? (recoveryId token "") ≠ none
  | .recordDecision decision => ¬ fits64 decision.priority
  | .schedulePending => ¬ d.store.Schedulable
  | .registerHook token _ _ _ => d.hooks.get? (generateId "hook" token) ≠ none
  | .addDelivery _ _ _ payload _ _ => ∃ e, payload = .error e
  | .setConfig config => ∃ e, config = .error e
  | _ => False

/-- A later transaction of the call raises, and finds the tables changed. -/
def FailsPartway (d : Database) : StoreCall → Prop
  | .handleBatchSync messages =>
    ¬ d.store.FirstUnstorable messages ∧ d.store.SomeUnstorable messages
  | _ => False

variable {now : Time} {d : Database}

/-- A method of the store fails in its own tables. -/
theorem failures_onStore {α : Type} {p : Session α} {first partway : Prop}
    (h : p.Failures d.store first partway) : (onStore p).Failures d first partway := by
  refine Prog.Failures.zoom ?_ ?_ ?_ h
  · exact fun _ _ => rfl
  · exact fun _ _ _ => rfl
  · exact fun _ => rfl

/-- The same, when the result is dropped. -/
theorem failures_onStore_unit {α : Type} {p : Session α} {first partway : Prop}
    (h : p.Failures d.store first partway) :
    (do let _ ← onStore p : DbSession Unit).Failures d first partway :=
  (failures_onStore h).bind fun _ => Prog.neverFails_pure _

/-- A transaction that binds a text. -/
theorem failures_map (text : Except PyError String) (g : Database → String → Unit × Database) :
    (Prog.tx fun d => text.map (g d)).Failures d (∃ e, text = .error e) False := by
  refine (Prog.failures_tx _ d).congr ?_ Iff.rfl
  cases text with
  | error e => exact iff_of_true ⟨e, rfl⟩ ⟨e, rfl⟩
  | ok text => simp [Except.map]

theorem failures (now : Time) (d : Database) (call : StoreCall) :
    (call.program now).Failures d (call.FailsFirst now d) (call.FailsPartway d) := by
  cases call with
  | createTask taskId title requires priority =>
    exact failures_onStore_unit (Session.failures_createTask now taskId title requires priority _)
  | createLease token taskId nodeId ttl =>
    exact failures_onStore_unit (Session.failures_createLease now token taskId nodeId ttl d.store)
  | handleSyncMessage msg =>
    exact failures_onStore_unit (Session.failures_handleSyncMessage now d.store msg)
  | handleBatchSync messages =>
    exact failures_onStore_unit (Session.failures_handleBatchSync now messages d.store)
  | appendRecoveryEvent token id event => exact Prog.failures_check rfl
  | triggerRecovery token nodeId => exact Prog.failures_check rfl
  | recordDecision decision =>
    refine (failures_onStore (Prog.failures_check rfl)).congr Iff.rfl Iff.rfl
  | schedulePending => exact failures_onStore_unit (Session.failures_schedulePending now d.store)
  | registerHook token url events secret => exact Prog.failures_check rfl
  | addDelivery id hookId eventType payload status createdAt => exact failures_map payload _
  | setConfig config => exact failures_map config _
  | getActiveLeases => exact failures_onStore_unit (Session.neverFails_getActiveLeases.failures _)
  | setTaskStatus | unblockTask | setDependencies | revokeLease | triggerPendingTasks =>
    exact failures_onStore_unit ((Prog.neverFails_write _).failures _)
  | registerNode | updateHeartbeat | updateCapabilities | setNodeStatus | unassignTask =>
    exact failures_onStore ((Prog.neverFails_write _).failures _)
  | registerFederationCluster => exact (Prog.neverFails_write _).failures _
  | removeFederationCluster | deregisterHook =>
    exact ((Prog.neverFails_write _).bind fun _ => Prog.neverFails_pure _).failures _

end StoreCall

namespace TaskOp

/-- The first transaction of the call raises: `update_task` checks what it is given in the
transaction. -/
def FailsFirst (s : ClusterStore) : TaskOp → Prop
  | .update taskId title priority _ _ => (∃ r, s.tasks.get? taskId = some r ∧ decodes r) ∧
      (title.any blank ∨ priority.any fun p => p < 1 ∨ 5 < p)
  | _ => False

/-- A later transaction of the call raises, and finds the tables changed. -/
def FailsPartway (s : ClusterStore) : TaskOp → Prop
  | .autoSchedule => ¬ s.SchedulableAfterPromotion ∧ s.Promotable
  | _ => False

theorem failures (now : Time) (s : ClusterStore) (op : TaskOp) :
    (op.program now).Failures s (op.FailsFirst s) (op.FailsPartway s) := by
  have hunit : ∀ (α : Type) (_ : α), (pure () : Session Unit).NeverFails :=
    fun _ _ => Prog.neverFails_pure ()
  cases op with
  | create token title requires priority dependsOn assignTo =>
    exact ((TaskManager.neverFails_createTask _ _ _ _ _ _).bind (hunit _)).failures s
  | duplicate token taskId titleSuffix =>
    exact ((TaskManager.neverFails_duplicateTask _ _ _).bind (hunit _)).failures s
  | update taskId title priority requires dependsOn =>
    exact (TaskManager.failures_updateTask now taskId title priority requires dependsOn s).bind
      (hunit _)
  | cancel taskId => exact ((TaskManager.neverFails_cancelTask _).bind (hunit _)).failures s
  | retry taskId => exact ((TaskManager.neverFails_retryTask _).bind (hunit _)).failures s
  | delete taskId => exact ((TaskManager.neverFails_deleteTask _).bind (hunit _)).failures s
  | purge olderThanSeconds =>
    have hpurge : (TaskManager.purgeCompleted now olderThanSeconds).NeverFails :=
      (Prog.neverFails_read _).bind fun _ => Prog.neverFails_write _
    exact (hpurge.bind (hunit _)).failures s
  | autoSchedule => exact (TaskManager.failures_autoSchedule now s).bind (hunit _)
  | scheduleTo taskId nodeId =>
    exact ((TaskManager.neverFails_scheduleTaskToNode _ _).bind (hunit _)).failures s
  | bulkCreate tasks => exact ((TaskManager.neverFails_bulkCreate _).bind (hunit _)).failures s
  | bulkCancel taskIds => exact ((TaskManager.neverFails_bulkCancel _).bind (hunit _)).failures s
  | bulkDelete taskIds => exact ((TaskManager.neverFails_bulkDelete _).bind (hunit _)).failures s

end TaskOp

end HermesCluster
