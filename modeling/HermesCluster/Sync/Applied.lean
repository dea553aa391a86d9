import HermesCluster.State.TaskSpec
import HermesCluster.Sync.Batch

/-!
# What a replica holds after a message

A sync message that is applied carries the state of one task.  `Shows` says that a task has
the status, the assignee and the version of that state, and `HoldsApplied` that the replica
shows it afterwards and has left all other tasks alone.

`ClusterStore` writes all three columns.  `ClusterState` writes the assignee only when the
message names one, so a message that releases a task leaves its old assignee.
-/

namespace HermesCluster

/-- The task is as the task state has it. -/
def Shows (ts : TaskSync) (x : Task) : Prop :=
  x.status.value = ts.status ∧ x.assignedTo = ts.assignedTo ∧ x.version = ts.version

instance (ts : TaskSync) (x : Task) : Decidable (Shows ts x) := by unfold Shows; infer_instance

/-! ### `ClusterState` -/

namespace ClusterState

variable {s : ClusterState} {now : Time} {msg : SyncMessage} {ts : TaskSync} {status : TaskStatus}

/-- If the message is applied, its task is as its task state has it, and no other task has
changed. -/
def HoldsApplied (s : ClusterState) (now : Time) (msg : SyncMessage) (ts : TaskSync) : Prop :=
  (s.handleSyncMessage now msg).1 = true →
    (∃ x, (s.handleSyncMessage now msg).2.getTask ts.taskId = some x ∧ Shows ts x) ∧
      ∀ k, k ≠ ts.taskId → (s.handleSyncMessage now msg).2.getTask k = s.getTask k

/-- A message that is applied to a task that is there names an assignee, or the one the task
has anyway. -/
def NamesAssignee (s : ClusterState) (msg : SyncMessage) (ts : TaskSync) : Prop :=
  s.syncVersion < msg.version → ∀ x, s.tasks.get? ts.taskId = some x →
    ts.assignedTo.getD "" ≠ "" ∨ ts.assignedTo = x.assignedTo

/-- What an applied message writes, task by task. -/
theorem getTask_handleSyncMessage (now : Time) (h : s.syncVersion < msg.version)
    (hts : msg.taskState = some ts) (k : TaskId) :
    (s.handleSyncMessage now msg).2.getTask k =
      if k = ts.taskId then some ((s.getTask k).elim (syncedNew now ts) (synced now ts))
      else s.getTask k := by
  rw [handleSyncMessage, if_neg (not_le.mpr h), hts]
  exact get?_applyTaskState { s with syncVersion := msg.version } now ts k

theorem shows_syncedNew (now : Time) (hst : ts.status = status.value) :
    Shows ts (syncedNew now ts) := by
  refine ⟨?_, rfl, rfl⟩
  rw [syncedNew, hst, TaskStatus.ofValue_value]

/-- The update of a task takes over all but an absent or empty assignee. -/
theorem shows_synced_iff (now : Time) (hst : ts.status = status.value) (x : Task) :
    Shows ts (synced now ts x) ↔ ts.assignedTo.getD "" ≠ "" ∨ ts.assignedTo = x.assignedTo := by
  have hstatus : (synced now ts x).status.value = ts.status := by
    rw [synced, hst, TaskStatus.ofValue_value]
  have hassigned : (synced now ts x).assignedTo =
      if ts.assignedTo.getD "" ≠ "" then ts.assignedTo else x.assignedTo := rfl
  rw [Shows, hassigned]
  by_cases hne : ts.assignedTo.getD "" ≠ ""
  · rw [if_pos hne]
    exact iff_of_true ⟨hstatus, rfl, rfl⟩ (.inl hne)
  · rw [if_neg hne]
    refine ⟨fun h => .inr h.2.1.symm, ?_⟩
    rintro (h | h)
    · exact absurd h hne
    · exact ⟨hstatus, h.symm, rfl⟩

theorem holdsApplied_iff (now : Time) (hts : msg.taskState = some ts)
    (hst : ts.status = status.value) : s.HoldsApplied now msg ts ↔ s.NamesAssignee msg ts := by
  by_cases h : s.syncVersion < msg.version
  · have hget := getTask_handleSyncMessage now h hts
    have hothers : ∀ k, k ≠ ts.taskId →
        (s.handleSyncMessage now msg).2.getTask k = s.getTask k := by
      intro k hk
      rw [hget, if_neg hk]
    refine ⟨?_, ?_⟩
    · intro hholds _ x hx
      obtain ⟨⟨y, hy, hshows⟩, -⟩ := hholds (handleSyncMessage_fresh now h).1
      rw [hget, if_pos rfl, getTask, hx] at hy
      obtain rfl := Option.some.inj hy
      exact (shows_synced_iff now hst x).mp hshows
    · intro hnames _
      refine ⟨⟨_, (hget ts.taskId).trans (if_pos rfl), ?_⟩, hothers⟩
      cases hx : s.getTask ts.taskId with
      | none => exact shows_syncedNew now hst
      | some x => exact (shows_synced_iff now hst x).mpr (hnames h x hx)
  · refine iff_of_true (fun happlied => ?_) fun hlt => absurd hlt h
    rw [handleSyncMessage_stale (not_lt.mp h)] at happlied
    cases happlied

end ClusterState

/-! ### `ClusterStore` -/

namespace ClusterStore

variable {s : ClusterStore} {now : Time} {msg : SyncMessage} {ts : TaskSync} {status : TaskStatus}

/-- If the message is applied, its task is as its task state has it, and no other row has
changed. -/
def HoldsApplied (s : ClusterStore) (now : Time) (msg : SyncMessage) (ts : TaskSync) : Prop :=
  ∀ s', s.handleSyncMessage now msg = .ok (true, s') →
    (∃ x, s'.getTask ts.taskId = .ok (some x) ∧ Shows ts x) ∧
      ∀ k, k ≠ ts.taskId → s'.tasks.get? k = s.tasks.get? k

theorem get?_logged (now : Time) (hts : msg.taskState = some ts) (k : TaskId) :
    (s.logged now msg).tasks.get? k =
      if k = ts.taskId then some ((s.tasks.get? k).elim (syncedNew now ts) (synced now ts))
      else s.tasks.get? k := by
  simp only [logged, hts]
  exact get?_applyTaskState { s with syncLog := s.syncLog ++ [msg] } now ts k

/-- Both the update and the insertion write every column the message has. -/
theorem written_row (now : Time) (ts : TaskSync) (old : Option TaskRow) :
    (old.elim (syncedNew now ts) (synced now ts)).status = ts.status ∧
      (old.elim (syncedNew now ts) (synced now ts)).assignedTo = ts.assignedTo ∧
      (old.elim (syncedNew now ts) (synced now ts)).version = ts.version := by
  cases old with
  | none => exact ⟨rfl, rfl, rfl⟩
  | some r => exact ⟨rfl, rfl, rfl⟩

theorem holdsApplied (s : ClusterStore) (now : Time) (hts : msg.taskState = some ts)
    (hst : ts.status = status.value) : s.HoldsApplied now msg ts := by
  intro s' hs'
  have hv : s.syncVersion < msg.version := by
    by_contra hle
    rw [handleSyncMessage_stale now (not_lt.mp hle)] at hs'
    cases hs'
  have hstore : storable msg = true := by
    by_contra hno
    rw [handleSyncMessage_raises now hv hno] at hs'
    cases hs'
  rw [handleSyncMessage_applied now hv hstore] at hs'
  obtain rfl : s.logged now msg = s' := congrArg Prod.snd (Except.ok.inj hs')
  have hget := get?_logged (s := s) now hts
  refine ⟨?_, fun k hk => ?_⟩
  · have hrow := (hget ts.taskId).trans (if_pos rfl)
    obtain ⟨hstatus, hassigned, hversion⟩ := written_row now ts (s.tasks.get? ts.taskId)
    have hfits : fits64 ts.version = true := by
      rw [storable, hts, Bool.and_eq_true] at hstore
      exact hstore.2
    have hdecodes := decodes_iff.mpr ⟨status, hstatus.trans hst, hversion ▸ hfits⟩
    refine ⟨_, getTask_of_some hrow hdecodes, ?_⟩
    rw [readRow_of_status (hstatus.trans hst)]
    exact ⟨hst.symm, hassigned, hversion⟩
  · rw [hget, if_neg hk]

end ClusterStore

/-! ### Both -/

/-- **An applied message is what the replica then holds**: in every `ClusterStore`, and in a
`ClusterState` exactly when a message for a task it has names an assignee or the task's own. -/
theorem applied_message_held_iff (now : Time) (msg : SyncMessage) (ts : TaskSync)
    (status : TaskStatus) (hts : msg.taskState = some ts) (hst : ts.status = status.value) :
    (∀ s : ClusterState, s.HoldsApplied now msg ts ↔ s.NamesAssignee msg ts) ∧
      ∀ s : ClusterStore, s.HoldsApplied now msg ts :=
  ⟨fun _ => ClusterState.holdsApplied_iff now hts hst,
    fun s => ClusterStore.holdsApplied s now hts hst⟩

/-- Node n2 says that it has released task_a. -/
def releasedState : TaskSync where
  taskId := "task_a"
  title := "build"
  status := "ready"
  version := 2

def releasedMessage : SyncMessage where
  version := 1
  senderNode := "n2"
  taskState := some releasedState
  timestamp := 2

/-- A `ClusterState` where task_a runs on n2. -/
def runningOnN2 : ClusterState where
  tasks := Table.empty.put { id := "task_a", title := "build", status := .running,
                             assignedTo := some "n2", createdAt := 1, updatedAt := 1, version := 1 }

theorem applied_message_held_releasedMessage :
    (runningOnN2.HoldsApplied 3 releasedMessage releasedState ↔
        runningOnN2.NamesAssignee releasedMessage releasedState) ∧
      ({} : ClusterStore).HoldsApplied 3 releasedMessage releasedState :=
  ⟨(applied_message_held_iff 3 releasedMessage releasedState .ready rfl rfl).1 runningOnN2,
    (applied_message_held_iff 3 releasedMessage releasedState .ready rfl rfl).2 {}⟩

/-- The message is applied; the task is ready and still assigned to n2. -/
theorem released_still_assigned :
    ¬ runningOnN2.HoldsApplied 3 releasedMessage releasedState := by
  intro h
  obtain ⟨⟨x, hx, hshows⟩, -⟩ := h (by decide)
  obtain rfl := Option.some.inj hx
  revert hshows
  decide

end HermesCluster
