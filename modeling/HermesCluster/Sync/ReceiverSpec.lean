import HermesCluster.State.StoreSpec
import HermesCluster.Sync.Receiver

/-!
# What a message does

`receive_single` in closed form.  A message above the sync version of the store is
applied if SQLite can store its integers (`logged`).  No other message touches the store.

`taskView` is what a store shows of a task: the fields a task state carries.
-/

namespace HermesCluster

namespace ClusterStore

/-! ### Tasks -/

/-- The status, assignee and version a store has for a task. -/
def taskView (s : ClusterStore) (taskId : TaskId) : Option (String × Option NodeId × Int) :=
  (s.tasks.get? taskId).map fun r => (r.status, r.assignedTo, r.version)

/-- What a message writes to the view of a task, if it is about that task. -/
def written (taskId : TaskId) (msg : SyncMessage) :
    Option (Option (String × Option NodeId × Int)) :=
  (msg.taskState.filter fun ts => ts.taskId = taskId).map fun ts =>
    some (ts.status, ts.assignedTo, ts.version)

theorem taskView_applyTaskState (s : ClusterStore) (now : Time) (ts : TaskSync) (taskId : TaskId) :
    (s.applyTaskState now ts).taskView taskId =
      if taskId = ts.taskId then some (ts.status, ts.assignedTo, ts.version)
      else s.taskView taskId := by
  unfold taskView
  rw [get?_applyTaskState]
  split
  · cases s.tasks.get? taskId <;> rfl
  · rfl

theorem taskView_logged (s : ClusterStore) (now : Time) (msg : SyncMessage) (taskId : TaskId) :
    (s.logged now msg).taskView taskId = (written taskId msg).getD (s.taskView taskId) := by
  unfold logged written
  cases msg.taskState with
  | none => rfl
  | some ts =>
    show (ClusterStore.applyTaskState _ now ts).taskView taskId = _
    rw [taskView_applyTaskState]
    by_cases hid : taskId = ts.taskId
    · rw [if_pos hid, Option.filter_some_pos (by simp [hid])]; rfl
    · rw [if_neg hid, Option.filter_some_neg (by simpa using fun h => hid h.symm)]; rfl

end ClusterStore

/-! ### `receive_single` -/

namespace SyncReceiver

open ClusterStore

variable {r : SyncReceiver} {msg : SyncMessage}

theorem receiveSingle_stale (now : Time) (h : msg.version ≤ r.store.syncVersion) :
    (r.receiveSingle now msg).1 = .ok (.staleVersion msg.version r.store.syncVersion) ∧
      (r.receiveSingle now msg).2.store = r.store := by
  simp only [receiveSingle, if_pos h, and_self]

theorem receiveSingle_applied (now : Time) (hv : r.store.syncVersion < msg.version)
    (hs : storable msg) :
    (r.receiveSingle now msg).1 = .ok (.applied msg.version msg.eventType) ∧
      (r.receiveSingle now msg).2.store = r.store.logged now msg := by
  simp only [receiveSingle, if_neg (not_le.mpr hv), handleSyncMessage_applied now hv hs, and_self]

theorem receiveSingle_raises (now : Time) (hv : r.store.syncVersion < msg.version)
    (hs : ¬ storable msg) :
    (r.receiveSingle now msg).1 = .error .overflowError ∧
      (r.receiveSingle now msg).2.store = r.store := by
  simp only [receiveSingle, if_neg (not_le.mpr hv), handleSyncMessage_raises now hv hs, and_self]

/-- A message is reported as applied exactly when it is new and SQLite can store it. -/
theorem applied_iff (now : Time) :
    (r.receiveSingle now msg).1 = .ok (.applied msg.version msg.eventType) ↔
      r.store.syncVersion < msg.version ∧ storable msg := by
  refine ⟨?_, ?_⟩
  · intro h
    by_cases hv : r.store.syncVersion < msg.version
    · refine ⟨hv, by_contra fun hs => ?_⟩
      rw [(receiveSingle_raises now hv hs).1] at h
      cases h
    · rw [(receiveSingle_stale now (not_lt.mp hv)).1] at h
      cases h
  · rintro ⟨hv, hs⟩
    exact (receiveSingle_applied now hv hs).1

/-- A message SQLite can store changes the store exactly when it is new. -/
theorem store_receiveSingle (now : Time) (hs : storable msg) :
    (r.receiveSingle now msg).2.store =
      if r.store.syncVersion < msg.version then r.store.logged now msg else r.store := by
  by_cases hv : r.store.syncVersion < msg.version
  · rw [if_pos hv, (receiveSingle_applied now hv hs).2]
  · rw [if_neg hv, (receiveSingle_stale now (not_lt.mp hv)).2]

/-- A message SQLite cannot store changes nothing. -/
theorem store_receiveSingle_of_not_storable (now : Time) (hs : ¬ storable msg) :
    (r.receiveSingle now msg).2.store = r.store := by
  by_cases hv : r.store.syncVersion < msg.version
  · exact (receiveSingle_raises now hv hs).2
  · exact (receiveSingle_stale now (not_lt.mp hv)).2

/-- Beyond its calls of `receive_single` a batch does nothing to the store. -/
theorem store_receiveBatch (now : Time) (messages : List SyncMessage) :
    (r.receiveBatch now messages).2.store = (r.receiveCalls now messages).2.store := by
  unfold receiveBatch
  split
  next results r' hc =>
    split <;> rw [hc]

/-- A message SQLite can store does not raise. -/
theorem receiveSingle_returns (now : Time) (hs : storable msg) :
    ∃ result, (r.receiveSingle now msg).1 = .ok result := by
  by_cases hv : r.store.syncVersion < msg.version
  · exact ⟨_, (receiveSingle_applied now hv hs).1⟩
  · exact ⟨_, (receiveSingle_stale now (not_lt.mp hv)).1⟩

end SyncReceiver

end HermesCluster
