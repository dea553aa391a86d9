import HermesCluster.Lib.Clock
import HermesCluster.State.StoreSpec
import HermesCluster.State.TaskSpec

/-!
# The version as a clock

Peers decide which of two states of a task is newer by its version.  The task methods of
both stores are put under one name, `mutate`, and the version is compared with what it is
a clock for: status, assignee, dependencies and failure reason.

* A method that counts the version ticks, as long as the version can be counted up
  (`Countable`); a row at 2^63 or above ticks only if the update changes nothing.
* `trigger_pending_tasks` makes a task ready and does not count, so it ticks exactly
  when it promotes nothing.
* `handle_sync_message` writes the version of the message, whatever the local one is.

`strictClock_iff` says for every method and every state of both stores when the version is
a strict clock.
-/

namespace HermesCluster

open Versioned

instance : Versioned Task Int (TaskStatus × Option NodeId × List TaskId × Option String) where
  version := Task.version
  content t := (t.status, t.assignedTo, t.dependsOn, t.failReason)

instance : Versioned TaskRow Int (String × Option NodeId × List TaskId × Option String) where
  version := TaskRow.version
  content r := (r.status, r.assignedTo, r.dependsOn, r.failReason)

theorem ticks_task_iff {a b : Task} : Ticks a b ↔ a.version ≤ b.version ∧
    (a.version = b.version → a.status = b.status ∧ a.assignedTo = b.assignedTo ∧
      a.dependsOn = b.dependsOn ∧ a.failReason = b.failReason) := by
  rw [ticks_iff]
  show _ ≤ _ ∧ (_ → (_, _, _, _) = (_, _, _, _)) ↔ _
  simp only [Prod.mk.injEq]
  rfl

theorem ticks_row_iff {a b : TaskRow} : Ticks a b ↔ a.version ≤ b.version ∧
    (a.version = b.version → a.status = b.status ∧ a.assignedTo = b.assignedTo ∧
      a.dependsOn = b.dependsOn ∧ a.failReason = b.failReason) := by
  rw [ticks_iff]
  show _ ≤ _ ∧ (_ → (_, _, _, _) = (_, _, _, _)) ↔ _
  simp only [Prod.mk.injEq]
  rfl

/-- A call of a method that changes tasks. -/
inductive TaskMutator
  | setTaskStatus (taskId : TaskId) (status : TaskStatus) (failReason : String)
  | unassignTask (taskId : TaskId)
  | unblockTask (taskId : TaskId)
  | setDependencies (taskId : TaskId) (dependsOn : List TaskId)
  | triggerPendingTasks
  | schedulePending
  | handleSyncMessage (msg : SyncMessage)
deriving DecidableEq, Repr

/-! ### `ClusterState` -/

namespace ClusterState

variable {s : ClusterState} {now : Time} {x : Task}

/-- The store after a call. -/
def mutate (s : ClusterState) (now : Time) : TaskMutator → ClusterState
  | .setTaskStatus taskId status failReason => s.setTaskStatus now taskId status failReason
  | .unassignTask taskId => s.unassignTask now taskId
  | .unblockTask taskId => (s.unblockTask now taskId).2
  | .setDependencies taskId dependsOn => s.setDependencies now taskId dependsOn
  | .triggerPendingTasks => (s.triggerPendingTasks now).2
  | .schedulePending => (s.schedulePending now).2
  | .handleSyncMessage msg => (s.handleSyncMessage now msg).2

/-- No pending task has all its dependencies completed. -/
def NothingToPromote (s : ClusterState) : Prop :=
  ∀ k x, s.tasks.get? k = some x → x.status = .pending → ¬ s.allDone x.dependsOn

/-- Writing the task state over `x` takes no version back, and at the version of `x` it
changes neither the status nor the assignee. -/
def SyncTicks (x : Task) (ts : TaskSync) : Prop :=
  x.version ≤ ts.version ∧ (x.version = ts.version →
    (∀ status, TaskStatus.ofValue ts.status = .ok status → x.status = status) ∧
      (ts.assignedTo.getD "" ≠ "" → x.assignedTo = ts.assignedTo))

/-- The calls that keep the version a strict clock. -/
def Clocked (s : ClusterState) : TaskMutator → Prop
  | .triggerPendingTasks => s.NothingToPromote
  | .handleSyncMessage msg => s.syncVersion < msg.version → ∀ ts, msg.taskState = some ts →
      ∀ x, s.tasks.get? ts.taskId = some x → SyncTicks x ts
  | _ => True

theorem ticks_of_counted {y : Task} (h : y.version = x.version + 1) : Ticks x y := by
  refine ticks_of_lt ?_
  show x.version < y.version
  omega

theorem ticks_unblocked (x : Task) :
    Ticks x (if x.status = .blocked then unblocked now x else x) := by
  by_cases hb : x.status = .blocked
  · rw [if_pos hb]
    exact ticks_of_counted rfl
  · rw [if_neg hb]
    exact ticks_refl x

/-- A promotion changes the status and leaves the version. -/
theorem ticks_promoted :
    Ticks x (s.promoted now x) ↔ ¬ (x.status = .pending ∧ s.allDone x.dependsOn) := by
  rw [promoted]
  by_cases hp : x.status = .pending ∧ s.allDone x.dependsOn
  · rw [if_pos hp, ticks_task_iff]
    refine iff_of_false (fun h => ?_) (not_not_intro hp)
    have hst := (h.2 rfl).1
    rw [hp.1] at hst
    cases hst
  · rw [if_neg hp]
    exact iff_of_true (ticks_refl x) hp

theorem ticks_scheduled : Ticks x (s.scheduled now x) := by
  rw [scheduled]
  split
  · split
    next node _ => exact ticks_of_counted rfl
    · exact ticks_refl x
  · exact ticks_refl x

theorem ticks_synced {ts : TaskSync} : Ticks x (synced now ts x) ↔ SyncTicks x ts := by
  rw [ticks_task_iff, SyncTicks]
  refine and_congr_right fun _ => forall_congr' fun _ => and_congr ?_ ?_
  · rw [synced]
    cases hst : TaskStatus.ofValue ts.status with
    | ok status => simp
    | error e => simp
  · show (x.assignedTo = if _ then _ else _) ∧ _ ↔ _
    by_cases ha : ts.assignedTo.getD "" ≠ ""
    · rw [if_pos ha]
      exact ⟨fun h _ => h.1, fun h => ⟨h ha, rfl, rfl⟩⟩
    · rw [if_neg ha]
      exact iff_of_true ⟨rfl, rfl, rfl⟩ fun h => absurd h ha

theorem strictClock_handleSyncMessage (s : ClusterState) (now : Time) (msg : SyncMessage) :
    StrictClock s.tasks.get? (s.handleSyncMessage now msg).2.tasks.get? ↔
      s.Clocked (.handleSyncMessage msg) := by
  rw [handleSyncMessage]
  by_cases hv : msg.version ≤ s.syncVersion
  · rw [if_pos hv]
    exact iff_of_true (strictClock_refl _) fun hlt => absurd hlt (not_lt.mpr hv)
  · rw [if_neg hv]
    have hlt := not_le.mp hv
    cases hts : msg.taskState with
    | none =>
      refine iff_of_true (strictClock_refl _) fun _ ts h => ?_
      rw [hts] at h
      cases h
    | some ts =>
      refine (strictClock_write_iff
        (get?_applyTaskState { s with syncVersion := msg.version } now ts)).trans ?_
      simp only [ticks_synced]
      refine ⟨?_, ?_⟩
      · intro h _ ts' hts' x hx
        rw [← Option.some.inj (hts.symm.trans hts')] at hx ⊢
        exact h x hx
      · intro h x hx
        exact h hlt ts hts x hx

theorem strictClock_mutate (s : ClusterState) (now : Time) (op : TaskMutator) :
    StrictClock s.tasks.get? (s.mutate now op).tasks.get? ↔ s.Clocked op := by
  cases op with
  | setTaskStatus t status reason =>
    refine (strictClock_update_iff fun k => get?_setTaskStatus status reason).trans ?_
    exact iff_of_true (fun x _ => ticks_of_counted rfl) trivial
  | unassignTask t =>
    refine (strictClock_update_iff fun k => get?_unassignTask).trans ?_
    exact iff_of_true (fun x _ => ticks_of_counted rfl) trivial
  | unblockTask t =>
    refine (strictClock_update_iff fun k => get?_unblockTask).trans ?_
    exact iff_of_true (fun x _ => ticks_unblocked x) trivial
  | setDependencies t deps =>
    refine (strictClock_update_iff fun k => get?_setDependencies deps).trans ?_
    exact iff_of_true (fun x _ => ticks_of_counted rfl) trivial
  | triggerPendingTasks =>
    refine (strictClock_map_iff fun k => get?_triggerPendingTasks).trans ?_
    simp only [ticks_promoted, not_and]
    rfl
  | schedulePending =>
    refine (strictClock_map_iff fun k => get?_schedulePending).trans ?_
    exact iff_of_true (fun _ x _ => ticks_scheduled) trivial
  | handleSyncMessage msg => exact strictClock_handleSyncMessage s now msg

end ClusterState

/-! ### `ClusterStore` -/

namespace ClusterStore

variable {s : ClusterStore} {now : Time} {r : TaskRow}

/-- The store after a call; a call that raises changes nothing. -/
def mutate (s : ClusterStore) (now : Time) : TaskMutator → ClusterStore
  | .setTaskStatus taskId status failReason => s.setTaskStatus now taskId status failReason
  | .unassignTask taskId => s.unassignTask now taskId
  | .unblockTask taskId => (s.unblockTask now taskId).2
  | .setDependencies taskId dependsOn => s.setDependencies now taskId dependsOn
  | .triggerPendingTasks => (s.triggerPendingTasks now).2
  | .schedulePending =>
    match s.schedulePending now with
    | .ok (_, s') => s'
    | .error _ => s
  | .handleSyncMessage msg =>
    match s.handleSyncMessage now msg with
    | .ok (_, s') => s'
    | .error _ => s

/-- Whether adding one in SQL makes the version larger. -/
def Countable (r : TaskRow) : Prop := r.version < 9223372036854775808

/-- No pending row has all its dependencies completed. -/
def NothingToPromote (s : ClusterStore) : Prop :=
  ∀ k r, s.tasks.get? k = some r → r.status = TaskStatus.pending.value → ¬ s.allDone r.dependsOn

/-- Writing the task state over the row takes no version back, and at the version of the
row it changes neither the status nor the assignee. -/
def SyncTicks (r : TaskRow) (ts : TaskSync) : Prop :=
  r.version ≤ ts.version ∧ (r.version = ts.version →
    r.status = ts.status ∧ r.assignedTo = ts.assignedTo)

/-- The calls that keep the version a strict clock. -/
def Clocked (s : ClusterStore) : TaskMutator → Prop
  | .setTaskStatus taskId status failReason => ∀ r, s.tasks.get? taskId = some r →
      Countable r ∨
        r.status = status.value ∧ (failReason ≠ "" → r.failReason = some failReason)
  | .unassignTask taskId => ∀ r, s.tasks.get? taskId = some r →
      Countable r ∨ r.status = TaskStatus.ready.value ∧ r.assignedTo = none
  | .unblockTask taskId => ∀ r, s.tasks.get? taskId = some r →
      r.status = TaskStatus.blocked.value → Countable r
  | .setDependencies taskId dependsOn => ∀ r, s.tasks.get? taskId = some r →
      Countable r ∨
        r.dependsOn = dependsOn ∧ (dependsOn ≠ [] → r.status ≠ TaskStatus.ready.value)
  | .triggerPendingTasks => s.NothingToPromote
  | .schedulePending => True
  | .handleSyncMessage msg => s.syncVersion < msg.version → storable msg →
      ∀ ts, msg.taskState = some ts → ∀ r, s.tasks.get? ts.taskId = some r → SyncTicks r ts

/-- An update that counts the version ticks, or leaves the content alone. -/
theorem ticks_bumped_iff {q : TaskRow} (h : q.version = bumped r.version) : Ticks r q ↔
    Countable r ∨ r.status = q.status ∧ r.assignedTo = q.assignedTo ∧
      r.dependsOn = q.dependsOn ∧ r.failReason = q.failReason := by
  rw [ticks_row_iff, h]
  by_cases hc : r.version < 9223372036854775808
  · rw [bumped_of_lt hc]
    exact iff_of_true ⟨by omega, fun he => absurd he (by omega)⟩ (Or.inl hc)
  · rw [bumped_of_not_lt hc]
    have hnot : ¬ Countable r := hc
    simp only [le_refl, true_and, true_implies, hnot, false_or]

theorem ticks_withStatus {status : TaskStatus} {reason : String} :
    Ticks r (withStatus now status reason r) ↔
      Countable r ∨ r.status = status.value ∧ (reason ≠ "" → r.failReason = some reason) := by
  rw [ticks_bumped_iff rfl]
  refine or_congr_right (and_congr_right fun _ => ?_)
  show (_ = _ ∧ _ = _ ∧ r.failReason = if reason ≠ "" then some reason else r.failReason) ↔ _
  by_cases hr : reason ≠ ""
  · rw [if_pos hr]
    exact ⟨fun h _ => h.2.2, fun h => ⟨rfl, rfl, h hr⟩⟩
  · rw [if_neg hr]
    exact iff_of_true ⟨rfl, rfl, rfl⟩ fun h => absurd h hr

theorem ticks_unassigned : Ticks r (unassigned now r) ↔
    Countable r ∨ r.status = TaskStatus.ready.value ∧ r.assignedTo = none := by
  rw [ticks_bumped_iff rfl]
  refine or_congr_right (and_congr_right fun _ => ?_)
  exact ⟨fun h => h.1, fun h => ⟨h, rfl, rfl⟩⟩

theorem ticks_unblocked : Ticks r (unblocked now r) ↔
    (r.status = TaskStatus.blocked.value → Countable r) := by
  rw [unblocked]
  by_cases hb : r.status = TaskStatus.blocked.value
  · rw [if_pos hb, ticks_bumped_iff rfl]
    have hne : TaskStatus.blocked.value ≠ TaskStatus.pending.value := by decide
    refine ⟨?_, ?_⟩
    · intro h _
      refine h.resolve_right fun hsame => hne ?_
      rw [← hb]
      exact hsame.1
    · exact fun h => Or.inl (h hb)
  · rw [if_neg hb]
    exact iff_of_true (ticks_refl r) fun h => absurd h hb

theorem ticks_withDependencies {deps : List TaskId} :
    Ticks r (withDependencies now deps r) ↔ Countable r ∨
      r.dependsOn = deps ∧ (deps ≠ [] → r.status ≠ TaskStatus.ready.value) := by
  rw [ticks_bumped_iff rfl]
  refine or_congr_right ?_
  have hne : TaskStatus.ready.value ≠ TaskStatus.pending.value := by decide
  show (r.status = (if deps ≠ [] ∧ r.status = TaskStatus.ready.value
    then TaskStatus.pending.value else r.status) ∧ _ = _ ∧ r.dependsOn = deps ∧ _ = _) ↔ _
  by_cases hd : deps ≠ [] ∧ r.status = TaskStatus.ready.value
  · rw [if_pos hd, hd.2]
    exact iff_of_false (fun h => hne h.1) fun h => h.2 hd.1 rfl
  · rw [if_neg hd]
    rw [not_and] at hd
    exact ⟨fun h => ⟨h.2.2.1, hd⟩, fun h => ⟨rfl, rfl, h.1, rfl⟩⟩

/-- A promotion changes the status and leaves the version. -/
theorem ticks_promoted : Ticks r (s.promoted now r) ↔
    (r.status = TaskStatus.pending.value → ¬ s.allDone r.dependsOn) := by
  have hne : TaskStatus.pending.value ≠ TaskStatus.ready.value := by decide
  rw [promoted, madeReady]
  by_cases hd : s.allDone r.dependsOn = true
  · rw [if_pos hd]
    by_cases hp : r.status = TaskStatus.pending.value
    · rw [if_pos hp, ticks_row_iff]
      refine iff_of_false (fun h => hne ?_) fun h => h hp hd
      rw [← hp]
      exact (h.2 rfl).1
    · rw [if_neg hp]
      exact iff_of_true (ticks_refl r) fun h => absurd h hp
  · rw [if_neg hd]
    exact iff_of_true (ticks_refl r) fun _ => hd

/-- A row that decodes can be counted, and `schedule_pending` touches no other. -/
theorem strictClock_schedulePending (s : ClusterStore) (now : Time) :
    StrictClock s.tasks.get? (s.mutate now .schedulePending).tasks.get? := by
  by_cases hs : Schedulable s
  · obtain ⟨n, s', hok, _, hget⟩ := schedulePending_ok now hs
    rw [mutate, hok, strictClock_map_iff hget]
    intro k r hr
    rw [scheduled]
    by_cases hready : r.status = TaskStatus.ready.value
    · rw [if_pos hready]
      cases hf : s.firstFit r.requires with
      | none => exact ticks_refl r
      | some node =>
        have honline : s.onlineRows ≠ [] := List.ne_nil_of_mem (List.mem_of_find?_eq_some hf)
        have hid : r.id = k := Table.key_of_get? hr
        have hdec := hs.2 honline r (mem_readyRows.mpr ⟨hid ▸ hr, hready⟩)
        obtain ⟨_, _, hv⟩ := decodes_iff.mp hdec
        rw [fits64_iff] at hv
        exact (ticks_bumped_iff rfl).mpr (Or.inl (show r.version < _ by omega))
    · rw [if_neg hready]
      exact ticks_refl r
  · obtain ⟨e, he⟩ := schedulePending_raises now hs
    rw [mutate, he]
    exact strictClock_refl _

theorem ticks_synced {ts : TaskSync} : Ticks r (synced now ts r) ↔ SyncTicks r ts := by
  rw [ticks_row_iff]
  refine and_congr_right fun _ => forall_congr' fun _ => and_congr_right fun _ => ?_
  exact ⟨fun h => h.1, fun h => ⟨h, rfl, rfl⟩⟩

theorem strictClock_handleSyncMessage (s : ClusterStore) (now : Time) (msg : SyncMessage) :
    StrictClock s.tasks.get? (s.mutate now (.handleSyncMessage msg)).tasks.get? ↔
      s.Clocked (.handleSyncMessage msg) := by
  rw [mutate, handleSyncMessage]
  by_cases hv : msg.version ≤ s.syncVersion
  · rw [if_pos hv]
    exact iff_of_true (strictClock_refl _) fun hlt => absurd hlt (not_lt.mpr hv)
  · rw [if_neg hv]
    have hlt := not_le.mp hv
    by_cases hst : storable msg = true
    · rw [if_pos hst]
      cases hts : msg.taskState with
      | none =>
        refine iff_of_true (strictClock_refl _) fun _ _ ts h => ?_
        rw [hts] at h
        cases h
      | some ts =>
        refine (strictClock_write_iff
          (get?_applyTaskState { s with syncLog := s.syncLog ++ [msg] } now ts)).trans ?_
        simp only [ticks_synced]
        refine ⟨?_, ?_⟩
        · intro h _ _ ts' hts' r hr
          rw [← Option.some.inj (hts.symm.trans hts')] at hr ⊢
          exact h r hr
        · intro h r hr
          exact h hlt hst ts hts r hr
    · rw [if_neg hst]
      exact iff_of_true (strictClock_refl _) fun _ h => absurd h hst

theorem strictClock_mutate (s : ClusterStore) (now : Time) (op : TaskMutator) :
    StrictClock s.tasks.get? (s.mutate now op).tasks.get? ↔ s.Clocked op := by
  cases op with
  | setTaskStatus t status reason =>
    refine (strictClock_update_iff fun k => get?_setTaskStatus s now t status reason k).trans ?_
    exact forall₂_congr fun r _ => ticks_withStatus
  | unassignTask t =>
    refine (strictClock_update_iff fun k => get?_unassignTask).trans ?_
    exact forall₂_congr fun r _ => ticks_unassigned
  | unblockTask t =>
    refine (strictClock_update_iff fun k => get?_unblockTask).trans ?_
    exact forall₂_congr fun r _ => ticks_unblocked
  | setDependencies t deps =>
    refine (strictClock_update_iff fun k => get?_setDependencies deps).trans ?_
    exact forall₂_congr fun r _ => ticks_withDependencies
  | triggerPendingTasks =>
    refine (strictClock_map_iff fun k => get?_triggerPendingTasks).trans ?_
    exact forall₃_congr fun k r _ => ticks_promoted
  | schedulePending => exact iff_of_true (strictClock_schedulePending s now) trivial
  | handleSyncMessage msg => exact strictClock_handleSyncMessage s now msg

end ClusterStore

/-- **Task versions.**  In both stores a call keeps the version of every task a strict clock
exactly when it is `Clocked`. -/
theorem strictClock_iff (now : Time) (op : TaskMutator) :
    (∀ s : ClusterState,
      StrictClock s.tasks.get? (s.mutate now op).tasks.get? ↔ s.Clocked op) ∧
    ∀ s : ClusterStore,
      StrictClock s.tasks.get? (s.mutate now op).tasks.get? ↔ s.Clocked op :=
  ⟨fun s => s.strictClock_mutate now op, fun s => s.strictClock_mutate now op⟩

/-- A task as `submit` creates it, and the trigger after it: ready, and still at version 1. -/
theorem promoted_at_same_version :
    ¬ StrictClock (ClusterState.createTask {} 0 "task_a" "build" [] 3).tasks.get?
      ((ClusterState.createTask {} 0 "task_a" "build" [] 3).mutate 0
        .triggerPendingTasks).tasks.get? := by
  intro h
  have hone := h "task_a" (ClusterState.newTask 0 "task_a" "build" [] 3)
    { ClusterState.newTask 0 "task_a" "build" [] 3 with status := .ready } (by decide) (by decide)
  rw [ticks_task_iff] at hone
  exact absurd (hone.2 rfl).1 (by decide)

end HermesCluster
