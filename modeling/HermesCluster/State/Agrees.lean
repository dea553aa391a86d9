import HermesCluster.Lease.LeaseSpec
import HermesCluster.Lib.Run
import HermesCluster.State.StoreSpec
import HermesCluster.State.TaskSpec

/-!
# Stores that agree

`Agrees m store state`: the task tables hold the same tasks in the same order, a row for
each task (`rowOf`), over the same nodes, lease ids and sync version.  The version of task
`k` can be counted up `m k` more times before it leaves the 64 bits of SQLite, so that the
store can read all its rows.

Each method of the two stores keeps the relation; a method that counts the version of a
task takes one off its `m`.  What a method leaves alone is its `frame`.
-/

namespace HermesCluster

open ClusterStore (fits64 bumped)

/-- The row of a task. -/
def rowOf (t : Task) : TaskRow :=
  { id := t.id, title := t.title, requires := t.requires, dependsOn := t.dependsOn,
    priority := t.priority, status := t.status.value, assignedTo := t.assignedTo,
    createdAt := t.createdAt, updatedAt := t.updatedAt, version := t.version,
    failReason := t.failReason }

theorem readRow_rowOf (t : Task) : ClusterStore.readRow (rowOf t) = t :=
  ClusterStore.readRow_of_status rfl

theorem status_rowOf {t : Task} {status : TaskStatus} :
    (rowOf t).status = status.value ↔ t.status = status :=
  TaskStatus.value_inj

/-- The version of the task can be counted up `n` times. -/
def Room (n : Nat) (t : Task) : Prop :=
  -9223372036854775808 ≤ t.version ∧ t.version + n ≤ 9223372036854775807

theorem Room.mono {m n : Nat} {t : Task} (h : Room n t) (hm : m ≤ n) : Room m t :=
  ⟨h.1, by have := h.2; omega⟩

theorem Room.decodes {n : Nat} {t : Task} (h : Room n t) :
    ClusterStore.decodes (rowOf t) = true := by
  refine ClusterStore.decodes_iff.mpr ⟨t.status, rfl, ClusterStore.fits64_iff.mpr ⟨h.1, ?_⟩⟩
  show t.version ≤ _
  have := h.2
  omega

theorem Room.bumped {n : Nat} {t : Task} (h : Room n t) : bumped t.version = t.version + 1 :=
  ClusterStore.bumped_of_lt (by have := h.2; omega)

/-- Counting the version takes one off the room. -/
theorem Room.counted {n : Nat} {t x : Task} (h : Room (n + 1) t) (hx : x.version = t.version + 1) :
    Room n x := by
  have hlo := h.1
  have hhi := h.2
  refine ⟨?_, ?_⟩
  · omega
  · omega

/-! ### Frames -/

/-- What the task methods of a store leave alone. -/
def ClusterStore.frame (s : ClusterStore) :
    Table Node × Table Lease × List SyncMessage × List TaskId :=
  (s.nodes, s.leases, s.syncLog, s.tasks.keys)

/-- What the task methods of a store leave alone. -/
def ClusterState.frame (s : ClusterState) : Table Node × Table Lease × Int × List TaskId :=
  (s.nodes, s.leases, s.syncVersion, s.tasks.keys)

namespace ClusterStore

variable {s : ClusterStore} {now : Time}

theorem frame_modify (s : ClusterStore) (t : TaskId) (f : TaskRow → TaskRow)
    (hf : ∀ r, Keyed.key (f r) = Keyed.key r) :
    frame { s with tasks := s.tasks.modify t f hf } = s.frame := by
  simp only [frame, Table.keys_modify]

theorem frame_triggerPendingTasks (s : ClusterStore) (now : Time) :
    (s.triggerPendingTasks now).2.frame = s.frame := by
  refine Run.exec_keeps (fun acc : Nat × ClusterStore => acc.2.frame) (fun acc r => ?_) _ (0, s)
  rw [triggerOne_eq]
  split
  · exact frame_modify acc.2 r.id (madeReady now) (key_madeReady now)
  · rfl

theorem frame_foldl_scheduleOne (online : List Node) (l : List Task) (acc : Nat × ClusterStore) :
    (l.foldl (scheduleOne online now) acc).2.frame = acc.2.frame := by
  refine Run.exec_keeps (fun acc : Nat × ClusterStore => acc.2.frame) (fun acc x => ?_) l acc
  rw [scheduleOne]
  split
  next node _ => exact frame_modify acc.2 x.id (assignedOn now node.id) fun _ => rfl
  · rfl

theorem frame_createTask_new {s' : ClusterStore} {t : TaskId} {title : String}
    {requires : List Capability} {priority : Int}
    (hok : s.createTask now t title requires priority = .ok s')
    (hnew : s.tasks.get? t = none) :
    s'.frame = (s.nodes, s.leases, s.syncLog, s.tasks.keys ++ [t]) := by
  rw [createTask] at hok
  split at hok
  · rw [← Except.ok.inj hok, frame, Table.keys_modify, Table.keys_insertIgnore_new hnew]
    rfl
  · cases hok

end ClusterStore

namespace ClusterState

variable {s : ClusterState} {now : Time}

theorem frame_modify (s : ClusterState) (t : TaskId) (f : Task → Task)
    (hf : ∀ r, Keyed.key (f r) = Keyed.key r) :
    frame { s with tasks := s.tasks.modify t f hf } = s.frame := by
  simp only [frame, Table.keys_modify]

theorem frame_unblockTask (s : ClusterState) (now : Time) (t : TaskId) :
    (s.unblockTask now t).2.frame = s.frame := by
  rw [unblockTask]
  split
  · rfl
  · split
    · exact frame_modify s t (unblocked now) fun _ => rfl
    · rfl

theorem frame_triggerPendingTasks (s : ClusterState) (now : Time) :
    (s.triggerPendingTasks now).2.frame = s.frame := by
  refine Run.exec_keeps (fun acc : Nat × ClusterState => acc.2.frame) (fun acc x => ?_) _ (0, s)
  rw [triggerOne_eq]
  split
  · exact frame_modify acc.2 x.id (madeReady now) fun _ => rfl
  · rfl

theorem frame_schedulePending (s : ClusterState) (now : Time) :
    (s.schedulePending now).2.frame = s.frame := by
  rw [schedulePending]
  split
  · rfl
  · refine Run.exec_keeps (fun acc : Nat × ClusterState => acc.2.frame) (fun acc x => ?_) _ (0, s)
    rw [scheduleOne]
    split
    next node _ => exact frame_modify acc.2 x.id (assignedOn now node.id) fun _ => rfl
    · rfl

end ClusterState

/-! ### The relation -/

structure Agrees (m : TaskId → Nat) (store : ClusterStore) (state : ClusterState) : Prop where
  nodes : store.nodes = state.nodes
  order : store.tasks.keys = state.tasks.keys
  tasks : ∀ k, store.tasks.get? k = (state.tasks.get? k).map rowOf
  leaseIds : ∀ k, (store.leases.get? k).isSome = (state.leases.get? k).isSome
  syncVersion : store.syncVersion = state.syncVersion
  room : ∀ k x, state.tasks.get? k = some x → Room (m k) x

namespace Agrees

variable {m m' : TaskId → Nat} {store store' : ClusterStore} {state state' : ClusterState}
  {now : Time} {t : TaskId}

theorem mono (h : Agrees m store state) (hm : ∀ k, m' k ≤ m k) : Agrees m' store state :=
  { h with room := fun k x hx => (h.room k x hx).mono (hm k) }

/-- A step of both stores that keeps their frames. -/
theorem of_frame (h : Agrees m store state) (hs : store'.frame = store.frame)
    (ht : state'.frame = state.frame)
    (htasks : ∀ k, store'.tasks.get? k = (state'.tasks.get? k).map rowOf)
    (hroom : ∀ k x, state'.tasks.get? k = some x → Room (m' k) x) : Agrees m' store' state' := by
  simp only [ClusterStore.frame, Prod.mk.injEq] at hs
  simp only [ClusterState.frame, Prod.mk.injEq] at ht
  refine ⟨?_, ?_, htasks, fun k => ?_, ?_, hroom⟩
  · rw [hs.1, ht.1, h.nodes]
  · rw [hs.2.2.2, ht.2.2.2, h.order]
  · rw [hs.2.1, ht.2.1, h.leaseIds]
  · rw [ClusterStore.syncVersion, hs.2.2.1, ht.2.2.1, ← h.syncVersion, ClusterStore.syncVersion]

/-- An update of every task. -/
theorem map (h : Agrees m store state) (hs : store'.frame = store.frame)
    (ht : state'.frame = state.frame) {f' : TaskRow → TaskRow} {f : Task → Task}
    (hget' : ∀ k, store'.tasks.get? k = (store.tasks.get? k).map f')
    (hget : ∀ k, state'.tasks.get? k = (state.tasks.get? k).map f)
    (hf : ∀ k x, state.tasks.get? k = some x →
      f' (rowOf x) = rowOf (f x) ∧ Room (m' k) (f x)) : Agrees m' store' state' := by
  refine h.of_frame hs ht (fun k => ?_) (fun k y hy => ?_)
  · rw [hget', hget, h.tasks]
    cases hx : state.tasks.get? k with
    | none => rfl
    | some x => exact congrArg some (hf k x hx).1
  · rw [hget] at hy
    obtain ⟨x, hx, rfl⟩ := Option.map_eq_some_iff.mp hy
    exact (hf k x hx).2

/-- An update of one task. -/
theorem update (h : Agrees m store state) (hs : store'.frame = store.frame)
    (ht : state'.frame = state.frame) {f' : TaskRow → TaskRow} {f : Task → Task}
    (hget' : ∀ k, store'.tasks.get? k =
      if k = t then (store.tasks.get? k).map f' else store.tasks.get? k)
    (hget : ∀ k, state'.tasks.get? k =
      if k = t then (state.tasks.get? k).map f else state.tasks.get? k)
    (hf : ∀ x, state.tasks.get? t = some x → f' (rowOf x) = rowOf (f x) ∧ Room (m' t) (f x))
    (hm : ∀ k, k ≠ t → m' k ≤ m k) : Agrees m' store' state' := by
  refine h.of_frame hs ht (fun k => ?_) (fun k y hy => ?_)
  · rw [hget', hget, h.tasks]
    by_cases hk : k = t
    · rw [if_pos hk, if_pos hk, hk]
      cases hx : state.tasks.get? t with
      | none => rfl
      | some x => exact congrArg some (hf x hx).1
    · rw [if_neg hk, if_neg hk]
  · rw [hget] at hy
    by_cases hk : k = t
    · rw [if_pos hk, hk] at hy
      obtain ⟨x, hx, rfl⟩ := Option.map_eq_some_iff.mp hy
      rw [hk]
      exact (hf x hx).2
    · rw [if_neg hk] at hy
      exact (h.room k y hy).mono (hm k hk)

/-! ### Reading -/

theorem getTask (h : Agrees m store state) (k : TaskId) :
    store.getTask k = .ok (state.getTask k) := by
  rw [ClusterState.getTask]
  cases hx : state.tasks.get? k with
  | none => exact ClusterStore.getTask_of_none (by rw [h.tasks, hx]; rfl)
  | some x =>
    have hr : store.tasks.get? k = some (rowOf x) := by rw [h.tasks, hx]; rfl
    rw [ClusterStore.getTask_of_some hr (h.room k x hx).decodes, readRow_rowOf]

theorem rows (h : Agrees m store state) : store.tasks.rows = state.tasks.rows.map rowOf := by
  have hlen : store.tasks.rows.length = state.tasks.rows.length := by
    have hl := congrArg List.length h.order
    rwa [Table.keys, Table.keys, List.length_map, List.length_map] at hl
  refine List.ext_getElem (by rw [List.length_map, hlen]) fun i hi hi' => ?_
  rw [List.getElem_map]
  have hi₂ : i < state.tasks.rows.length := hlen ▸ hi
  have hmem := List.getElem_mem hi₂
  -- both lists have the key of the task at this place
  have hkey : store.tasks.rows[i].id = state.tasks.rows[i].id := by
    have hk : store.tasks.keys[i]? = state.tasks.keys[i]? := by rw [h.order]
    rw [Table.keys, Table.keys, List.getElem?_map, List.getElem?_map,
      List.getElem?_eq_getElem hi, List.getElem?_eq_getElem hi₂] at hk
    exact Option.some.inj hk
  have hget := Table.get?_of_mem (List.getElem_mem hi)
  rw [key_taskRow, hkey, h.tasks, ← key_task, Table.get?_of_mem hmem] at hget
  exact (Option.some.inj hget).symm

theorem getAllTasks (h : Agrees m store state) : store.getAllTasks = .ok state.tasks.rows := by
  rw [ClusterStore.getAllTasks, h.rows, ClusterStore.mapM_rowToTask_ok, List.map_map]
  · have hid : ClusterStore.readRow ∘ rowOf = id := funext readRow_rowOf
    rw [hid, List.map_id]
  · intro r hr
    obtain ⟨x, hx, rfl⟩ := List.mem_map.mp hr
    exact (h.room x.id x (Table.get?_of_mem hx)).decodes

theorem getDependents (h : Agrees m store state) (t : TaskId) :
    store.getDependents t = state.getDependents t := by
  rw [ClusterStore.getDependents, ClusterState.getDependents, h.rows, List.filter_map,
    List.map_map]
  rfl

theorem completed_iff (h : Agrees m store state) (d : TaskId) :
    store.Completed d ↔ state.Completed d := by
  rw [ClusterStore.Completed, ClusterState.Completed, h.tasks]
  cases state.tasks.get? d with
  | none => simp
  | some x =>
    simp only [Option.map_some, Option.some.injEq, exists_eq_left']
    exact status_rowOf

theorem allDone (h : Agrees m store state) (deps : List TaskId) :
    store.allDone deps = state.allDone deps := by
  rw [Bool.eq_iff_iff, ClusterStore.allDone_iff, ClusterState.allDone_iff]
  exact forall₂_congr fun d _ => h.completed_iff d

/-! ### Methods on one task -/

theorem setTaskStatus (h : Agrees m store state) (status : TaskStatus) (reason : String)
    (ht : m' t + 1 ≤ m t) (hm : ∀ k, k ≠ t → m' k ≤ m k) :
    Agrees m' (store.setTaskStatus now t status reason)
      (state.setTaskStatus now t status reason) := by
  refine h.update (ClusterStore.frame_modify _ _ _ _) (ClusterState.frame_modify _ _ _ _)
    (fun k => ClusterStore.get?_setTaskStatus store now t status reason k)
    (fun k => ClusterState.get?_setTaskStatus status reason) (fun x hx => ?_) hm
  have hroom := (h.room t x hx).mono ht
  refine ⟨?_, hroom.counted rfl⟩
  simp only [ClusterStore.withStatus, ClusterState.withStatus, rowOf, hroom.bumped]

theorem unblockTask_fst (h : Agrees m store state) (now : Time) (t : TaskId) :
    (store.unblockTask now t).1 = (state.unblockTask now t).1 := by
  rw [ClusterStore.unblockTask, h.tasks, ClusterState.unblockTask]
  cases hx : state.tasks.get? t with
  | none => rfl
  | some x =>
    show decide ((rowOf x).status = TaskStatus.blocked.value) = _
    by_cases hb : x.status = .blocked
    · simp only [decide_eq_true (status_rowOf.mpr hb), if_pos hb]
    · simp only [decide_eq_false fun he => hb (status_rowOf.mp he), if_neg hb]

theorem unblockTask (h : Agrees m store state) (ht : m' t + 1 ≤ m t)
    (hm : ∀ k, k ≠ t → m' k ≤ m k) :
    Agrees m' (store.unblockTask now t).2 (state.unblockTask now t).2 := by
  refine h.update (ClusterStore.frame_modify _ _ _ _) (ClusterState.frame_unblockTask _ _ _)
    (fun k => ClusterStore.get?_unblockTask) (fun k => ClusterState.get?_unblockTask)
    (fun x hx => ?_) hm
  have hroom := (h.room t x hx).mono ht
  rw [ClusterStore.unblocked]
  by_cases hb : x.status = .blocked
  · rw [if_pos hb, if_pos (status_rowOf.mpr hb)]
    refine ⟨?_, hroom.counted rfl⟩
    simp only [ClusterState.unblocked, rowOf, hroom.bumped]
  · rw [if_neg hb, if_neg fun he => hb (status_rowOf.mp he)]
    exact ⟨rfl, hroom.mono (by omega)⟩

/-- The store sends a ready task with new dependencies back to pending, the in-memory store
does not. -/
theorem setDependencies (h : Agrees m store state) {deps : List TaskId}
    (hdeps : ∀ x, state.tasks.get? t = some x → deps = [] ∨ x.status ≠ .ready)
    (ht : m' t + 1 ≤ m t) (hm : ∀ k, k ≠ t → m' k ≤ m k) :
    Agrees m' (store.setDependencies now t deps) (state.setDependencies now t deps) := by
  refine h.update (ClusterStore.frame_modify _ _ _ _) (ClusterState.frame_modify _ _ _ _)
    (fun k => ClusterStore.get?_setDependencies deps)
    (fun k => ClusterState.get?_setDependencies deps) (fun x hx => ?_) hm
  have hroom := (h.room t x hx).mono ht
  have hstay : ¬ (deps ≠ [] ∧ (rowOf x).status = TaskStatus.ready.value) := by
    intro hready
    rcases hdeps x hx with hnil | hne
    · exact hready.1 hnil
    · exact hne (status_rowOf.mp hready.2)
  refine ⟨?_, hroom.counted rfl⟩
  rw [ClusterStore.withDependencies, if_neg hstay]
  simp only [ClusterState.withDependencies, rowOf, hroom.bumped]

/-! ### The loops over all tasks -/

theorem triggerPendingTasks (now : Time) (h : Agrees m store state) :
    Agrees m (store.triggerPendingTasks now).2 (state.triggerPendingTasks now).2 := by
  refine h.map (ClusterStore.frame_triggerPendingTasks _ _)
    (ClusterState.frame_triggerPendingTasks _ _)
    (fun k => ClusterStore.get?_triggerPendingTasks)
    (fun k => ClusterState.get?_triggerPendingTasks) (fun k x hx => ?_)
  have hroom := h.room k x hx
  rw [ClusterStore.promoted, ClusterStore.madeReady, ClusterState.promoted]
  show (if store.allDone x.dependsOn = true then _ else _) = _ ∧ _
  rw [h.allDone]
  by_cases hp : x.status = .pending
  · have hv := status_rowOf.mpr hp
    by_cases hd : state.allDone x.dependsOn = true
    · rw [if_pos hd, if_pos hv, if_pos ⟨hp, hd⟩]
      exact ⟨rfl, hroom⟩
    · rw [if_neg hd, if_neg fun hboth => hd hboth.2]
      exact ⟨rfl, hroom⟩
  · have hv : ¬ (rowOf x).status = TaskStatus.pending.value := fun he => hp (status_rowOf.mp he)
    rw [if_neg hv, ite_self, if_neg fun hboth => hp hboth.1]
    exact ⟨rfl, hroom⟩

/-- The nodes `schedule_pending` reads decode. -/
def NodesRead (state : ClusterState) : Prop := ∀ n ∈ state.onlineNodes, n.load ≠ .nan

theorem schedulable (h : Agrees m store state) (hn : NodesRead state) :
    ClusterStore.Schedulable store := by
  refine ⟨?_, fun _ r hr => ?_⟩
  · rw [ClusterStore.onlineRows, h.nodes]
    exact hn
  · obtain ⟨hget, -⟩ := ClusterStore.mem_readyRows.mp hr
    rw [h.tasks] at hget
    obtain ⟨x, hx, hrow⟩ := Option.map_eq_some_iff.mp hget
    rw [← hrow]
    exact (h.room _ x hx).decodes

/-- `schedule_pending` counts the version of the ready tasks only. -/
theorem schedulePending (now : Time) (h : Agrees m store state) (hn : NodesRead state)
    (hm : ∀ k, m' k ≤ m k)
    (hready : ∀ k x, state.tasks.get? k = some x → x.status = .ready → m' k + 1 ≤ m k) :
    ∃ n store', store.schedulePending now = .ok (n, store') ∧
      Agrees m' store' (state.schedulePending now).2 := by
  have hframe : ∀ n store', store.schedulePending now = .ok (n, store') →
      store'.frame = store.frame := by
    intro n store' hok
    rw [ClusterStore.schedulePending_eq (h.schedulable hn)] at hok
    split at hok
    · rw [← (Prod.mk.inj (Except.ok.inj hok)).2]
    · rw [← (Prod.mk.inj (Except.ok.inj hok)).2]
      exact ClusterStore.frame_foldl_scheduleOne _ _ (0, store)
  obtain ⟨n, store', hok, -, hget⟩ := ClusterStore.schedulePending_ok now (h.schedulable hn)
  refine ⟨n, store', hok, h.map (hframe n store' hok) (ClusterState.frame_schedulePending _ _)
    hget (fun k => ClusterState.get?_schedulePending) (fun k x hx => ?_)⟩
  have hfit : store.firstFit (rowOf x).requires = state.firstFit x.requires := by
    rw [ClusterStore.firstFit, ClusterStore.onlineRows, h.nodes]
    rfl
  rw [ClusterStore.scheduled, ClusterState.scheduled]
  by_cases hr : x.status = .ready
  · rw [if_pos hr, if_pos (status_rowOf.mpr hr), hfit]
    have hroom := (h.room k x hx).mono (hready k x hx hr)
    cases state.firstFit x.requires with
    | none => exact ⟨rfl, hroom.mono (by omega)⟩
    | some node =>
      refine ⟨?_, hroom.counted rfl⟩
      simp only [ClusterStore.assignedOn, ClusterState.assignedOn, rowOf, hroom.bumped]
  · rw [if_neg hr, if_neg fun he => hr (status_rowOf.mp he)]
    exact ⟨rfl, (h.room k x hx).mono (hm k)⟩

/-! ### New tasks -/

theorem get?_eq_none (h : Agrees m store state) (ht : state.tasks.get? t = none) :
    store.tasks.get? t = none := by
  rw [h.tasks, ht]
  rfl

/-- The store has promoted the new task when `create_task` returns. -/
theorem createTask (now : Time) (h : Agrees m store state) (hnew : state.tasks.get? t = none)
    {priority : Int} (hp : fits64 priority = true) (hm : m t ≤ 9223372036854775806)
    (title : String) (requires : List Capability) :
    ∃ store', store.createTask now t title requires priority = .ok store' ∧
      Agrees m store' ((state.createTask now t title requires priority).promote now t) := by
  obtain ⟨store', hok, -, hget⟩ := ClusterStore.createTask_ok store now t title requires hp
  have hnone := h.get?_eq_none hnew
  have hs := ClusterStore.frame_createTask_new hok hnone
  simp only [ClusterStore.frame, Prod.mk.injEq] at hs
  have horder : ((state.createTask now t title requires priority).promote now t).tasks.keys =
      state.tasks.keys ++ [t] := by
    refine (Table.keys_modify _ t (ClusterState.madeReady now) fun _ => rfl).trans ?_
    exact Table.keys_put_new hnew
  have hstate : ∀ k, ((state.createTask now t title requires priority).promote now t).tasks.get? k
      = if k = t then
          some (ClusterState.madeReady now (ClusterState.newTask now t title requires priority))
        else state.tasks.get? k := by
    intro k
    rw [ClusterState.get?_promote, ClusterState.get?_createTask]
    by_cases hk : k = t
    · rw [if_pos hk, if_pos hk, if_pos hk]
      rfl
    · rw [if_neg hk, if_neg hk, if_neg hk]
  refine ⟨store', hok, ?_, ?_, fun k => ?_, fun k => ?_, ?_, fun k x hx => ?_⟩
  · rw [hs.1, h.nodes]
    rfl
  · rw [hs.2.2.2, horder, h.order]
  · rw [hget, hstate, h.tasks]
    by_cases hk : k = t
    · rw [if_pos hk, if_pos hk, hk, hnew]
      rfl
    · rw [if_neg hk, if_neg hk]
  · rw [hs.2.1, h.leaseIds]
    rfl
  · rw [ClusterStore.syncVersion, hs.2.2.1]
    exact h.syncVersion
  · rw [hstate] at hx
    by_cases hk : k = t
    · rw [if_pos hk] at hx
      rw [← Option.some.inj hx, hk]
      exact ⟨show (-9223372036854775808 : Int) ≤ 1 by decide, show (1 : Int) + _ ≤ _ by omega⟩
    · rw [if_neg hk] at hx
      exact h.room k x hx

/-- Promoting a task first that `trigger_pending_tasks` promotes makes no difference. -/
theorem triggerPendingTasks_promoted (h : Agrees m store (state.promote now t)) {x : Task}
    (hx : state.tasks.get? t = some x) (hp : x.status = .pending)
    (hd : state.allDone x.dependsOn = true) :
    Agrees m (store.triggerPendingTasks now).2 (state.triggerPendingTasks now).2 := by
  have hsame : ∀ k, ((state.promote now t).triggerPendingTasks now).2.tasks.get? k =
      (state.triggerPendingTasks now).2.tasks.get? k := by
    intro k
    have hdone : ∀ deps, (state.promote now t).allDone deps = state.allDone deps :=
      ClusterState.allDone_congr (ClusterState.completed_promote fun y hy => by
        rw [hx] at hy
        rw [← Option.some.inj hy, hp]
        decide)
    rw [ClusterState.get?_triggerPendingTasks, ClusterState.get?_triggerPendingTasks,
      ClusterState.get?_promote]
    by_cases hk : k = t
    · rw [if_pos hk, hk, hx]
      have hready : (state.promote now t).promoted now (ClusterState.madeReady now x) =
          ClusterState.madeReady now x := if_neg fun hboth => by cases hboth.1
      have honce : state.promoted now x = ClusterState.madeReady now x := if_pos ⟨hp, hd⟩
      rw [Option.map_some, Option.map_some, Option.map_some, hready, honce]
    · rw [if_neg hk]
      cases state.tasks.get? k with
      | none => rfl
      | some y =>
        rw [Option.map_some, Option.map_some, ClusterState.promoted, ClusterState.promoted, hdone]
  have hframe : (state.triggerPendingTasks now).2.frame =
      ((state.promote now t).triggerPendingTasks now).2.frame := by
    rw [ClusterState.frame_triggerPendingTasks, ClusterState.frame_triggerPendingTasks]
    exact (ClusterState.frame_modify state t (ClusterState.madeReady now) fun _ => rfl).symm
  have ht := h.triggerPendingTasks now
  exact ht.of_frame rfl hframe (fun k => by rw [ht.tasks, hsame])
    (fun k y hy => ht.room k y (by rw [hsame]; exact hy))

/-! ### Messages and leases -/

/-- A message both stores read alike: SQLite can store it, its status is a `TaskStatus`, and
for a task that is there it names an assignee or leaves the assignee as it is. -/
def Portable (state : ClusterState) (msg : SyncMessage) : Prop :=
  ClusterStore.storable msg = true ∧ ∀ ts, msg.taskState = some ts →
    (∃ status : TaskStatus, ts.status = status.value) ∧
      ∀ x, state.tasks.get? ts.taskId = some x →
        ts.assignedTo.getD "" ≠ "" ∨ ts.assignedTo = x.assignedTo

theorem portable_synced {ts : TaskSync} {x : Task}
    (hs : ∃ status : TaskStatus, ts.status = status.value)
    (ha : ts.assignedTo.getD "" ≠ "" ∨ ts.assignedTo = x.assignedTo) :
    ClusterStore.synced now ts (rowOf x) = rowOf (ClusterState.synced now ts x) := by
  obtain ⟨status, hst⟩ := hs
  have hassignee : (if ts.assignedTo.getD "" ≠ "" then ts.assignedTo else x.assignedTo) =
      ts.assignedTo := by
    split
    · rfl
    next hempty => exact (ha.resolve_left hempty).symm
  simp only [ClusterStore.synced, ClusterState.synced, rowOf, hassignee, hst,
    TaskStatus.ofValue_value]

theorem portable_syncedNew {ts : TaskSync}
    (hs : ∃ status : TaskStatus, ts.status = status.value) :
    ClusterStore.syncedNew now ts = rowOf (ClusterState.syncedNew now ts) := by
  obtain ⟨status, hst⟩ := hs
  simp only [ClusterStore.syncedNew, ClusterState.syncedNew, rowOf, hst, TaskStatus.ofValue_value]

theorem keys_applyTaskState (h : Agrees m store state) (ts : TaskSync) :
    (store.applyTaskState now ts).tasks.keys = (state.applyTaskState now ts).tasks.keys := by
  rw [ClusterStore.applyTaskState, ClusterState.applyTaskState, h.tasks]
  cases hx : state.tasks.get? ts.taskId with
  | none =>
    have hput : (store.tasks.put (ClusterStore.syncedNew now ts)).keys =
        store.tasks.keys ++ [ts.taskId] := Table.keys_put_new (h.get?_eq_none hx)
    have hput' : (state.tasks.put (ClusterState.syncedNew now ts)).keys =
        state.tasks.keys ++ [ts.taskId] := Table.keys_put_new hx
    exact hput.trans (by rw [hput', h.order])
  | some x =>
    have hmod := Table.keys_modify store.tasks ts.taskId (ClusterStore.synced now ts) fun _ => rfl
    have hmod' := Table.keys_modify state.tasks ts.taskId (ClusterState.synced now ts) fun _ => rfl
    exact hmod.trans (h.order.trans hmod'.symm)

theorem applyTaskState (h : Agrees m store state) {ts : TaskSync}
    (hv : fits64 ts.version = true) (hs : ∃ status : TaskStatus, ts.status = status.value)
    (ha : ∀ x, state.tasks.get? ts.taskId = some x →
      ts.assignedTo.getD "" ≠ "" ∨ ts.assignedTo = x.assignedTo) :
    Agrees (fun _ => 0) (store.applyTaskState now ts) (state.applyTaskState now ts) := by
  have hstore : (store.applyTaskState now ts).nodes = store.nodes ∧
      (store.applyTaskState now ts).leases = store.leases := by
    rw [ClusterStore.applyTaskState]
    split <;> exact ⟨rfl, rfl⟩
  have hstate : (state.applyTaskState now ts).nodes = state.nodes ∧
      (state.applyTaskState now ts).leases = state.leases ∧
      (state.applyTaskState now ts).syncVersion = state.syncVersion := by
    rw [ClusterState.applyTaskState]
    split <;> exact ⟨rfl, rfl, rfl⟩
  have hroom : ∀ x : Task, x.version = ts.version → Room 0 x := by
    intro x hx
    rw [ClusterStore.fits64_iff] at hv
    rw [Room, hx]
    exact ⟨hv.1, by omega⟩
  refine ⟨?_, h.keys_applyTaskState ts, fun k => ?_, fun k => ?_, ?_, fun k y hy => ?_⟩
  · rw [hstore.1, hstate.1, h.nodes]
  · rw [ClusterStore.get?_applyTaskState, ClusterState.get?_applyTaskState, h.tasks]
    by_cases hk : k = ts.taskId
    · rw [if_pos hk, if_pos hk, hk]
      cases hx : state.tasks.get? ts.taskId with
      | none => exact congrArg some (portable_syncedNew hs)
      | some x => exact congrArg some (portable_synced hs (ha x hx))
    · rw [if_neg hk, if_neg hk]
  · rw [hstore.2, hstate.2.1, h.leaseIds]
  · rw [ClusterStore.syncVersion, ClusterStore.syncLog_applyTaskState, hstate.2.2]
    exact h.syncVersion
  · rw [ClusterState.get?_applyTaskState] at hy
    by_cases hk : k = ts.taskId
    · rw [if_pos hk] at hy
      rw [← Option.some.inj hy]
      cases state.tasks.get? k with
      | none => exact hroom _ rfl
      | some x => exact hroom _ rfl
    · rw [if_neg hk] at hy
      exact (h.room k y hy).mono (Nat.zero_le _)

theorem handleSyncMessage (h : Agrees m store state) (now : Time) {msg : SyncMessage}
    (hp : state.syncVersion < msg.version → Portable state msg) :
    ∃ store', store.handleSyncMessage now msg =
        .ok ((state.handleSyncMessage now msg).1, store') ∧
      Agrees (fun _ => 0) store' (state.handleSyncMessage now msg).2 := by
  rw [ClusterState.handleSyncMessage]
  by_cases hv : msg.version ≤ state.syncVersion
  · rw [if_pos hv, ClusterStore.handleSyncMessage, h.syncVersion, if_pos hv]
    exact ⟨store, rfl, h.mono fun _ => Nat.zero_le _⟩
  · rw [if_neg hv]
    have hlt := not_le.mp hv
    obtain ⟨hst, hts⟩ := hp hlt
    have hlt' : store.syncVersion < msg.version := h.syncVersion ▸ hlt
    refine ⟨_, ClusterStore.handleSyncMessage_applied now hlt' hst, ?_⟩
    -- the sync version moves first
    have hmoved : Agrees m { store with syncLog := store.syncLog ++ [msg] }
        { state with syncVersion := msg.version } := by
      refine ⟨h.nodes, h.order, h.tasks, h.leaseIds, ?_, h.room⟩
      have hver := ClusterStore.syncVersion_logged now hlt'
      rw [ClusterStore.syncVersion, ClusterStore.syncLog_logged] at hver
      exact hver
    rw [ClusterStore.logged]
    cases hm : msg.taskState with
    | none => exact hmoved.mono fun _ => Nat.zero_le _
    | some ts =>
      have hfits : fits64 ts.version = true := by
        rw [ClusterStore.storable, hm, Bool.and_eq_true] at hst
        exact hst.2
      exact hmoved.applyTaskState hfits (hts ts hm).1 (hts ts hm).2

theorem revokeLease_store (h : Agrees m store state) (leaseId : LeaseId) :
    Agrees m (store.revokeLease leaseId).2 state := by
  refine { h with leaseIds := fun k => ?_ }
  rw [← h.leaseIds]
  refine (congrArg Option.isSome
    (Table.get?_modify store.leases leaseId Lease.revoked Lease.key_revoked k)).trans ?_
  split
  · exact Option.isSome_map
  · rfl

theorem revokeLease_state (h : Agrees m store state) (leaseId : LeaseId) :
    Agrees m store (state.revokeLease leaseId).2 := by
  have hrest : (state.revokeLease leaseId).2.nodes = state.nodes ∧
      (state.revokeLease leaseId).2.tasks = state.tasks ∧
      (state.revokeLease leaseId).2.syncVersion = state.syncVersion := by
    rw [ClusterState.revokeLease]
    split <;> exact ⟨rfl, rfl, rfl⟩
  refine ⟨?_, ?_, fun k => ?_, fun k => ?_, ?_, fun k x hx => ?_⟩
  · rw [hrest.1, h.nodes]
  · rw [hrest.2.1, h.order]
  · rw [hrest.2.1, h.tasks]
  · rw [ClusterState.get?_revokeLease, h.leaseIds]
    split
    · exact Option.isSome_map.symm
    · rfl
  · rw [hrest.2.2, h.syncVersion]
  · rw [hrest.2.1] at hx
    exact h.room k x hx

theorem revokeLease_fst (h : Agrees m store state) (leaseId : LeaseId) :
    (store.revokeLease leaseId).1 = (state.revokeLease leaseId).1 := by
  rw [ClusterStore.revokeLease, h.leaseIds, ClusterState.revokeLease]
  cases state.leases.get? leaseId <;> rfl

theorem createLease (h : Agrees m store state) (now : Time) {token : String}
    (hnew : state.leases.get? (generateId "lease" token) = none) (taskId : TaskId)
    (nodeId : NodeId) (ttl : Duration) :
    (∃ e, store.createLease now token taskId nodeId ttl = .error e ∧
      state.createLease now token taskId nodeId ttl = .error e) ∨
    ∃ lease store' state', store.createLease now token taskId nodeId ttl = .ok (lease, store') ∧
      state.createLease now token taskId nodeId ttl = .ok (lease, state') ∧
      Agrees m store' state' := by
  cases ha : addTtl now ttl with
  | error e => exact Or.inl ⟨e, ClusterStore.createLease_of_overflow ha,
      ClusterState.createLease_of_overflow ha⟩
  | ok expiresAt =>
    have hfree : store.leases.get? (generateId "lease" token) = none := by
      rw [← Option.not_isSome_iff_eq_none, h.leaseIds, hnew]
      decide
    refine Or.inr ⟨_, _, _, (ClusterStore.createLease_of_ttl ha).trans (if_pos hfree),
      ClusterState.createLease_of_ttl ha, h.nodes, h.order, h.tasks, fun k => ?_, h.syncVersion,
      h.room⟩
    simp only [Table.get?_put]
    split
    · rfl
    · exact h.leaseIds k

end Agrees

end HermesCluster
