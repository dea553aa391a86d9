import HermesCluster.Sync.FullState

/-!
# A snapshot applied twice

`receive_full_state` compares the version of a dictionary with that of the local row, and
then writes through `create_task` and `set_task_status`, which give the row a version of
their own: 1 or 2 for a new row, one more than before for an old one.

* `mergeTask_fst`: whether the merge of a dictionary is applied depends on its row only.
* `mergeAll_none_applied`: a loop that applies nothing leaves the store alone.
* `reapplied_harmless_iff`: the second application of a snapshot rejects all its tasks
  exactly when the version each row has after the first is not behind the dictionary's.
-/

namespace HermesCluster

open ClusterStore

namespace SyncReceiver

/-! ### One merge -/

/-- Whether the merge of the dictionary is applied where the row of its task is `old`. -/
def mergeApplies (d : TaskData) (old : Option TaskRow) : Bool :=
  (TaskStatus.ofValue d.status).isOk &&
    old.elim (fits64 d.priority) (fun r => decodes r && decide (r.version < d.version))

theorem mergeTask_fst (s : ClusterStore) (now : Time) (d : TaskData) :
    (mergeTask s now d).1 = mergeApplies d (s.tasks.get? d.id) := by
  cases hst : TaskStatus.ofValue d.status with
  | error e =>
    have htask : d.task = .error e := by rw [TaskData.task, hst]; rfl
    simp only [mergeTask, htask, mergeApplies, hst]
    rfl
  | ok status =>
    have happ : ∀ old, mergeApplies d old = old.elim (fits64 d.priority)
        (fun r => decodes r && decide (r.version < d.version)) := by
      intro old
      rw [mergeApplies, hst]
      exact Bool.true_and _
    rw [happ]
    cases hget : s.tasks.get? d.id with
    | none =>
      have hnone : s.getTask d.id = .ok none := by rw [getTask, hget]
      simp only [mergeTask, task_ok hst, hnone, createTask, Option.elim]
      by_cases hfits : fits64 d.priority = true
      · simp only [hfits, if_true]
      · rw [if_neg hfits]
        exact (Bool.eq_false_of_not_eq_true hfits).symm
    | some r =>
      cases hr : decodes r with
      | false =>
        obtain ⟨e, he⟩ := rowToTask_error hr
        have herr : s.getTask d.id = .error e := by simp only [getTask, hget, he]; rfl
        simp only [mergeTask, task_ok hst, herr, Option.elim, hr, Bool.false_and]
      | true =>
        obtain ⟨old, hold, hfits⟩ := decodes_iff.mp hr
        have hok : s.getTask d.id = .ok (some (taskOf r old)) := by
          simp only [getTask, hget, rowToTask_ok hold hfits]; rfl
        have hver : (taskOf r old).version = r.version := rfl
        simp only [mergeTask, task_ok hst, hok, hver, Option.elim, hr, Bool.true_and]
        by_cases hv : r.version < d.version
        · simp only [hv, if_true, decide_true]
        · simp only [hv, if_false, decide_false]

/-- A merge that is not applied writes nothing. -/
theorem mergeTask_rejected {s : ClusterStore} {now : Time} {d : TaskData}
    (h : (mergeTask s now d).1 = false) : (mergeTask s now d).2 = s := by
  cases ht : d.task with
  | error e => simp only [mergeTask, ht]
  | ok task =>
    cases hg : s.getTask task.id with
    | error e => simp only [mergeTask, ht, hg]
    | ok found =>
      cases found with
      | none =>
        cases hc : s.createTask now task.id task.title task.requires task.priority with
        | error e => simp only [mergeTask, ht, hg, hc]
        | ok s' =>
          simp only [mergeTask, ht, hg, hc] at h
          cases h
      | some existing =>
        by_cases hv : existing.version < task.version
        · simp only [mergeTask, ht, hg, hv, if_true] at h
          cases h
        · simp only [mergeTask, ht, hg, hv, if_false]

/-! ### The loop -/

section Loop

variable {δ : Type} {merge : ClusterStore → δ → Bool × ClusterStore}

theorem applied_mono (l : List δ) (acc : Nat × Nat × ClusterStore) :
    acc.1 ≤ (l.foldl (mergeOne merge) acc).1 := by
  induction l generalizing acc with
  | nil => exact Nat.le_refl _
  | cons d l ih =>
    refine Nat.le_trans ?_ (ih (mergeOne merge acc d))
    rw [mergeOne]
    split
    · exact Nat.le_succ _
    · exact Nat.le_refl _

/-- A loop whose merges are all rejected counts them and leaves the store alone. -/
theorem foldl_rejected (hkeep : ∀ s d, (merge s d).1 = false → (merge s d).2 = s)
    (l : List δ) (acc : Nat × Nat × ClusterStore)
    (h : ∀ d ∈ l, (merge acc.2.2 d).1 = false) :
    l.foldl (mergeOne merge) acc = (acc.1, acc.2.1 + l.length, acc.2.2) := by
  induction l generalizing acc with
  | nil => rfl
  | cons d l ih =>
    have hd := h d List.mem_cons_self
    have hone : mergeOne merge acc d = (acc.1, acc.2.1 + 1, acc.2.2) := by
      have hpair : merge acc.2.2 d = (false, acc.2.2) := Prod.ext hd (hkeep _ _ hd)
      rw [mergeOne, hpair]
    have hrest : ∀ x ∈ l, (merge acc.2.2 x).1 = false :=
      fun x hx => h x (List.mem_cons_of_mem d hx)
    rw [List.foldl_cons, hone, ih (acc.1, acc.2.1 + 1, acc.2.2) hrest, List.length_cons]
    simp only [Prod.mk.injEq, true_and, and_true]
    omega

theorem all_rejected (hkeep : ∀ s d, (merge s d).1 = false → (merge s d).2 = s)
    (l : List δ) (acc : Nat × Nat × ClusterStore)
    (h : (l.foldl (mergeOne merge) acc).1 = acc.1) :
    ∀ d ∈ l, (merge acc.2.2 d).1 = false := by
  induction l generalizing acc with
  | nil => intro d hd; exact absurd hd List.not_mem_nil
  | cons d l ih =>
    rw [List.foldl_cons] at h
    cases hd : (merge acc.2.2 d).1 with
    | true =>
      have hone : (mergeOne merge acc d).1 = acc.1 + 1 := by
        have hpair : merge acc.2.2 d = (true, (merge acc.2.2 d).2) := Prod.ext hd rfl
        rw [mergeOne, hpair]
      have hmono : (mergeOne merge acc d).1 ≤
          (l.foldl (mergeOne merge) (mergeOne merge acc d)).1 := applied_mono l _
      omega
    | false =>
      have hone : mergeOne merge acc d = (acc.1, acc.2.1 + 1, acc.2.2) := by
        have hpair : merge acc.2.2 d = (false, acc.2.2) := Prod.ext hd (hkeep _ _ hd)
        rw [mergeOne, hpair]
      rw [hone] at h
      intro x hx
      rcases List.mem_cons.mp hx with rfl | hx
      · exact hd
      · exact ih _ h x hx

/-- A loop applies nothing exactly when it rejects everything from where it starts. -/
theorem mergeAll_none_applied (hkeep : ∀ s d, (merge s d).1 = false → (merge s d).2 = s)
    (s : ClusterStore) (l : List δ) :
    (mergeAll merge s l).1 = 0 ↔ ∀ d ∈ l, (merge s d).1 = false := by
  refine ⟨?_, ?_⟩
  · exact all_rejected hkeep l (0, 0, s)
  · intro h
    rw [mergeAll, foldl_rejected hkeep l (0, 0, s) h]

end Loop

/-! ### Twice the same snapshot -/

/-- The version the first merge leaves is not behind the dictionary's, unless the
dictionary is never applied: a status or a row that does not decode, a priority SQLite
cannot bind, or a row whose version leaves SQLite's integers. -/
def Settles (d : TaskData) (old : Option TaskRow) : Prop :=
  (TaskStatus.ofValue d.status).isOk = true →
    old.elim
      (fits64 d.priority = true →
        d.version ≤ if d.status = TaskStatus.pending.value then 1 else 2)
      (fun r => decodes r = true → r.version < 9223372036854775807 →
        d.version ≤ r.version + 1)

theorem mergeApplies_some {d : TaskData} {r : TaskRow}
    (hst : (TaskStatus.ofValue d.status).isOk = true) (hr : decodes r = true) :
    mergeApplies d (some r) = false ↔ d.version ≤ r.version := by
  rw [mergeApplies, hst, Bool.true_and, Option.elim, hr, Bool.true_and, decide_eq_false_iff_not]
  omega

section Settles

variable {d : TaskData} {status : TaskStatus} {r : TaskRow}

theorem isOk_of_ok (hst : TaskStatus.ofValue d.status = .ok status) :
    (TaskStatus.ofValue d.status).isOk = true := by rw [hst]; rfl

theorem settles_new (now : Time) (hst : TaskStatus.ofValue d.status = .ok status) :
    mergeApplies d (mergedRow now d none) = false ↔
      (fits64 d.priority = true →
        d.version ≤ if d.status = TaskStatus.pending.value then 1 else 2) := by
  have hpending : d.status = TaskStatus.pending.value ↔ status = .pending := by
    rw [TaskStatus.eq_value_of_ofValue hst]
    exact TaskStatus.value_inj
  by_cases hfits : fits64 d.priority = true
  · rw [forall_prop_of_true hfits]
    by_cases hp : status = .pending
    · have hrow : mergedRow now d none = some (createdRow now d) := by
        simp only [mergedRow, hst, if_pos hfits, if_pos hp]
      have hdec : decodes (createdRow now d) = true := decodes_iff.mpr ⟨.ready, rfl, rfl⟩
      rw [hrow, mergeApplies_some (isOk_of_ok hst) hdec, if_pos (hpending.mpr hp)]
      rfl
    · have hrow : mergedRow now d none = some (withStatus now status "" (createdRow now d)) := by
        simp only [mergedRow, hst, if_pos hfits, if_neg hp]
      have hdec : decodes (withStatus now status "" (createdRow now d)) = true :=
        decodes_iff.mpr ⟨status, rfl, rfl⟩
      rw [hrow, mergeApplies_some (isOk_of_ok hst) hdec, if_neg fun e => hp (hpending.mp e)]
      rfl
  · have hrow : mergedRow now d none = none := by simp only [mergedRow, hst, if_neg hfits]
    have hfalse : mergeApplies d none = false := by
      rw [mergeApplies, isOk_of_ok hst, Bool.true_and]
      exact Bool.eq_false_of_not_eq_true hfits
    rw [hrow]
    exact iff_of_true hfalse fun h => absurd h hfits

/-- What a bump leaves decodes unless it leaves the integers of SQLite. -/
theorem decodes_withStatus (now : Time) (status : TaskStatus) (failReason : String)
    (hr : decodes r = true) :
    decodes (withStatus now status failReason r) = decide (r.version < 9223372036854775807) := by
  obtain ⟨-, -, hfits⟩ := decodes_iff.mp hr
  rw [fits64_iff] at hfits
  have hbump : bumped r.version = r.version + 1 := bumped_of_lt (by omega)
  rw [Bool.eq_iff_iff, decodes_iff, decide_eq_true_eq]
  show (∃ s : TaskStatus, status.value = s.value ∧ fits64 (bumped r.version) = true) ↔ _
  rw [hbump, fits64_iff]
  refine ⟨?_, ?_⟩
  · rintro ⟨-, -, hmax⟩
    omega
  · intro hmax
    exact ⟨status, rfl, by omega⟩

theorem settles_old (now : Time) (hst : TaskStatus.ofValue d.status = .ok status) :
    mergeApplies d (mergedRow now d (some r)) = false ↔
      (decodes r = true → r.version < 9223372036854775807 → d.version ≤ r.version + 1) := by
  by_cases hr : decodes r = true
  · rw [forall_prop_of_true hr]
    by_cases hv : r.version < d.version
    · have hrow : mergedRow now d (some r) =
          some (withStatus now status (d.failReason.getD "") r) := by
        simp only [mergedRow, hst]
        exact if_pos ⟨hr, hv⟩
      have hdec := decodes_withStatus now status (d.failReason.getD "") hr
      rw [hrow]
      by_cases hmax : r.version < 9223372036854775807
      · rw [decide_eq_true hmax] at hdec
        rw [forall_prop_of_true hmax, mergeApplies_some (isOk_of_ok hst) hdec]
        show d.version ≤ bumped r.version ↔ _
        rw [bumped_of_lt (by omega)]
      · -- the sum is a REAL, and the row does not decode any more
        rw [decide_eq_false hmax] at hdec
        have hfalse : mergeApplies d
            (some (withStatus now status (d.failReason.getD "") r)) = false := by
          rw [mergeApplies, Option.elim, hdec, Bool.false_and, Bool.and_false]
        exact iff_of_true hfalse fun h => absurd h hmax
    · have hrow : mergedRow now d (some r) = some r := by
        simp only [mergedRow, hst]
        exact if_neg fun h => hv h.2
      rw [hrow, mergeApplies_some (isOk_of_ok hst) hr]
      exact iff_of_true (by omega) fun _ => by omega
  · have hrow : mergedRow now d (some r) = some r := by
      simp only [mergedRow, hst]
      exact if_neg fun h => hr h.1
    have hfalse : mergeApplies d (some r) = false := by
      rw [mergeApplies, Option.elim, Bool.eq_false_of_not_eq_true hr, Bool.false_and,
        Bool.and_false]
    rw [hrow]
    exact iff_of_true hfalse fun h => absurd h hr

/-- A merge is not applied to what it left exactly when that is settled. -/
theorem settles_iff (now : Time) (d : TaskData) (old : Option TaskRow) :
    mergeApplies d (mergedRow now d old) = false ↔ Settles d old := by
  cases hst : TaskStatus.ofValue d.status with
  | error e =>
    have hbad : (TaskStatus.ofValue d.status).isOk = false := by rw [hst]; rfl
    have hfalse : mergeApplies d (mergedRow now d old) = false := by
      rw [mergeApplies, hbad, Bool.false_and]
    exact iff_of_true hfalse fun h => absurd (hbad.symm.trans h) Bool.false_ne_true
  | ok status =>
    rw [Settles, forall_prop_of_true (isOk_of_ok hst)]
    cases old with
    | none => exact settles_new now hst
    | some r => exact settles_old now hst

end Settles

/-! ### The whole snapshot -/

instance : Keyed TaskData TaskId := ⟨TaskData.id⟩

theorem tasks_mergeNode (s : ClusterStore) (d : NodeData) : (mergeNode s d).2.tasks = s.tasks := by
  rw [mergeNode]
  repeat' split
  all_goals rfl

theorem tasks_foldl_mergeNode (l : List NodeData) (s : ClusterStore) :
    (l.foldl (fun s d => (mergeNode s d).2) s).tasks = s.tasks :=
  Run.exec_keeps ClusterStore.tasks tasks_mergeNode l s

/-- The rows a snapshot with distinct ids leaves for its tasks. -/
theorem get?_receiveFullState {snap : FullState} (hids : (snap.tasks.map TaskData.id).Nodup)
    (r : SyncReceiver) (now : Time) {d : TaskData} (hd : d ∈ snap.tasks) :
    (r.receiveFullState now snap).2.store.tasks.get? d.id =
      mergedRow now d (r.store.tasks.get? d.id) := by
  have hfind : snap.tasks.find? (fun x => x.id = d.id) = some d :=
    Table.find?_key_of_mem hids hd
  rw [store_receiveFullState]
  refine (Table.look_foldl_keyed (I := fun _ => True) (fun s k => s.tasks.get? k)
    (fun s d => (mergeTask s now d).2) TaskData.id (mergedRow now) (fun _ _ _ => trivial)
    (fun s d k _ => (mergesTo_mergeTask s now d).2 k) _ hids _ trivial d.id).trans ?_
  rw [hfind, tasks_foldl_mergeNode]

/-- Receiving the snapshot rejects all its tasks and leaves the task table as it is. -/
def RejectsAll (r : SyncReceiver) (now : Time) (snap : FullState) : Prop :=
  (r.receiveFullState now snap).1.tasksApplied = 0 ∧
    (r.receiveFullState now snap).1.tasksRejected = snap.tasks.length ∧
    (r.receiveFullState now snap).2.store.tasks = r.store.tasks

/-- **Re-applying a snapshot.**  Received again, a snapshot with distinct task ids is
rejected as a whole exactly when the first merge of each task settled it. -/
theorem reapplied_harmless_iff (r : SyncReceiver) (snap : FullState) (now later : Time)
    (hids : (snap.tasks.map TaskData.id).Nodup) :
    RejectsAll (r.receiveFullState now snap).2 later snap ↔
      ∀ d ∈ snap.tasks, Settles d (r.store.tasks.get? d.id) := by
  have hkeep : ∀ s d, (mergeTask s later d).1 = false → (mergeTask s later d).2 = s :=
    fun _ _ => mergeTask_rejected
  have hfirst : ∀ d ∈ snap.tasks,
      (mergeTask (snap.nodes.foldl (fun s d => (mergeNode s d).2)
        (r.receiveFullState now snap).2.store) later d).1 = false ↔
        Settles d (r.store.tasks.get? d.id) := by
    intro d hd
    rw [mergeTask_fst, tasks_foldl_mergeNode, get?_receiveFullState hids r now hd, settles_iff]
  have happlied : ((r.receiveFullState now snap).2.receiveFullState later snap).1.tasksApplied =
      0 ↔ ∀ d ∈ snap.tasks, Settles d (r.store.tasks.get? d.id) := by
    show (mergeAll (fun s d => mergeTask s later d)
      (mergeAll mergeNode (r.receiveFullState now snap).2.store snap.nodes).2.2
      snap.tasks).1 = 0 ↔ _
    rw [store_mergeAll, mergeAll_none_applied hkeep]
    exact forall₂_congr hfirst
  refine ⟨?_, ?_⟩
  · rintro ⟨h, -, -⟩
    exact happlied.mp h
  · intro h
    refine ⟨happlied.mpr h, ?_, ?_⟩
    · show (mergeAll (fun s d => mergeTask s later d)
        (mergeAll mergeNode (r.receiveFullState now snap).2.store snap.nodes).2.2
        snap.tasks).2.1 = _
      rw [store_mergeAll, mergeAll, foldl_rejected hkeep _ _ fun d hd => (hfirst d hd).mpr (h d hd)]
      exact Nat.zero_add _
    · rw [store_receiveFullState, ← store_mergeAll (fun s d => mergeTask s later d), mergeAll,
        foldl_rejected hkeep _ _ fun d hd => (hfirst d hd).mpr (h d hd)]
      exact tasks_foldl_mergeNode _ _

/-- The snapshot of one task. -/
def oneTask (status : TaskStatus) (version : Int) : FullState :=
  { nodeId := "b", syncVersion := 0, timestamp := 7, nodes := []
    tasks := [{ id := "t1", title := "build", requires := [], dependsOn := [], priority := 3,
                status := status.value, assignedTo := none, createdAt := 0, updatedAt := 0,
                version := version, failReason := none }] }

/-- A running task at version 2 is settled by the first merge. -/
theorem reapplied_harmless_example :
    RejectsAll (SyncReceiver.receiveFullState {} 0 (oneTask .running 2)).2 1
      (oneTask .running 2) :=
  (reapplied_harmless_iff {} (oneTask .running 2) 0 1 (by decide)).mpr fun d hd => by
    rw [List.mem_singleton.mp hd]
    intro _ _
    decide

/-- A new task at version 5 is stored at version 2, and applied again at version 3. -/
theorem reapplied_again :
    ((oneTask .running 5).tasks.map TaskData.id).Nodup ∧
      ¬ RejectsAll (SyncReceiver.receiveFullState {} 0 (oneTask .running 5)).2 1
        (oneTask .running 5) := by
  refine ⟨by decide, fun h => ?_⟩
  have := h.1
  revert this
  decide

end SyncReceiver

end HermesCluster
