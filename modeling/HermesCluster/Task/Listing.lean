import HermesCluster.Core.NodeManager
import HermesCluster.Task.AutoSchedule
import Mathlib.Algebra.BigOperators.Group.List.Lemmas

/-!
# Listing and counting tasks

`list_tasks` and `count_tasks` of `hermes_cluster/task_manager.py`, with `task_counts` of the
store.  A listing decodes every row and filters the tasks; the counts come from one grouped
query, folded into a dictionary that has no key for the statuses `assigned` and `blocked`.

`counts_agree_iff`: the two agree exactly when every row decodes and no task is assigned or
blocked.

`lower` is `str.lower`, of which nothing is used.
-/

namespace HermesCluster

inductive SortField | priority | createdAt | updatedAt | status | title
deriving DecidableEq, Repr

inductive SortOrder | asc | desc
deriving DecidableEq, Repr

structure TaskFilter where
  status : Option String := none
  assignedTo : Option NodeId := none
  requires : Option Capability := none
  priorityMin : Option Int := none
  priorityMax : Option Int := none
  search : Option String := none
  sortBy : SortField := .createdAt
  sortOrder : SortOrder := .desc
  offset : Int := 0
  limit : Int := 100
deriving DecidableEq, Repr

/-- An index of a slice of a list of that length; a negative one counts from the end. -/
def sliceIndex (length : Nat) (i : Int) : Nat :=
  if i < 0 then (i + length).toNat else min i.toNat length

/-- `l[start:stop]` -/
def slice {α : Type} (l : List α) (start stop : Int) : List α :=
  (l.drop (sliceIndex l.length start)).take
    (sliceIndex l.length stop - sliceIndex l.length start)

theorem slice_all {α : Type} {l : List α} {stop : Int} (h : (l.length : Int) ≤ stop) :
    slice l 0 stop = l := by
  have hstart : sliceIndex l.length 0 = 0 := by simp [sliceIndex]
  have hstop : sliceIndex l.length stop = l.length := by
    rw [sliceIndex, if_neg (by omega)]
    exact min_eq_right (by omega)
  rw [slice, hstart, hstop, List.drop_zero, Nat.sub_zero, List.take_length]

/-- An entry of the dictionary of `task_counts`. -/
structure StatusCount where
  status : String
  count : Nat
deriving DecidableEq, Repr

instance : Keyed StatusCount String := ⟨StatusCount.status⟩

/-- `counts[key] += n` -/
def StatusCount.plus (n : Nat) (e : StatusCount) : StatusCount := { e with count := e.count + n }

theorem StatusCount.key_plus (n : Nat) (e : StatusCount) :
    Keyed.key (e.plus n) = Keyed.key e := rfl

theorem StatusCount.plus_plus (m n : Nat) (e : StatusCount) :
    (e.plus m).plus n = e.plus (m + n) := by
  rw [plus, plus, plus, Nat.add_assoc]

namespace ClusterStore

/-- `SELECT status, COUNT(*) as c FROM tasks GROUP BY status`, the groups in some order. -/
def statusGroups (s : ClusterStore) : List (String × Nat) :=
  (s.tasks.rows.map TaskRow.status).dedup.map fun status =>
    (status, (s.tasks.rows.map TaskRow.status).count status)

/-- The dictionary `task_counts` starts with. -/
def zeroCounts : Table StatusCount where
  rows := [⟨"total", 0⟩, ⟨"ready", 0⟩, ⟨"running", 0⟩, ⟨"completed", 0⟩, ⟨"failed", 0⟩,
    ⟨"pending", 0⟩]
  nodup := by decide

/-- The body of the loop of `task_counts`. -/
def addGroup (counts : Table StatusCount) (row : String × Nat) : Table StatusCount :=
  (counts.modify "total" (StatusCount.plus row.2) (StatusCount.key_plus row.2)).modify row.1
    (StatusCount.plus row.2) (StatusCount.key_plus row.2)

def taskCounts (s : ClusterStore) : Table StatusCount := s.statusGroups.foldl addGroup zeroCounts

end ClusterStore

namespace TaskManager

/-- `_apply_filters`; an empty text is no criterion. -/
def applyFilters (lower : String → String) (tasks : List Task) (f : TaskFilter) : List Task :=
  let result := tasks.filter fun t => f.status.getD "" = "" ∨ t.status.value = f.status.getD ""
  let result := result.filter fun t => f.assignedTo.getD "" = "" ∨ t.assignedTo = f.assignedTo
  let result := result.filter fun t => f.requires.getD "" = "" ∨ f.requires.getD "" ∈ t.requires
  let result := result.filter fun t => f.priorityMin.all (· ≤ t.priority)
  let result := result.filter fun t => f.priorityMax.all (t.priority ≤ ·)
  result.filter fun t =>
    f.search.getD "" = "" ∨ isIn (lower (f.search.getD "")) (lower t.title) = true

/-- The key of `a` is not above that of `b`. -/
def keyLe (lower : String → String) (sortBy : SortField) (a b : Task) : Prop :=
  match sortBy with
  | .priority => a.priority ≤ b.priority
  | .createdAt => a.createdAt ≤ b.createdAt
  | .updatedAt => a.updatedAt ≤ b.updatedAt
  | .status => a.status.value ≤ b.status.value
  | .title => lower a.title ≤ lower b.title

instance (lower : String → String) (sortBy : SortField) : DecidableRel (keyLe lower sortBy) :=
  fun a b => by unfold keyLe; cases sortBy <;> infer_instance

/-- `_apply_sort`; both orders leave tasks with one key as they were. -/
def applySort (lower : String → String) (tasks : List Task) (sortBy : SortField)
    (sortOrder : SortOrder) : List Task :=
  match sortOrder with
  | .asc => tasks.insertionSort (keyLe lower sortBy)
  | .desc => tasks.insertionSort fun a b => keyLe lower sortBy b a

/-- `list_tasks` -/
def listTasks (lower : String → String) (s : ClusterStore) (taskFilter : Option TaskFilter) :
    Except PyError (List Task) := do
  let tasks ← s.getAllTasks
  match taskFilter with
  | none => return tasks
  | some f =>
    let tasks := applyFilters lower tasks f
    let tasks := applySort lower tasks f.sortBy f.sortOrder
    return slice tasks f.offset (f.offset + f.limit)

/-- `counts.get(key, 0)` -/
def countAt (counts : Table StatusCount) (key : String) : Nat :=
  ((counts.get? key).map StatusCount.count).getD 0

/-- `count_tasks` -/
def countTasks (s : ClusterStore) (status : Option String) : Nat :=
  if status.getD "" ≠ "" then countAt s.taskCounts (status.getD "")
  else countAt s.taskCounts "total"

open ClusterStore

variable {s : ClusterStore} {status : TaskStatus}

/-! ### The dictionary -/

/-- What a group adds at a key. -/
def groupAdds (key : String) (row : String × Nat) : Nat :=
  (if key = "total" then row.2 else 0) + if key = row.1 then row.2 else 0

theorem get?_addGroup (counts : Table StatusCount) (row : String × Nat) (key : String) :
    (addGroup counts row).get? key =
      (counts.get? key).map (StatusCount.plus (groupAdds key row)) := by
  rw [addGroup, Table.get?_modify, Table.get?_modify, groupAdds]
  cases counts.get? key with
  | none => simp
  | some e =>
    by_cases htotal : key = "total"
    · by_cases hrow : key = row.1
      · simp [← htotal, ← hrow, StatusCount.plus_plus]
      · simp [htotal, htotal ▸ hrow]
    · by_cases hrow : key = row.1
      · simp [htotal, ← hrow]
      · simp [htotal, hrow, StatusCount.plus]

theorem get?_foldl_addGroup (groups : List (String × Nat)) (counts : Table StatusCount)
    (key : String) : (groups.foldl addGroup counts).get? key =
      (counts.get? key).map (StatusCount.plus (groups.map (groupAdds key)).sum) := by
  induction groups generalizing counts with
  | nil =>
    cases h : counts.get? key with
    | none => rw [List.foldl_nil, h]; rfl
    | some e => rw [List.foldl_nil, h]; rfl
  | cons row groups ih =>
    rw [List.foldl_cons, ih, get?_addGroup, Option.map_map]
    refine congrFun (congrArg Option.map (funext fun e => ?_)) _
    rw [Function.comp_apply, StatusCount.plus_plus, List.map_cons, List.sum_cons]

/-- A group counts once for its status, and every group for the total. -/
theorem sum_groupAdds (s : ClusterStore) (key : String) :
    (s.statusGroups.map (groupAdds key)).sum =
      (if key = "total" then s.tasks.rows.length else 0) +
        s.tasks.rows.countP (fun r => r.status = key) := by
  have hadds : groupAdds key ∘ (fun status =>
      (status, (s.tasks.rows.map TaskRow.status).count status)) = fun status =>
        (if key = "total" then (s.tasks.rows.map TaskRow.status).count status else 0) +
          if key = status then (s.tasks.rows.map TaskRow.status).count status else 0 := rfl
  rw [statusGroups, List.map_map, hadds, List.sum_map_add]
  congr 1
  · by_cases h : key = "total"
    · simp only [if_pos h]
      rw [List.sum_map_count_dedup_eq_length, List.length_map]
    · simp [if_neg h]
  · have hzero : ∀ l : List String, (l.map fun _ => 0).sum = 0 := by simp
    rw [List.sum_map_ite, hzero, Nat.add_zero, List.sum_map_count_dedup_filter_eq_countP,
      List.countP_map]
    refine List.countP_congr fun r _ => ?_
    simp [eq_comm]

theorem countAt_taskCounts (s : ClusterStore) {key : String}
    (h : key ∈ zeroCounts.rows.map StatusCount.status) : countAt s.taskCounts key =
      (if key = "total" then s.tasks.rows.length else 0) +
        s.tasks.rows.countP (fun r => r.status = key) := by
  have hzero : (zeroCounts.get? key).map StatusCount.count = some 0 := by
    revert h key
    decide
  rw [countAt, taskCounts, get?_foldl_addGroup, sum_groupAdds]
  cases he : zeroCounts.get? key with
  | none => rw [he] at hzero; cases hzero
  | some e =>
    rw [he] at hzero
    have hcount : e.count = 0 := Option.some.inj hzero
    simp [StatusCount.plus, hcount]

theorem countAt_taskCounts_of_notMem (s : ClusterStore) {key : String}
    (h : key ∉ zeroCounts.rows.map StatusCount.status) : countAt s.taskCounts key = 0 := by
  have hnone : zeroCounts.get? key = none := by
    rw [Table.get?_eq_none_iff]
    exact fun e he heq => h (heq ▸ List.mem_map_of_mem he)
  rw [countAt, taskCounts, get?_foldl_addGroup, hnone]
  rfl

/-- The statuses `task_counts` has no key for. -/
def Uncounted (status : TaskStatus) : Prop := status = .assigned ∨ status = .blocked

instance : DecidablePred Uncounted := fun status => by unfold Uncounted; infer_instance

theorem countTasks_status (s : ClusterStore) (status : TaskStatus) :
    countTasks s (some status.value) = if Uncounted status then 0 else s.countStatus status := by
  have hne : status.value ≠ "" := by cases status <;> decide
  have htotal : status.value ≠ "total" := by cases status <;> decide
  rw [countTasks, Option.getD_some, if_pos hne]
  by_cases h : Uncounted status
  · rw [if_pos h]
    refine countAt_taskCounts_of_notMem s ?_
    rcases h with rfl | rfl
    · decide
    · decide
  · have hkey : status.value ∈ zeroCounts.rows.map StatusCount.status := by
      revert h
      cases status <;> decide
    rw [if_neg h, countAt_taskCounts s hkey, if_neg htotal, Nat.zero_add]
    rfl

theorem countTasks_total (s : ClusterStore) : countTasks s none =
    s.tasks.rows.length + s.tasks.rows.countP (fun r => r.status = "total") := by
  rw [countTasks, Option.getD_none, if_neg (not_not.mpr rfl), countAt_taskCounts s (by decide),
    if_pos rfl]

/-! ### The listing -/

/-- The filter asks for the status and for nothing else. -/
structure OnlyStatus (f : TaskFilter) (status : TaskStatus) : Prop where
  status : f.status = some status.value
  assignedTo : f.assignedTo.getD "" = ""
  requires : f.requires.getD "" = ""
  priorityMin : f.priorityMin = none
  priorityMax : f.priorityMax = none
  search : f.search.getD "" = ""

/-- No task of the store is cut off. -/
def Unlimited (s : ClusterStore) (f : TaskFilter) : Prop :=
  f.offset = 0 ∧ (s.tasks.rows.length : Int) ≤ f.limit

theorem applyFilters_onlyStatus {f : TaskFilter} (h : OnlyStatus f status)
    (lower : String → String) (tasks : List Task) :
    applyFilters lower tasks f = tasks.filter (·.status = status) := by
  have hne : status.value ≠ "" := by cases status <;> decide
  have hstatus : (tasks.filter fun t => f.status.getD "" = "" ∨ t.status.value =
      f.status.getD "") = tasks.filter (·.status = status) := by
    refine List.filter_congr fun t _ => ?_
    rw [h.status, Option.getD_some, decide_eq_decide, or_iff_right hne, TaskStatus.value_inj]
  have hall : ∀ (l : List Task) (p : Task → Prop) [DecidablePred p], (∀ t, p t) →
      l.filter (fun t => p t) = l := fun l p _ hp =>
    List.filter_eq_self.mpr fun t _ => decide_eq_true (hp t)
  rw [applyFilters, hstatus, h.priorityMin, h.priorityMax]
  simp only [Option.all_none, List.filter_true]
  rw [hall _ _ fun _ => .inl h.search, hall _ _ fun _ => .inl h.requires,
    hall _ _ fun _ => .inl h.assignedTo]

theorem length_applySort (lower : String → String) (tasks : List Task) (sortBy : SortField)
    (sortOrder : SortOrder) : (applySort lower tasks sortBy sortOrder).length = tasks.length := by
  cases sortOrder with
  | asc => exact List.length_insertionSort _ _
  | desc => exact List.length_insertionSort _ _

theorem listTasks_ok {tasks : List Task} (h : s.getAllTasks = .ok tasks)
    (lower : String → String) (f : TaskFilter) : listTasks lower s (some f) =
      .ok (slice (applySort lower (applyFilters lower tasks f) f.sortBy f.sortOrder) f.offset
        (f.offset + f.limit)) := by
  rw [listTasks, h]
  rfl

/-- A listing by status has as many tasks as there are rows with its text. -/
theorem listTasks_onlyStatus (hd : s.TasksDecode) {f : TaskFilter} (h : OnlyStatus f status)
    (hall : Unlimited s f) (lower : String → String) :
    ∃ tasks, listTasks lower s (some f) = .ok tasks ∧ tasks.length = s.countStatus status := by
  have hread : s.getAllTasks = .ok (s.tasks.rows.map readRow) :=
    mapM_rowToTask_ok (tasksDecode_iff.mp hd)
  have hlen : (applySort lower (applyFilters lower (s.tasks.rows.map readRow) f) f.sortBy
      f.sortOrder).length = s.countStatus status := by
    rw [length_applySort, applyFilters_onlyStatus h, length_filter_readRow hd]
  refine ⟨_, ?_, hlen⟩
  have hlimit : ((applySort lower (applyFilters lower (s.tasks.rows.map readRow) f) f.sortBy
      f.sortOrder).length : Int) ≤ f.limit := by
    rw [hlen]
    exact le_trans (Int.ofNat_le.mpr List.countP_le_length) hall.2
  rw [listTasks_ok hread, hall.1, zero_add, slice_all hlimit]

/-! ### Whether they agree -/

/-- `TaskStatus`, its members. -/
def allStatuses : List TaskStatus :=
  [.pending, .ready, .assigned, .running, .completed, .failed, .blocked]

/-- Counting agrees with listing. -/
structure CountsAgree (lower : String → String) (s : ClusterStore) : Prop where
  byStatus : ∀ status f, OnlyStatus f status → Unlimited s f →
    ∃ tasks, listTasks lower s (some f) = .ok tasks ∧
      countTasks s (some status.value) = tasks.length
  total : countTasks s none = (allStatuses.map fun status => countTasks s (some status.value)).sum

theorem countStatus_eq_zero_iff (s : ClusterStore) (status : TaskStatus) :
    s.countStatus status = 0 ↔ ∀ r ∈ s.tasks.rows, r.status ≠ status.value := by
  rw [countStatus, List.countP_eq_zero]
  exact forall₂_congr fun r _ => not_congr decide_eq_true_iff

/-- Every row has one of the statuses. -/
theorem sum_countStatus (hd : s.TasksDecode) :
    (allStatuses.map s.countStatus).sum = s.tasks.rows.length := by
  have hrows := tasksDecode_iff.mp hd
  simp only [allStatuses, List.map_cons, List.map_nil, List.sum_cons, List.sum_nil, countStatus]
  generalize s.tasks.rows = rows at hrows
  induction rows with
  | nil => rfl
  | cons r rows ih =>
    obtain ⟨status, hst, -⟩ := decodes_iff.mp (hrows r List.mem_cons_self)
    have hrest := ih fun q hq => hrows q (List.mem_cons_of_mem r hq)
    simp only [List.countP_cons, List.length_cons, hst, decide_eq_true_eq, TaskStatus.value_inj]
    cases status <;> simp <;> omega

/-- A table without assigned or blocked tasks. -/
def OnlyCounted (s : ClusterStore) : Prop :=
  ∀ r ∈ s.tasks.rows, r.status ≠ TaskStatus.assigned.value ∧ r.status ≠ TaskStatus.blocked.value

theorem countTasks_of_onlyCounted (h : OnlyCounted s) (status : TaskStatus) :
    countTasks s (some status.value) = s.countStatus status := by
  rw [countTasks_status]
  split
  · rename_i hun
    refine ((countStatus_eq_zero_iff s status).mpr fun r hr => ?_).symm
    rcases hun with rfl | rfl
    · exact (h r hr).1
    · exact (h r hr).2
  · rfl

/-- **Counting agrees with listing** for every status exactly if every row decodes and no task
is assigned or blocked. -/
theorem counts_agree_iff (lower : String → String) (s : ClusterStore) :
    CountsAgree lower s ↔ s.TasksDecode ∧ OnlyCounted s := by
  refine ⟨fun h => ?_, fun ⟨hd, hcounted⟩ => ⟨fun status f hf hall => ?_, ?_⟩⟩
  · have hunlimited : ∀ status : TaskStatus, OnlyStatus
        { status := some status.value, limit := s.tasks.rows.length } status :=
      fun status => ⟨rfl, rfl, rfl, rfl, rfl, rfl⟩
    have hlist : ∀ status : TaskStatus, ∃ tasks, listTasks lower s
        (some { status := some status.value, limit := s.tasks.rows.length }) = .ok tasks ∧
          countTasks s (some status.value) = tasks.length :=
      fun status => h.byStatus status _ (hunlimited status) ⟨rfl, le_refl _⟩
    have hd : s.TasksDecode := by
      obtain ⟨tasks, hok, -⟩ := hlist .pending
      rw [tasksDecode_iff, ← getAllTasks_ok_iff]
      cases hread : s.getAllTasks with
      | error e =>
        rw [listTasks, hread] at hok
        cases hok
      | ok tasks => exact ⟨tasks, rfl⟩
    have hnone : ∀ status, Uncounted status → ∀ r ∈ s.tasks.rows, r.status ≠ status.value := by
      intro status hun
      obtain ⟨tasks, hok, hcount⟩ := hlist status
      obtain ⟨tasks', hok', hlen⟩ :=
        listTasks_onlyStatus hd (hunlimited status) ⟨rfl, le_refl _⟩ lower
      rw [hok] at hok'
      cases hok'
      rw [countTasks_status, if_pos hun] at hcount
      exact (countStatus_eq_zero_iff s status).mp (hlen.symm.trans hcount.symm)
    exact ⟨hd, fun r hr => ⟨hnone .assigned (.inl rfl) r hr, hnone .blocked (.inr rfl) r hr⟩⟩
  · obtain ⟨tasks, hok, hlen⟩ := listTasks_onlyStatus hd hf hall lower
    exact ⟨tasks, hok, (countTasks_of_onlyCounted hcounted status).trans hlen.symm⟩
  · have hnone : s.tasks.rows.countP (fun r => r.status = "total") = 0 := by
      refine List.countP_eq_zero.mpr fun r hr htotal => ?_
      obtain ⟨status, hst, -⟩ := decodes_iff.mp (tasksDecode_iff.mp hd r hr)
      rw [decide_eq_true_eq, hst] at htotal
      cases status <;> exact absurd htotal (by decide)
    rw [countTasks_total, hnone, Nat.add_zero,
      List.map_congr_left fun status _ => countTasks_of_onlyCounted hcounted status]
    exact (sum_countStatus hd).symm

/-- A task that a failed dependency has blocked. -/
def waitingStore : ClusterStore where
  tasks := Table.empty.put
    { id := "task_a", title := "deploy", dependsOn := ["task_b"], status := "blocked",
      createdAt := 0, updatedAt := 1, version := 3 }

/-- The blocked task is listed, and not counted. -/
theorem blocked_not_counted :
    ((listTasks id waitingStore (some { status := some "blocked" })).toOption.map
        List.length = some 1) ∧
      countTasks waitingStore (some "blocked") = 0 ∧ countTasks waitingStore none = 1 ∧
      ¬ CountsAgree id waitingStore := by
  have hcount : countTasks waitingStore (some "blocked") = 0 := by decide +kernel
  have htotal : countTasks waitingStore none = 1 := by decide +kernel
  refine ⟨by decide +kernel, hcount, htotal, fun h => ?_⟩
  have hsum : (allStatuses.map fun status =>
      countTasks waitingStore (some status.value)).sum = 0 := by decide +kernel
  have := h.total
  rw [htotal, hsum] at this
  cases this

end TaskManager

end HermesCluster
