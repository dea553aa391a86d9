import HermesCluster.Lib.Calendar
import HermesCluster.Lib.StableSort
import HermesCluster.State.Scheduling
import HermesCluster.Task.Spec

/-!
# Stored timestamps

The time columns hold ISO texts, and SQLite compares texts.  `purge_completed` and
`schedule_pending` here with that comparison; elsewhere the columns are modelled by the times they
stand for.

* `stamp_lt_stamp_iff`: the texts stand in the order of the times.
* `run_purgeCompletedText`, `schedulePendingText_eq`: so both do what they do to the times.
-/

namespace HermesCluster

open Calendar (NaiveDateTime calendarLength)

/-! ### The text of a time -/

/-- `_dt_to_str` -/
def dtToStr : Option NaiveDateTime → String
  | none => ""
  | some dt => dt.isoformat

/-- A time that a `datetime` can have. -/
def IsDatetime (t : Time) : Prop := 0 ≤ t ∧ t ≤ maxTime

instance (t : Time) : Decidable (IsDatetime t) := inferInstanceAs (Decidable (_ ∧ _))

theorem IsDatetime.toNat_lt {t : Time} (h : IsDatetime t) : t.toNat < calendarLength := by
  have hmax : t < (calendarLength : Int) := Int.lt_of_le_sub_one h.2
  exact (Int.toNat_lt h.1).mpr hmax

/-- The naive `datetime` at a time. -/
def datetimeAt (t : Time) : Option NaiveDateTime :=
  if h : IsDatetime t then some (NaiveDateTime.ofMicroseconds t.toNat h.toNat_lt) else none

/-- What a column of that time holds. -/
def stamp (t : Time) : String := dtToStr (datetimeAt t)

theorem stamp_of_isDatetime {t : Time} (h : IsDatetime t) :
    stamp t = (NaiveDateTime.ofMicroseconds t.toNat h.toNat_lt).isoformat := by
  rw [stamp, datetimeAt, dif_pos h, dtToStr]

theorem stamp_lt_stamp_iff {t u : Time} (ht : IsDatetime t) (hu : IsDatetime u) :
    stamp t < stamp u ↔ t < u := by
  rw [stamp_of_isDatetime ht, stamp_of_isDatetime hu, NaiveDateTime.isoformat_lt_iff,
    NaiveDateTime.toMicroseconds_ofMicroseconds, NaiveDateTime.toMicroseconds_ofMicroseconds,
    Int.toNat_lt ht.1, Int.toNat_of_nonneg hu.1]

theorem stamp_le_stamp_iff {t u : Time} (ht : IsDatetime t) (hu : IsDatetime u) :
    stamp t ≤ stamp u ↔ t ≤ u := by
  rw [← not_lt, stamp_lt_stamp_iff hu ht, not_lt]

theorem isDatetime_of_addTtl {now cutoff : Time} {ttl : Duration}
    (h : addTtl now ttl = .ok cutoff) : IsDatetime cutoff := by
  rw [addTtl] at h
  split at h
  · rename_i hrange
    obtain rfl := Except.ok.inj h
    exact hrange
  · cases h

namespace ClusterStore

/-- The time columns of `tasks` hold datetimes. -/
def Dated (s : ClusterStore) : Prop :=
  ∀ r ∈ s.tasks.rows, IsDatetime r.createdAt ∧ IsDatetime r.updatedAt

/-! ### `purge_completed` -/

/-- The rows with `status IN (?, ?) AND updated_at < ?`. -/
def purgeableText (s : ClusterStore) (cutoffStr : String) : List TaskId :=
  (s.tasks.rows.filter fun r =>
    (r.status = TaskStatus.completed.value ∨ r.status = TaskStatus.failed.value) ∧
      stamp r.updatedAt < cutoffStr).map TaskRow.id

/-! ### `schedule_pending` -/

/-- `ORDER BY priority, created_at` -/
def orderedBefore (a b : TaskRow) : Prop :=
  a.priority < b.priority ∨ (a.priority = b.priority ∧ stamp a.createdAt ≤ stamp b.createdAt)

instance : DecidableRel orderedBefore := fun a b => by
  unfold orderedBefore; infer_instance

def readyRowsText (s : ClusterStore) : List TaskRow :=
  (s.tasks.rows.filter (·.status = TaskStatus.ready.value)).insertionSort orderedBefore

/-- `schedule_pending` -/
def schedulePendingText (s : ClusterStore) (now : Time) :
    Except PyError (Nat × ClusterStore) := do
  let online ← s.onlineRows.mapM rowToNode
  if online = [] then return (0, s)
  let ready ← s.readyRowsText.mapM rowToTask
  return ready.foldl (scheduleOne online now) (0, s)

end ClusterStore

/-- `purge_completed` -/
def TaskManager.purgeCompletedText (now : Time) (olderThanSeconds : Int) : Session Nat := do
  let cutoff ← Prog.read fun _ => addTtl now (-seconds olderThanSeconds)
  Prog.write fun s =>
    ((s.purgeableText (stamp cutoff)).length, s.deleteTasks (s.purgeableText (stamp cutoff)))

namespace ClusterStore

variable {s : ClusterStore} {now : Time}

theorem purgeableText_eq (h : s.Dated) {cutoff : Time} (hcutoff : IsDatetime cutoff) :
    s.purgeableText (stamp cutoff) = s.purgeable cutoff := by
  rw [purgeableText, purgeable]
  congr 1
  refine List.filter_congr fun r hr => decide_eq_decide.mpr (and_congr_right fun _ => ?_)
  exact stamp_lt_stamp_iff (h r hr).2 hcutoff

theorem run_purgeCompletedText (h : s.Dated) (older : Int) :
    (TaskManager.purgeCompletedText now older).run s =
      (TaskManager.purgeCompleted now older).run s := by
  rw [TaskManager.purgeCompletedText, TaskManager.purgeCompleted]
  cases hcutoff : addTtl now (-seconds older) with
  | error e =>
    have hread : (Prog.read fun _ : ClusterStore => (.error e : Except PyError Time)).run s =
        (.error e, s) := Prog.run_read_error rfl
    rw [Prog.run_bind_error _ hread, Prog.run_bind_error _ hread]
  | ok cutoff =>
    have hread : (Prog.read fun _ : ClusterStore => (.ok cutoff : Except PyError Time)).run s =
        (.ok cutoff, s) := Prog.run_read_ok rfl
    rw [Prog.run_bind_ok _ hread, Prog.run_bind_ok _ hread, Prog.run_write, Prog.run_write,
      purgeableText_eq h (isDatetime_of_addTtl hcutoff)]

theorem readyRowsText_eq (h : s.Dated) : s.readyRowsText = s.readyRows := by
  rw [readyRowsText, readyRows]
  refine StableSort.insertionSort_congr fun a ha b hb => ?_
  refine or_congr_right (and_congr_right fun _ => ?_)
  exact stamp_le_stamp_iff (h a (List.mem_of_mem_filter ha)).1 (h b (List.mem_of_mem_filter hb)).1

theorem schedulePendingText_eq (h : s.Dated) (now : Time) :
    s.schedulePendingText now = s.schedulePending now := by
  rw [schedulePendingText, schedulePending, readyRowsText_eq h]

/-! ### What the two do -/

/-- Completed or failed, and last updated before the cutoff. -/
def FinishedBefore (cutoff : Time) (r : TaskRow) : Prop :=
  (r.status = TaskStatus.completed.value ∨ r.status = TaskStatus.failed.value) ∧
    r.updatedAt < cutoff

instance (cutoff : Time) : DecidablePred (FinishedBefore cutoff) :=
  fun _ => inferInstanceAs (Decidable (_ ∧ _))

/-- The rows that are gone are those finished before the cutoff. -/
theorem get?_purgeCompletedText (h : s.Dated) {older : Int} {cutoff : Time}
    (hcutoff : addTtl now (-seconds older) = .ok cutoff) (k : TaskId) :
    ((TaskManager.purgeCompletedText now older).run s).2.tasks.get? k =
      (s.tasks.get? k).filter fun r => ¬ FinishedBefore cutoff r := by
  rw [run_purgeCompletedText h, run_purgeCompleted_ok hcutoff, get?_deleteTasks]
  cases hk : s.tasks.get? k with
  | none => rw [ite_self, Option.filter_none]
  | some r =>
    by_cases hr : FinishedBefore cutoff r
    · have hmem : k ∈ s.purgeable cutoff := mem_purgeable.mpr ⟨r, hk, hr⟩
      rw [if_pos hmem, Option.filter_some_neg (by simpa using hr)]
    · have hmem : k ∉ s.purgeable cutoff := by
        intro hmem
        obtain ⟨r', hr', hfinished⟩ := mem_purgeable.mp hmem
        obtain rfl := Option.some.inj (hk.symm.trans hr')
        exact hr hfinished
      rw [if_neg hmem, Option.filter_some_pos (by simpa using hr)]

/-- Without a cutoff nothing is deleted. -/
theorem run_purgeCompletedText_error (h : s.Dated) {older : Int} {e : PyError}
    (hcutoff : addTtl now (-seconds older) = .error e) :
    ((TaskManager.purgeCompletedText now older).run s).2 = s := by
  rw [run_purgeCompletedText h, run_purgeCompleted_error hcutoff]

/-- Of two rows with the same priority the one created first comes first. -/
theorem pairwise_readyRowsText (h : s.Dated) : s.readyRowsText.Pairwise fun a b =>
    a.priority = b.priority → a.createdAt ≤ b.createdAt := by
  rw [readyRowsText_eq h]
  refine (List.pairwise_insertionSort scheduledBefore _).imp fun hab hpriority => ?_
  rcases hab with hlt | ⟨-, hle⟩
  · exact absurd hpriority (ne_of_lt hlt)
  · exact hle

/-- Of two tasks with the same priority the decision for the one created first comes first. -/
def FirstInFirstOut (tasks : Table TaskRow) (decisions : List SchedulingDecision) : Prop :=
  decisions.Pairwise fun d e => ∀ x y, tasks.get? d.taskId = some x →
    tasks.get? e.taskId = some y → x.priority = y.priority → x.createdAt ≤ y.createdAt

theorem firstInFirstOut_schedulePendingText (h : s.Dated) {n : Nat} {s' : ClusterStore}
    (hs' : s.schedulePendingText now = .ok (n, s')) :
    ∃ new, s'.decisions = recorded s.decisions new ∧ FirstInFirstOut s.tasks new := by
  rw [schedulePendingText_eq h] at hs'
  obtain ⟨m, t, ht, hall⟩ := schedulesAll_schedulePending now (schedulable_of_ok hs')
  obtain rfl : s' = t := congrArg Prod.snd (Except.ok.inj (hs'.symm.trans ht))
  obtain ⟨new, hlog, -, -, -, hordered⟩ := hall.logged
  refine ⟨new, hlog, hordered.imp fun hde x y hx hy hpriority => ?_⟩
  rcases hde x y hx hy with hlt | ⟨-, hle⟩
  · -- a smaller priority is not the same priority
    exact absurd hpriority (ne_of_lt hlt)
  · exact hle

/-- **Stored timestamps sort chronologically**, so that `purge_completed` deletes exactly what was
finished before the cutoff, and `schedule_pending` takes tasks of one priority in the order in
which they were created. -/
theorem stored_timestamps_chronological :
    (∀ a b : NaiveDateTime,
      dtToStr (some a) < dtToStr (some b) ↔ a.toMicroseconds < b.toMicroseconds) ∧
    (∀ s : ClusterStore, s.Dated → ∀ now older,
      (∀ cutoff, addTtl now (-seconds older) = .ok cutoff → ∀ k,
        ((TaskManager.purgeCompletedText now older).run s).2.tasks.get? k =
          (s.tasks.get? k).filter fun r => ¬ FinishedBefore cutoff r) ∧
      ∀ e, addTtl now (-seconds older) = .error e →
        ((TaskManager.purgeCompletedText now older).run s).2 = s) ∧
    ∀ s : ClusterStore, s.Dated →
      s.readyRowsText.Pairwise (fun a b => a.priority = b.priority → a.createdAt ≤ b.createdAt) ∧
      ∀ now n s', s.schedulePendingText now = .ok (n, s') →
        ∃ new, s'.decisions = recorded s.decisions new ∧ FirstInFirstOut s.tasks new :=
  ⟨NaiveDateTime.isoformat_lt_iff,
    fun _ h _ _ => ⟨fun _ hcutoff => get?_purgeCompletedText h hcutoff,
      fun _ hcutoff => run_purgeCompletedText_error h hcutoff⟩,
    fun _ h => ⟨pairwise_readyRowsText h,
      fun _ _ _ hs' => firstInFirstOut_schedulePendingText h hs'⟩⟩

/-- 2026-01-01T00:00:00 -/
def newYear : Time := 63902822400000000

def newYearRow (id status : String) (createdAt updatedAt : Time) : TaskRow :=
  { id := id, title := "build", status := status, createdAt := createdAt, updatedAt := updatedAt,
    version := 1 }

/-- Two tasks finished in the first second of the year, and two ready ones. -/
def newYearStore : ClusterStore where
  nodes := Table.empty.put { id := "n1", name := "worker", lastHeartbeat := ⟨newYear, none⟩ }
  tasks := (((Table.empty.put (newYearRow "task_a" "completed" newYear newYear)).put
    (newYearRow "task_b" "failed" newYear (newYear + 500000))).put
      (newYearRow "task_c" "ready" (newYear + 500000) (newYear + 500000))).put
        (newYearRow "task_d" "ready" newYear (newYear + 500000))

/-- A quarter of a second into the year the task without a fraction in its text is older than the
cutoff, and the other is not; of the ready tasks the one created first is scheduled first. -/
theorem newYearStore_purged :
    ((TaskManager.purgeCompletedText (newYear + 250000) 0).run newYearStore).2.tasks.get?
        "task_a" = none ∧
      ((TaskManager.purgeCompletedText (newYear + 250000) 0).run newYearStore).2.tasks.get?
        "task_b" = newYearStore.tasks.get? "task_b" ∧
      ∃ n s' new, newYearStore.schedulePendingText (newYear + 1000000) = .ok (n, s') ∧
        s'.decisions = recorded newYearStore.decisions new ∧
        FirstInFirstOut newYearStore.tasks new := by
  have hdated : newYearStore.Dated := by
    rw [Dated]
    decide
  obtain ⟨-, hpurge, hschedule⟩ := stored_timestamps_chronological
  have hget := (hpurge newYearStore hdated (newYear + 250000) 0).1 (newYear + 250000) rfl
  refine ⟨(hget "task_a").trans (by decide), (hget "task_b").trans (by decide), ?_⟩
  have hok : (newYearStore.schedulePendingText (newYear + 1000000)).isOk = true := by
    decide +kernel
  cases hs' : newYearStore.schedulePendingText (newYear + 1000000) with
  | error e =>
    rw [hs'] at hok
    cases hok
  | ok p =>
    obtain ⟨new, hnew⟩ := (hschedule newYearStore hdated).2 (newYear + 1000000) p.1 p.2 hs'
    exact ⟨p.1, p.2, new, rfl, hnew⟩

end ClusterStore

end HermesCluster
