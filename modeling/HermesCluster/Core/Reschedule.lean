import HermesCluster.Core.Online
import HermesCluster.Sync.Readable
import HermesCluster.Task.Runnable

/-!
# `reschedule_task`

`ClusterScheduler.reschedule_task` revokes a lease of the task, makes the task pending and runs
the scheduler, which takes ready tasks only.  What it then finds in `assigned_to` is what was
there before the call, so the node it returns is never one it chose.

`reschedule_truthful_iff`: its answer is true exactly if it raises, the task is not there, or the
task had no assignee at all.
-/

namespace HermesCluster

namespace Session

/-- `result.rowcount > 0` -/
def revokeLease (leaseId : LeaseId) : Session Bool := .write fun s => s.revokeLease leaseId

end Session

namespace ClusterScheduler

/-- The loop over the active leases, which ends at the first of the task. -/
def revokeFirst (taskId : TaskId) : List Lease → Session Unit
  | [] => return ()
  | lease :: leases =>
    if lease.taskId = taskId then do
      let _ ← Session.revokeLease lease.id
      return ()
    else revokeFirst taskId leases

/-- The leases are looked at only if the task has an assignee. -/
def revokeExisting (now : Time) (taskId : TaskId) (assignedTo : Option NodeId) : Session Unit :=
  if assignedTo.getD "" ≠ "" then do
    let leases ← Session.getActiveLeases now
    revokeFirst taskId leases
  else return ()

/-- `task.assigned_to` if it is truthy. -/
def assignedNode : Option Task → Option NodeId
  | none => none
  | some task => task.assignedTo.filter (· ≠ "")

/-- `reschedule_task` -/
def rescheduleTask (now : Time) (taskId : TaskId) : Session (Option NodeId) := do
  match ← Session.getTask taskId with
  | none => return none
  | some task => do
    revokeExisting now taskId task.assignedTo
    let _ ← Session.setTaskStatus now taskId .pending
    let _ ← schedulePending now
    let task ← Session.getTask taskId
    return assignedNode task

open ClusterStore

variable {s s' : ClusterStore} {now : Time} {t k : TaskId} {r : TaskRow} {n : NodeId}

/-! ### What the answer is to say -/

/-- The log has a new decision that puts the task on the node. -/
def NewlyDecided (s s' : ClusterStore) (t : TaskId) (n : NodeId) : Prop :=
  ∃ new, s'.decisions = recorded s.decisions new ∧
    ∃ d ∈ new, d ∈ s'.decisions ∧ d.taskId = t ∧ d.nodeId = n

/-- The answer of a call that took `s` to `s'` is true. -/
structure Truthful (s s' : ClusterStore) (t : TaskId) (answer : Option NodeId) : Prop where
  placed : ∀ n, answer = some n → NewlyDecided s s' t n ∧
    ∃ r, s'.tasks.get? t = some r ∧ r.status = TaskStatus.running.value ∧
      r.assignedTo = some n ∧ s'.Suits n r.requires
  unplaced : answer = none → (s.tasks.get? t).isSome → ∃ r, s'.tasks.get? t = some r ∧
    r.status ≠ TaskStatus.running.value ∧ r.assignedTo = none

/-! ### The parts of the call -/

/-- Only leases change. -/
def SameTasks (s s' : ClusterStore) : Prop := s'.tasks = s.tasks ∧ s'.nodes = s.nodes

theorem run_revokeFirst (l : List Lease) (s : ClusterStore) :
    ∃ s', (revokeFirst t l).run s = (.ok (), s') ∧ SameTasks s s' := by
  induction l with
  | nil => exact ⟨s, rfl, rfl, rfl⟩
  | cons lease l ih =>
    rw [revokeFirst]
    split
    · exact ⟨_, rfl, rfl, rfl⟩
    · exact ih

theorem run_getActiveLeases (s : ClusterStore) (now : Time) :
    ∃ s', (Session.getActiveLeases now).run s = (.ok (s.leases.rows.filter (·.live now)), s') ∧
      SameTasks s s' := by
  have hread : (Prog.write fun s : ClusterStore => (s.leases.rows, s) :
      Session (List Lease)).run s = (.ok s.leases.rows, s) := Prog.run_write _ s
  rw [Session.getActiveLeases, Prog.run_bind_ok _ hread]
  split
  · exact ⟨_, rfl, rfl, rfl⟩
  · exact ⟨_, rfl, rfl, rfl⟩

theorem run_revokeExisting (now : Time) (t : TaskId) (assignedTo : Option NodeId)
    (s : ClusterStore) :
    ∃ s', (revokeExisting now t assignedTo).run s = (.ok (), s') ∧ SameTasks s s' := by
  rw [revokeExisting]
  split
  · obtain ⟨s₁, hget, htasks, hnodes⟩ := run_getActiveLeases s now
    obtain ⟨s₂, hrevoke, htasks', hnodes'⟩ := run_revokeFirst _ s₁
    refine ⟨s₂, ?_, htasks'.trans htasks, hnodes'.trans hnodes⟩
    rw [Prog.run_bind_ok _ hget, hrevoke]
  · exact ⟨s, rfl, rfl, rfl⟩

/-- What `Schedulable` asks once the task is pending. -/
def SchedulableWithout (s : ClusterStore) (t : TaskId) : Prop :=
  (∀ n ∈ s.onlineRows, n.load ≠ .nan) ∧
    (s.onlineRows ≠ [] → ∀ k r, s.tasks.get? k = some r → k ≠ t →
      r.status = TaskStatus.ready.value → decodes r = true)

/-- The table the scheduler finds. -/
structure Withdrawn (s s₁ : ClusterStore) (now : Time) (t : TaskId) : Prop where
  nodes : s₁.nodes = s.nodes
  get : ∀ k, s₁.tasks.get? k =
    if k = t then (s.tasks.get? k).map (withStatus now .pending "") else s.tasks.get? k

theorem withStatus_pending_not_ready (now : Time) (r : TaskRow) :
    (withStatus now .pending "" r).status ≠ TaskStatus.ready.value := by
  have hne : TaskStatus.pending.value ≠ TaskStatus.ready.value := by decide
  exact hne

theorem Withdrawn.schedulable_iff {s₁ : ClusterStore} (h : Withdrawn s s₁ now t) :
    Schedulable s₁ ↔ SchedulableWithout s t := by
  rw [Schedulable, SchedulableWithout, onlineRows, onlineRows, h.nodes]
  refine and_congr_right fun _ => imp_congr_right fun _ => ⟨fun hd k r hr hk hready => ?_,
    fun hd r hr => ?_⟩
  · have hid : r.id = k := Table.key_of_get? hr
    refine hd r (mem_readyRows.mpr ⟨?_, hready⟩)
    rw [h.get, hid, if_neg hk]
    exact hr
  · obtain ⟨hget, hready⟩ := mem_readyRows.mp hr
    rw [h.get] at hget
    by_cases hid : r.id = t
    · rw [if_pos hid] at hget
      obtain ⟨r', -, rfl⟩ := Option.map_eq_some_iff.mp hget
      exact absurd hready (withStatus_pending_not_ready now r')
    · rw [if_neg hid] at hget
      exact hd r.id r hget hid hready

/-- The scheduler leaves the task as it is. -/
theorem Withdrawn.get_scheduled {s₁ s₂ : ClusterStore} (h : Withdrawn s s₁ now t)
    (hr : s.tasks.get? t = some r) {m : Nat} (hok : s₁.schedulePending now = .ok (m, s₂)) :
    s₂.tasks.get? t = some (withStatus now .pending "" r) := by
  rw [(schedulePending_inv hok).2, h.get, if_pos rfl, hr, Option.map_some, Option.map_some,
    scheduled, if_neg (withStatus_pending_not_ready now r)]

/-! ### The call -/

theorem run_rescheduleTask_missing (hr : s.tasks.get? t = none) (now : Time) :
    (rescheduleTask now t).run s = (.ok none, s) := by
  rw [rescheduleTask, Prog.run_bind_ok _ (Session.run_getTask_ok (getTask_of_none hr))]
  rfl

theorem run_rescheduleTask_unread (hr : s.tasks.get? t = some r) (hd : ¬ decodes r = true)
    (now : Time) : ∃ e, (rescheduleTask now t).run s = (.error e, s) := by
  obtain ⟨e, he⟩ := getTask_raises hr hd
  exact ⟨e, by rw [rescheduleTask, Prog.run_bind_error _ (Session.run_getTask_error he)]⟩

/-- What is left to do once the task is pending. -/
def place (now : Time) (t : TaskId) : Session (Option NodeId) := do
  let _ ← schedulePending now
  let task ← Session.getTask t
  return assignedNode task

theorem run_rescheduleTask_withdrawn (hr : s.tasks.get? t = some r) (hd : decodes r = true)
    (now : Time) : ∃ s₁, Withdrawn s s₁ now t ∧
      (rescheduleTask now t).run s = (place now t).run s₁ := by
  obtain ⟨s₁, hrevoke, htasks, hnodes⟩ := run_revokeExisting now t (readRow r).assignedTo s
  have hset : (Session.setTaskStatus now t .pending).run s₁ = (.ok _, _) := Prog.run_write _ s₁
  refine ⟨s₁.setTaskStatus now t .pending, ⟨hnodes, fun k => ?_⟩, ?_⟩
  · rw [get?_setTaskStatus, htasks]
  · rw [rescheduleTask, Prog.run_bind_ok _ (Session.run_getTask_ok (getTask_of_some hr hd))]
    dsimp only
    rw [Prog.run_bind_ok _ hrevoke, Prog.run_bind_ok _ hset, place]

theorem decodes_withdrawn_iff (now : Time) (hd : decodes r = true) :
    decodes (withStatus now .pending "" r) = true ↔ HasRoom r :=
  decodes_bumped_iff hd (isStatus_value .pending) rfl

/-- The call returns the old assignee, if the rows it reads can be read. -/
theorem run_place {s₁ : ClusterStore} (h : Withdrawn s s₁ now t) (hr : s.tasks.get? t = some r)
    (hd : decodes r = true) (hs : SchedulableWithout s t) (hroom : HasRoom r) :
    ∃ s₂, (place now t).run s₁ = (.ok (r.assignedTo.filter (· ≠ "")), s₂) ∧
      s₂.tasks.get? t = some (withStatus now .pending "" r) := by
  obtain ⟨m, s₂, hok, -, -⟩ := schedulePending_ok now (h.schedulable_iff.mpr hs)
  have hget := h.get_scheduled hr hok
  have hpass : (schedulePending now).run s₁ = (.ok m, s₂) := Prog.run_tx_ok hok
  have hread := getTask_of_some hget ((decodes_withdrawn_iff now hd).mpr hroom)
  refine ⟨s₂, ?_, hget⟩
  rw [place, Prog.run_bind_ok _ hpass, Prog.run_bind_ok _ (Session.run_getTask_ok hread)]
  rfl

theorem run_place_raises {s₁ : ClusterStore} (h : Withdrawn s s₁ now t)
    (hr : s.tasks.get? t = some r) (hd : decodes r = true)
    (hnot : ¬ (SchedulableWithout s t ∧ HasRoom r)) :
    ∃ e s₂, (place now t).run s₁ = (.error e, s₂) := by
  by_cases hs : SchedulableWithout s t
  · obtain ⟨m, s₂, hok, -, -⟩ := schedulePending_ok now (h.schedulable_iff.mpr hs)
    have hpass : (schedulePending now).run s₁ = (.ok m, s₂) := Prog.run_tx_ok hok
    have hunread : ¬ decodes (withStatus now .pending "" r) = true :=
      fun hdec => hnot ⟨hs, (decodes_withdrawn_iff now hd).mp hdec⟩
    obtain ⟨e, he⟩ := getTask_raises (h.get_scheduled hr hok) hunread
    refine ⟨e, s₂, ?_⟩
    rw [place, Prog.run_bind_ok _ hpass, Prog.run_bind_error _ (Session.run_getTask_error he)]
  · obtain ⟨e, he⟩ := schedulePending_raises now fun h' => hs (h.schedulable_iff.mp h')
    have hpass : (schedulePending now).run s₁ = (.error e, s₁) := Prog.run_tx_error he
    exact ⟨e, s₁, by rw [place, Prog.run_bind_error _ hpass]⟩

/-- The call gets to its end. -/
structure Passes (s : ClusterStore) (t : TaskId) (r : TaskRow) : Prop where
  read : decodes r = true
  schedulable : SchedulableWithout s t
  room : HasRoom r

theorem run_rescheduleTask_iff (hr : s.tasks.get? t = some r) (now : Time)
    (answer : Option NodeId) :
    (∃ s', (rescheduleTask now t).run s = (.ok answer, s')) ↔
      Passes s t r ∧ answer = r.assignedTo.filter (· ≠ "") := by
  by_cases hd : decodes r = true
  · obtain ⟨s₁, h, hrun⟩ := run_rescheduleTask_withdrawn hr hd now
    rw [hrun]
    by_cases hnot : SchedulableWithout s t ∧ HasRoom r
    · obtain ⟨s₂, hplace, -⟩ := run_place h hr hd hnot.1 hnot.2
      rw [hplace]
      refine ⟨?_, ?_⟩
      · rintro ⟨s', heq⟩
        cases heq
        exact ⟨⟨hd, hnot.1, hnot.2⟩, rfl⟩
      · rintro ⟨-, rfl⟩
        exact ⟨s₂, rfl⟩
    · obtain ⟨e, s₂, hplace⟩ := run_place_raises h hr hd hnot
      rw [hplace]
      refine iff_of_false (fun ⟨_, heq⟩ => by cases heq) fun hp => hnot ?_
      exact ⟨hp.1.schedulable, hp.1.room⟩
  · obtain ⟨e, he⟩ := run_rescheduleTask_unread hr hd now
    rw [he]
    exact iff_of_false (fun ⟨_, heq⟩ => by cases heq) fun hp => hd hp.1.read

/-- A call that returns leaves the task pending, with the assignee it had. -/
theorem get?_rescheduleTask {answer : Option NodeId}
    (h : (rescheduleTask now t).run s = (.ok answer, s')) (hr : s.tasks.get? t = some r) :
    s'.tasks.get? t = some (withStatus now .pending "" r) := by
  have hp := ((run_rescheduleTask_iff hr now answer).mp ⟨s', h⟩).1
  obtain ⟨s₁, hw, hrun⟩ := run_rescheduleTask_withdrawn hr hp.read now
  obtain ⟨s₂, hplace, hget⟩ := run_place hw hr hp.read hp.schedulable hp.room
  rw [hrun, hplace] at h
  cases h
  exact hget

/-- **`reschedule_task` tells the truth** in every state, for every task, exactly if the call
does not get to its end or the task has no assignee to begin with. -/
theorem reschedule_truthful_iff (s : ClusterStore) (now : Time) (t : TaskId) :
    (∀ answer s', (rescheduleTask now t).run s = (.ok answer, s') → Truthful s s' t answer) ↔
      ∀ r, s.tasks.get? t = some r → Passes s t r → r.assignedTo = none := by
  have hne : TaskStatus.pending.value ≠ TaskStatus.running.value := by decide
  refine ⟨fun htrue r hr hp => ?_, fun hnone answer s' hrun => ?_⟩
  · obtain ⟨s', hrun⟩ := (run_rescheduleTask_iff hr now _).mpr ⟨hp, rfl⟩
    have hget := get?_rescheduleTask hrun hr
    have htruth := htrue _ s' hrun
    cases hanswer : r.assignedTo.filter (· ≠ "") with
    | none =>
      obtain ⟨r', hr', -, hassigned⟩ := htruth.unplaced hanswer (by rw [hr]; rfl)
      rw [hget] at hr'
      cases hr'
      exact hassigned
    | some n =>
      obtain ⟨-, r', hr', hrunning, -⟩ := htruth.placed n hanswer
      rw [hget] at hr'
      cases hr'
      exact absurd hrunning hne
  · cases hr : s.tasks.get? t with
    | none =>
      rw [run_rescheduleTask_missing hr] at hrun
      cases hrun
      refine ⟨fun n hn => ?_, fun _ hsome => ?_⟩
      · cases hn
      · rw [hr] at hsome
        cases hsome
    | some r =>
      obtain ⟨hp, hanswer⟩ := (run_rescheduleTask_iff hr now answer).mp ⟨s', hrun⟩
      have hassigned := hnone r hr hp
      rw [hassigned] at hanswer
      subst hanswer
      refine ⟨fun n hn => ?_, fun _ _ => ⟨_, get?_rescheduleTask hrun hr, hne, hassigned⟩⟩
      cases hn

/-- One task that runs on the node, which is online. -/
def runningStore : ClusterStore where
  nodes := Table.empty.put { id := "n1", name := "worker", lastHeartbeat := ⟨0, none⟩ }
  tasks := Table.empty.put
    { id := "task_a", title := "build", status := "running", assignedTo := some "n1",
      createdAt := 1, updatedAt := 1, version := 2 }

/-- The call names the old node, and the task is pending. -/
theorem reschedule_untruthful :
    ((rescheduleTask 2 "task_a").run runningStore).1 = .ok (some "n1") ∧
      (((rescheduleTask 2 "task_a").run runningStore).2.tasks.get? "task_a").map
        TaskRow.status = some "pending" ∧
      ¬ ∀ answer s', (rescheduleTask 2 "task_a").run runningStore = (.ok answer, s') →
        Truthful runningStore s' "task_a" answer := by
  have hrun : ((rescheduleTask 2 "task_a").run runningStore).1 = .ok (some "n1") := by
    decide +kernel
  have hpending : (((rescheduleTask 2 "task_a").run runningStore).2.tasks.get? "task_a").map
      TaskRow.status = some "pending" := by decide +kernel
  refine ⟨hrun, hpending, fun htrue => ?_⟩
  obtain ⟨-, r, hr, hrunning, -⟩ := (htrue _ _ (Prod.ext hrun rfl)).placed "n1" rfl
  rw [hr, Option.map_some, hrunning] at hpending
  exact absurd hpending (by decide)

end ClusterScheduler

end HermesCluster
