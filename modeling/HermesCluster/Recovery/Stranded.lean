import HermesCluster.Lib.Run
import HermesCluster.Cluster
import HermesCluster.Recovery.Recovered

/-!
# What a recovery leaves running where

`runsOn_iff` reads off `Recovered` which tasks run on which node after a recovery:
the orphans where they were rescheduled, and every other task where it was, unless it
was ready and the scheduler took it along.

* `nothing_left_on_node`: when `trigger_recovery` leaves no task running on the node.
  A task that runs there without a live lease is never looked at, since recovery finds
  tasks through their leases.
* `expired_leases_freed`: when `detect_expired_leases` leaves no task running on the
  strength of a lease that has run out.  Its own scan has already marked that lease
  when the revoker asks for the active leases of the node.
-/

namespace HermesCluster.ClusterState

open Run

variable {s s' : ClusterState} {now : Time} {t : TaskId} {n : NodeId}

/-- Task `t` is running with `assigned_to = n`. -/
def RunsOn (s : ClusterState) (t : TaskId) (n : NodeId) : Prop :=
  ∃ x, s.tasks.get? t = some x ∧ x.placement = (.running, some n)

instance : Decidable (RunsOn s t n) :=
  decidable_of_iff (∃ x ∈ s.tasks.get? t, x.placement = (.running, some n)) (by simp [RunsOn])

/-- `n` is the first online node that fits the task. -/
def Fit (s : ClusterState) (x : Task) (n : NodeId) : Prop :=
  ∃ node, s.firstFit x.requires = some node ∧ node.id = n

theorem settledPlacement_eq_running (x : Task) :
    s.settledPlacement x.requires = (.running, some n) ↔ Fit s x n ∧ n ≠ "" := by
  unfold settledPlacement Fit
  cases hf : s.firstFit x.requires with
  | none => simp
  | some node =>
    by_cases hid : node.id = ""
    · simp only [hid, if_true, Prod.mk.injEq, Option.some.injEq, exists_eq_left']
      exact iff_of_false (fun h => by cases h.1) fun h => h.2 h.1.symm
    · simp only [hid, if_false, Prod.mk.injEq, Option.some.injEq, exists_eq_left', true_and]
      exact ⟨fun h => ⟨h, h ▸ hid⟩, fun h => h.1⟩

theorem scheduledPlacement_eq_running (x : Task) :
    s.scheduledPlacement x.requires x.placement = (.running, some n) ↔
      x.placement = (.running, some n) ∨ (x.status = .ready ∧ Fit s x n) := by
  by_cases hr : x.status = .ready
  · have hno : x.placement ≠ (.running, some n) := fun h => by
      have := congrArg Prod.fst h
      rw [Task.placement, hr] at this
      cases this
    have hp : x.placement.1 = .ready := hr
    unfold scheduledPlacement Fit
    rw [if_pos hp]
    cases hf : s.firstFit x.requires with
    | none => simp [hno]
    | some node => simp [hno, hr]
  · rw [scheduledPlacement_of_not_ready hr]
    exact ⟨Or.inl, fun h => h.resolve_right fun hc => hr hc.1⟩

/-- **Who runs where after a recovery.** -/
theorem runsOn_iff {N : NodeId → Prop} [DecidablePred N] (h : Recovered now N s s') :
    RunsOn s' t n ↔ ∃ x, s.tasks.get? t = some x ∧
      ((Orphan s now N t ∧ Fit s x n ∧ n ≠ "") ∨
        (¬ Orphan s now N t ∧ (x.placement = (.running, some n) ∨
          (x.status = .ready ∧ (∃ j, Orphan s now N j) ∧ Fit s x n)))) := by
  cases ht : s.tasks.get? t with
  | none =>
    refine iff_of_false (fun ⟨x', hx', _⟩ => ?_) (fun ⟨x, hx, _⟩ => by cases hx)
    rw [h.tasks.absent t ht] at hx'
    cases hx'
  | some x =>
    obtain ⟨x', hx', -, hp⟩ := h.tasks.present t x ht
    have hruns : RunsOn s' t n ↔ afterReschedule (Orphan s now N) s t x = (.running, some n) := by
      rw [← hp]
      exact ⟨fun ⟨y, hy, hr⟩ => by rw [hx'] at hy; cases hy; exact hr, fun hr => ⟨x', hx', hr⟩⟩
    simp only [hruns, Option.some.injEq, exists_eq_left']
    by_cases ho : Orphan s now N t
    · rw [afterReschedule_of_mem ho, settledPlacement_eq_running]
      simp [ho]
    · by_cases he : ∃ j, Orphan s now N j
      · obtain ⟨j, hj⟩ := id he
        rw [afterReschedule_of_not_mem ho hj, scheduledPlacement_eq_running]
        simp [ho, he]
      · rw [afterReschedule_of_empty he]
        simp [ho, he]

/-! ### The node that is recovered -/

/-- Recovery of `n` reaches every task that runs there and has somewhere else to put
what it moves: a task running on `n` has a live lease on `n`; no task with a live
lease on `n` fits `n` first (an empty node id aside, which the rescheduler takes for
no assignment); and if there is such a task, no other ready task fits `n` first. -/
structure NothingLeft (s : ClusterState) (now : Time) (n : NodeId) : Prop where
  reached : ∀ t, RunsOn s t n → Orphan s now (· = n) t
  elsewhere : ∀ t x, s.tasks.get? t = some x → Orphan s now (· = n) t → Fit s x n → n = ""
  others : ∀ t x, s.tasks.get? t = some x → x.status = .ready → ¬ Orphan s now (· = n) t →
    (∃ j, Orphan s now (· = n) j) → ¬ Fit s x n

/-- **Recovery of a node.**  After `trigger_recovery(n)` no task is running with
`assigned_to = n` exactly when `NothingLeft` held before. -/
theorem nothing_left_on_node (m : RecoveryManager) (s : ClusterState) (now : Time) (n : NodeId) :
    (∀ t, ¬ RunsOn (m.triggerRecovery s now n).2.2 t n) ↔ NothingLeft s now n := by
  have h := recovered_triggerRecovery m s now n
  refine ⟨?_, ?_⟩
  · intro hno
    refine ⟨fun t hr => ?_, fun t x hx ho hf => ?_, fun t x hx hr ho he hf => ?_⟩
    · obtain ⟨x, hx, hp⟩ := hr
      by_contra ho
      exact hno t ((runsOn_iff h).mpr ⟨x, hx, Or.inr ⟨ho, Or.inl hp⟩⟩)
    · by_contra hne
      exact hno t ((runsOn_iff h).mpr ⟨x, hx, Or.inl ⟨ho, hf, hne⟩⟩)
    · exact hno t ((runsOn_iff h).mpr ⟨x, hx, Or.inr ⟨ho, Or.inr ⟨hr, he, hf⟩⟩⟩)
  · intro hc t hr
    obtain ⟨x, hx, ⟨ho, hf, hne⟩ | ⟨ho, hp | ⟨hst, he, hf⟩⟩⟩ := (runsOn_iff h).mp hr
    · exact hne (hc.elsewhere t x hx ho hf)
    · exact ho (hc.reached t ⟨x, hx, hp⟩)
    · exact hc.others t x hx hst ho he hf

/-- A node joins, a task is submitted and the scheduler starts it there, without a
lease; the node goes offline and is recovered.  The task still runs on it. -/
theorem stranded_task :
    let c := exec Cluster.step Cluster.init
      [(0, .registerNode { id := "n1", name := "worker", lastHeartbeat := ⟨0, none⟩ }),
        (1, .request (.submit "a" "build" [] 3)), (2, .request .trigger),
        (3, .setNodeStatus "n1" .offline)]
    RunsOn (c.recovery.triggerRecovery c.state 4 "n1").2.2 "task_a" "n1" := by
  decide

/-! ### Leases that have run out -/

/-- `t` has a lease on `n`, whatever its status, that has run out. -/
def RunOut (s : ClusterState) (now : Time) (t : TaskId) (n : NodeId) : Prop :=
  ∃ l ∈ s.leases.rows, l.taskId = t ∧ l.nodeId = n ∧ l.expiresAt ≤ now

/-- `t` has a live lease. -/
def HasLive (s : ClusterState) (now : Time) (t : TaskId) : Prop :=
  ∃ l ∈ s.leases.rows, l.taskId = t ∧ l.live now

instance : Decidable (RunOut s now t n) := by unfold RunOut; infer_instance

instance : Decidable (HasLive s now t) := by unfold HasLive; infer_instance

theorem Recovered.mem_rows {N : NodeId → Prop} [DecidablePred N] (h : Recovered now N s s')
    {l' : Lease} : l' ∈ s'.leases.rows ↔ ∃ l ∈ s.leases.rows, recoveredLease now N l = l' := by
  rw [Table.mem_rows_iff, h.leases, Option.map_eq_some_iff]
  refine ⟨?_, ?_⟩
  · rintro ⟨l, hl, rfl⟩
    exact ⟨l, Table.mem_of_get? hl, rfl⟩
  · rintro ⟨l, hl, rfl⟩
    exact ⟨l, by rw [key_lease, recoveredLease_id]; exact Table.get?_of_mem hl, rfl⟩

theorem runOut_recovered {N : NodeId → Prop} [DecidablePred N] (h : Recovered now N s s') :
    RunOut s' now t n ↔ RunOut s now t n := by
  have hexp : ∀ l, (recoveredLease now N l).expiresAt = l.expiresAt := by
    intro l
    unfold recoveredLease
    split
    · rfl
    · exact l.aged_expiresAt now
  refine ⟨?_, ?_⟩
  · rintro ⟨l', hl', ht, hn, he⟩
    obtain ⟨l, hl, rfl⟩ := h.mem_rows.mp hl'
    exact ⟨l, hl, (recoveredLease_taskId l).symm.trans ht, (recoveredLease_nodeId l).symm.trans hn,
      hexp l ▸ he⟩
  · rintro ⟨l, hl, ht, hn, he⟩
    exact ⟨_, h.mem_rows.mpr ⟨l, hl, rfl⟩, (recoveredLease_taskId l).trans ht,
      (recoveredLease_nodeId l).trans hn, (hexp l).symm ▸ he⟩

/-- The live leases after a recovery are those on the other nodes. -/
theorem hasLive_recovered {N : NodeId → Prop} [DecidablePred N] (h : Recovered now N s s') :
    HasLive s' now t ↔ ∃ l ∈ s.leases.rows, l.taskId = t ∧ l.live now ∧ ¬ N l.nodeId := by
  refine ⟨?_, ?_⟩
  · rintro ⟨l', hl', ht, hlive⟩
    obtain ⟨l, hl, rfl⟩ := h.mem_rows.mp hl'
    exact ⟨l, hl, (recoveredLease_taskId l).symm.trans ht, (live_recoveredLease l).mp hlive⟩
  · rintro ⟨l, hl, ht, hlive⟩
    exact ⟨_, h.mem_rows.mpr ⟨l, hl, rfl⟩, (recoveredLease_taskId l).trans ht,
      (live_recoveredLease l).mpr hlive⟩

/-- No task runs on a node on the strength of a lease there that has run out. -/
def ExpiredFreed (s : ClusterState) (now : Time) : Prop :=
  ∀ t n, RunsOn s t n → RunOut s now t n → HasLive s now t

/-- When `detect_expired_leases` does its work.  A task running where its lease has run
out has a live lease as well; so does a ready task whose first fit is such a node, if
some task is rescheduled at all; and a rescheduled task whose first fit is such a node
has one on a node without expired leases. -/
structure ExpiryHandled (s : ClusterState) (now : Time) : Prop where
  running : ∀ t n, RunsOn s t n → RunOut s now t n → HasLive s now t
  ready : (∃ j, Orphan s now (ExpiredNode s now) j) → ∀ t x n, s.tasks.get? t = some x →
    x.status = .ready → Fit s x n → RunOut s now t n → HasLive s now t
  rescheduled : ∀ t x n, s.tasks.get? t = some x → Orphan s now (ExpiredNode s now) t →
    Fit s x n → n ≠ "" → RunOut s now t n →
    ∃ l ∈ s.leases.rows, l.taskId = t ∧ l.live now ∧ ¬ ExpiredNode s now l.nodeId

/-- **Expired leases.**  After `detect_expired_leases` no task is running on a node on
the strength of a run-out lease exactly when `ExpiryHandled` held before. -/
theorem expired_leases_freed (order : SetOrder) (m : RecoveryManager) (s : ClusterState)
    (now : Time) :
    ExpiredFreed (m.detectExpiredLeases order s now).2.2 now ↔ ExpiryHandled s now := by
  have h := recovered_detectExpiredLeases order m s now
  -- a task that is no orphan keeps its live leases, being on other nodes
  have hkeep : ∀ t, (s.tasks.get? t).isSome → ¬ Orphan s now (ExpiredNode s now) t →
      (HasLive s now t ↔
        ∃ l ∈ s.leases.rows, l.taskId = t ∧ l.live now ∧ ¬ ExpiredNode s now l.nodeId) := by
    intro t hs ho
    refine ⟨?_, ?_⟩
    · rintro ⟨l, hl, ht, hlive⟩
      exact ⟨l, hl, ht, hlive, fun hn => ho ⟨⟨l, hl, hlive, hn, ht⟩, hs⟩⟩
    · rintro ⟨l, hl, ht, hlive, -⟩
      exact ⟨l, hl, ht, hlive⟩
  have horphan : ∀ t, Orphan s now (ExpiredNode s now) t → HasLive s now t :=
    fun t ⟨⟨l, hl, hlive, _, ht⟩, _⟩ => ⟨l, hl, ht, hlive⟩
  refine ⟨?_, ?_⟩
  · intro hfree
    have hafter : ∀ t n, RunsOn (m.detectExpiredLeases order s now).2.2 t n →
        RunOut s now t n →
        ∃ l ∈ s.leases.rows, l.taskId = t ∧ l.live now ∧ ¬ ExpiredNode s now l.nodeId :=
      fun t n hr ho => (hasLive_recovered h).mp (hfree t n hr ((runOut_recovered h).mpr ho))
    refine ⟨fun t n hr hout => ?_, fun he t x n hx hst hf hout => ?_,
      fun t x n hx ho hf hne hout => ?_⟩
    · obtain ⟨x, hx, hp⟩ := hr
      by_cases ho : Orphan s now (ExpiredNode s now) t
      · exact horphan t ho
      · exact (hkeep t (by rw [hx]; rfl) ho).mpr
          (hafter t n ((runsOn_iff h).mpr ⟨x, hx, Or.inr ⟨ho, Or.inl hp⟩⟩) hout)
    · by_cases ho : Orphan s now (ExpiredNode s now) t
      · exact horphan t ho
      · exact (hkeep t (by rw [hx]; rfl) ho).mpr
          (hafter t n ((runsOn_iff h).mpr ⟨x, hx, Or.inr ⟨ho, Or.inr ⟨hst, he, hf⟩⟩⟩) hout)
    · exact hafter t n ((runsOn_iff h).mpr ⟨x, hx, Or.inl ⟨ho, hf, hne⟩⟩) hout
  · intro hc t n hr hout
    rw [runOut_recovered h] at hout
    rw [hasLive_recovered h]
    obtain ⟨x, hx, ⟨ho, hf, hne⟩ | ⟨ho, hp | ⟨hst, he, hf⟩⟩⟩ := (runsOn_iff h).mp hr
    · exact hc.rescheduled t x n hx ho hf hne hout
    · exact (hkeep t (by rw [hx]; rfl) ho).mp (hc.running t n ⟨x, hx, hp⟩ hout)
    · exact (hkeep t (by rw [hx]; rfl) ho).mp (hc.ready he t x n hx hst hf hout)

/-- A node claims a task; its lease of a minute runs out and is detected.  The task
still runs on the node, with no other lease. -/
theorem unfreed_task :
    let c := exec Cluster.step Cluster.init
      [(0, .registerNode { id := "n1", name := "worker", lastHeartbeat := ⟨0, none⟩ }),
        (1, .request (.submit "a" "build" [] 3)), (2, .request (.claim "x" "task_a" "n1"))]
    ¬ ExpiredFreed (c.recovery.detectExpiredLeases SetOrder.dedup c.state (seconds 61)).2.2
      (seconds 61) := by
  intro c h
  exact absurd (h "task_a" "n1" (by decide) (by decide)) (by decide)

end HermesCluster.ClusterState
