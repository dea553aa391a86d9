import HermesCluster.Lib.Run
import HermesCluster.Agreement.Requests

/-!
# When the task table and the lease table agree

`Matched.recovered` adds the recoveries that start no task to the requests, and
`matched_step` covers every step of a cluster.  `tables_agree` is the result for
runs: along a run of safe steps the two tables agree in every state.
-/

namespace HermesCluster

open ClusterState Run

namespace Matched

variable {r : TaskRouter} {now : Time} {t : TaskId} {n : NodeId}

/-! ### Recoveries -/

/-- Where tasks run after a recovery that starts none: where they did, the orphans
apart. -/
theorem runsOn_recoverySafe {s s' : ClusterState} {N : NodeId → Prop} [DecidablePred N]
    (hrec : Recovered now N s s') (hs : RecoverySafe s now N) :
    RunsOn s' t n ↔ RunsOn s t n ∧ ¬ Orphan s now N t := by
  rw [runsOn_iff hrec]
  refine ⟨?_, ?_⟩
  · rintro ⟨x, hx, ⟨ho, hf, hne⟩ | ⟨ho, hp | ⟨hr, he, hf⟩⟩⟩
    · exact absurd (hs.orphans t x n hx ho hf) hne
    · exact ⟨⟨x, hx, hp⟩, ho⟩
    · obtain ⟨node, hnode, -⟩ := hf
      rw [hs.others t x hx ho hr he] at hnode
      cases hnode
  · rintro ⟨⟨x, hx, hp⟩, ho⟩
    exact ⟨x, hx, Or.inr ⟨ho, Or.inl hp⟩⟩

/-- The active leases after a recovery: those on other nodes, when none has run out. -/
theorem activeLease_recovered {s s' : ClusterState} {N : NodeId → Prop} [DecidablePred N]
    {k : LeaseId} (hrec : Recovered now N s s') (hs : NoneLapsed s now) :
    ActiveLease s' k t n ↔ ActiveLease s k t n ∧ ¬ N n := by
  rw [ActiveLease, hrec.leases]
  have hstatus : ∀ l, s.leases.get? k = some l → ((recoveredLease now N l).status = .active ↔
      l.status = .active ∧ ¬ N l.nodeId) := by
    intro l hl
    have hlive : l.status = .active → l.live now := by
      intro hact
      refine Lease.live_iff.mpr ⟨hact, lt_of_not_ge fun hle => ?_⟩
      exact hs l (Table.mem_of_get? hl) (Lease.lapsed_iff.mpr ⟨hact, hle⟩)
    unfold recoveredLease
    by_cases hc : l.live now ∧ N l.nodeId
    · rw [if_pos hc]
      exact iff_of_false (fun h => by cases h) fun h => h.2 hc.2
    · rw [if_neg hc, Lease.aged_status_active]
      exact ⟨fun h => ⟨(Lease.live_iff.mp h).1, fun hN => hc ⟨h, hN⟩⟩, fun h => hlive h.1⟩
  refine ⟨?_, ?_⟩
  · rintro ⟨l', hl', hact, ht, hn⟩
    obtain ⟨l, hl, rfl⟩ := Option.map_eq_some_iff.mp hl'
    rw [recoveredLease_taskId] at ht
    rw [recoveredLease_nodeId] at hn
    obtain ⟨hact, hN⟩ := (hstatus l hl).mp hact
    exact ⟨⟨l, hl, hact, ht, hn⟩, hn ▸ hN⟩
  · rintro ⟨⟨l, hl, hact, ht, hn⟩, hN⟩
    refine ⟨recoveredLease now N l, by rw [hl]; rfl, ?_, ?_, ?_⟩
    · exact (hstatus l hl).mpr ⟨hact, hn ▸ hN⟩
    · rw [recoveredLease_taskId]; exact ht
    · rw [recoveredLease_nodeId]; exact hn

/-- **Recoveries.**  A recovery that starts no task keeps the two tables together. -/
theorem recovered {r' : TaskRouter} {N : NodeId → Prop} [DecidablePred N] (h : Matched r)
    (hm : r'.leaseManager.isSome) (hidx : IndexOk r'.state)
    (hrec : Recovered now N r.state r'.state) (hs : RecoverySafe r.state now N) : Matched r' := by
  have hact : ∀ {k t n}, ActiveLease r'.state k t n ↔ ActiveLease r.state k t n ∧ ¬ N n :=
    activeLease_recovered hrec hs.noneLapsed
  refine ⟨hm, fun t k k' n n' hk hk' => ?_, fun t n => ?_, hidx, hrec.tasks.absent "" h.taskIds, ?_⟩
  · exact h.single t k k' n n' (hact.mp hk).1 (hact.mp hk').1
  · rw [runsOn_recoverySafe hrec hs]
    simp only [hact]
    refine ⟨?_, ?_⟩
    · rintro ⟨hrun, ho⟩
      obtain ⟨k, hk⟩ := (h.runs t n).mp hrun
      refine ⟨k, hk, fun hN => ho ?_⟩
      obtain ⟨l, hl, hst, ht, hn⟩ := hk
      obtain ⟨x, hx, -⟩ := hrun
      refine ⟨⟨l, Table.mem_of_get? hl, ?_, hn ▸ hN, ht⟩, by rw [hx]; rfl⟩
      refine Lease.live_iff.mpr ⟨hst, lt_of_not_ge fun hle => ?_⟩
      exact hs.noneLapsed l (Table.mem_of_get? hl) (Lease.lapsed_iff.mpr ⟨hst, hle⟩)
    · rintro ⟨k, hk, hN⟩
      refine ⟨(h.runs t n).mpr ⟨k, hk⟩, ?_⟩
      -- an orphan's lease would be the task's only one, and that is on `n`
      rintro ⟨⟨l, hl, hlive, hNl, ht⟩, -⟩
      have hl' := Table.get?_of_mem hl
      have hkl : k = l.id := h.single t k l.id n l.nodeId hk
        ⟨l, hl', (Lease.live_iff.mp hlive).1, ht, rfl⟩
      obtain ⟨l₁, hl₁, -, -, hn⟩ := hk
      rw [hkl, ← key_lease, hl'] at hl₁
      obtain rfl := Option.some.inj hl₁
      exact hN (hn ▸ hNl)
  · rw [hrec.leases, h.leaseIds]; rfl

end Matched

namespace ClusterState

variable {s : ClusterState} {now : Time}

/-! ### The index of leases -/

theorem indexOk_congr {s' : ClusterState} (h : IndexOk s) (hl : s'.leases = s.leases)
    (hi : s'.taskLeaseIndex = s.taskLeaseIndex) : IndexOk s' := by
  intro t e he
  rw [hi] at he
  rw [hl]
  exact h t e he

theorem indexOk_getActiveLeases (h : IndexOk s) : IndexOk (s.getActiveLeases now).2 := by
  intro t e he
  obtain ⟨l, hl, ht⟩ := h t e he
  refine ⟨l.aged now, ?_, (l.aged_taskId now).trans ht⟩
  refine (Table.get?_mapRows _ (Lease.aged now) (fun l => l.aged_id now) _).trans ?_
  rw [hl]; rfl

theorem indexOk_revokeAllForNode (h : IndexOk s) (now : Time) (n : NodeId) :
    IndexOk (Revoker.revokeAllForNode s now n).2 := by
  refine List.foldlRecOn (motive := fun acc : List TaskId × ClusterState => IndexOk acc.2) _ _
    (indexOk_getActiveLeases h) fun acc hacc a _ => ?_
  rw [Revoker.revokeOne]
  split
  · simp only
    split
    · exact indexOk_congr (indexOk_revokeLease hacc a.id) rfl rfl
    · exact indexOk_revokeLease hacc a.id
  · exact hacc

theorem indexOk_triggerRecovery (h : IndexOk s) (m : RecoveryManager) (n : NodeId) :
    IndexOk (m.triggerRecovery s now n).2.2 := by
  have hrev := indexOk_revokeAllForNode h now n
  unfold RecoveryManager.triggerRecovery
  simp only
  split
  · have hsame := sameLeases_rescheduleOrphaned now
      (Revoker.revokeAllForNode s now n).1 (0, (Revoker.revokeAllForNode s now n).2)
    exact indexOk_congr hrev hsame.leases hsame.taskLeaseIndex
  · exact indexOk_congr hrev rfl rfl

theorem indexOk_detectExpiredLeases (h : IndexOk s) (m : RecoveryManager) (order : SetOrder) :
    IndexOk (m.detectExpiredLeases order s now).2.2 := by
  exact List.foldlRecOn (motive := fun acc : RecoveryManager × ClusterState => IndexOk acc.2) _ _
    (indexOk_getActiveLeases h) fun acc hacc n _ => indexOk_triggerRecovery hacc acc.1 n

end ClusterState

/-! ### Runs -/

/-- **Step lemma.** -/
theorem matched_step (c : Cluster) (op : Time × ClusterOp) (h : Matched c.router)
    (hs : AgreeSafe c op) : Matched (c.step op).router := by
  obtain ⟨now, op⟩ := op
  cases op with
  | request req => exact h.request req hs
  | scanLeases =>
    have hsafe : RecoverySafe c.state now (fun _ => False) :=
      ⟨hs, fun t x n _ ho => absurd ho fun ⟨⟨_, _, _, hF, _⟩, _⟩ => hF,
        fun t x _ _ _ he => absurd he fun ⟨_, ⟨_, _, _, hF, _⟩, _⟩ => hF⟩
    exact h.recovered h.manager (indexOk_getActiveLeases h.index)
      (recovered_getActiveLeases c.state now) hsafe
  | triggerRecovery n =>
    exact h.recovered h.manager (indexOk_triggerRecovery h.index c.recovery n)
      (recovered_triggerRecovery c.recovery c.state now n) hs
  | detectExpiredLeases order =>
    exact h.recovered h.manager (indexOk_detectExpiredLeases h.index c.recovery order)
      (recovered_detectExpiredLeases order c.recovery c.state now) hs
  | _ => exact h.of_tasks h.manager rfl rfl (fun _ _ => Iff.rfl) h.taskIds

/-- **The tables agree.**  From an empty store with any nodes, in every state of a run
of safe steps: a task is running with `assigned_to = n` exactly when exactly one lease
of it is active and that lease is on `n`. -/
theorem tables_agree (nodes : Table Node) (run : List (Time × ClusterOp))
    (hsafe : EachStep Cluster.step AgreeSafe (Cluster.initWith nodes) run) :
    Always Cluster.step (fun c => Agree c.state) (Cluster.initWith nodes) run := by
  refine Always.imp (always_of_eachStep (I := fun c => Matched c.router) (C := AgreeSafe)
    matched_step run _ ?_ hsafe) fun c h => h.agree
  refine ⟨rfl, fun t k k' n n' hk _ => ?_, fun t n => ?_, fun t e he => ?_, rfl, rfl⟩
  · obtain ⟨l, hl, -⟩ := hk
    cases hl
  · refine iff_of_false ?_ ?_
    · rintro ⟨x, hx, -⟩
      cases hx
    · rintro ⟨k, l, hl, -⟩
      cases hl
  · cases he

/-- A run of safe steps: a task is submitted, claimed and completed. -/
theorem tables_agree_example :
    Agree (exec Cluster.step Cluster.init [(1, .request (.submit "a" "build" [] 3)),
      (2, .request (.claim "x" "task_a" "n1")), (3, .request (.complete "task_a"))]).state := by
  refine tables_agree Table.empty _ ?_ _ (List.prefix_refl _)
  simp only [eachStep_cons]
  refine ⟨rfl, fun _ => ⟨by decide, ?_, by decide⟩, fun _ k x _ _ _ => rfl, eachStep_nil _⟩
  intro m hm
  cases hm
  decide

/-- A claimed task fails and keeps its lease; a scheduled task runs without one. -/
theorem tables_disagree :
    ¬ Agree (exec Cluster.step Cluster.init [(1, .request (.submit "a" "build" [] 3)),
      (2, .request (.claim "x" "task_a" "n1")),
      (3, .request (.fail "task_a" (some "crashed")))]).state ∧
    ¬ Agree (exec Cluster.step (Cluster.initWith TaskRouter.oneNode)
      [(1, .request (.submit "a" "build" [] 3)), (2, .request .trigger)]).state := by
  refine ⟨?_, ?_⟩
  · intro h
    refine absurd ((h "task_a" "n1").mpr ⟨⟨"lease_x", "task_a", "n1", 2, 60000002, .active⟩,
      by decide, ⟨rfl, rfl⟩, rfl, ?_⟩) (by decide)
    decide
  · intro h
    obtain ⟨l, hl, -⟩ := (h "task_a" "n1").mp (by decide)
    revert hl
    exact List.not_mem_nil

end HermesCluster
