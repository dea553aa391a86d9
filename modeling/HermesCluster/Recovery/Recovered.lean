import HermesCluster.Recovery.Rescheduled
import HermesCluster.Lease.LeaseSpec

/-!
# What a recovery does

`Recovered now N s s'` says that the nodes in `N` were recovered at `now`, again a
relation closed under doing one thing after another.  Their live leases are revoked,
the leases that had run out are expired, and the existing tasks of the live ones, the
orphans, are rescheduled.

`recovered_triggerRecovery` and `recovered_detectExpiredLeases` say which nodes the
two entry points of `RecoveryManager` recover; the order in which the second goes
through its set of nodes does not matter.
-/

namespace HermesCluster.ClusterState

variable {s s' s₁ s₂ : ClusterState} {now : Time} {k t : TaskId} {n : NodeId}

/-! ### `Revoker` -/

section Revoker

open Revoker

/-- A lease of another node is passed over. -/
theorem revokeOne_of_ne {acc : List TaskId × ClusterState} {l : Lease} (hn : l.nodeId ≠ n) :
    revokeOne now n acc l = acc := if_neg hn

/-- A lease of the node that is in the table is revoked and its task listed. -/
theorem revokeOne_of_eq (now : Time) {acc : List TaskId × ClusterState} {l : Lease}
    (hn : l.nodeId = n) (hl : (acc.2.leases.get? l.id).isSome) :
    (revokeOne now n acc l).1 = acc.1 ++ [l.taskId] ∧
      (revokeOne now n acc l).2.tasks = acc.2.tasks ∧
      (revokeOne now n acc l).2.nodes = acc.2.nodes ∧
      ∀ k, (revokeOne now n acc l).2.leases.get? k =
        if k = l.id then (acc.2.leases.get? k).map Lease.revoked else acc.2.leases.get? k := by
  obtain ⟨y, hy⟩ := Option.isSome_iff_exists.mp hl
  have hone : (revokeOne now n acc l).1 = acc.1 ++ [l.taskId] ∧
      (revokeOne now n acc l).2.tasks = acc.2.tasks ∧
      (revokeOne now n acc l).2.nodes = acc.2.nodes ∧
      (revokeOne now n acc l).2.leases = (acc.2.revokeLease l.id).2.leases := by
    simp only [revokeOne, if_pos hn, ClusterState.revokeLease, hy]
    exact ⟨rfl, rfl, rfl, rfl⟩
  refine ⟨hone.1, hone.2.1, hone.2.2.1, fun k => ?_⟩
  rw [hone.2.2.2, get?_revokeLease]

/-- The loop of `revoke_all_for_node` over leases that are all in the table. -/
theorem foldl_revokeOne (now : Time) (n : NodeId) : ∀ (l : List Lease)
    (acc : List TaskId × ClusterState), (∀ x ∈ l, (acc.2.leases.get? x.id).isSome) →
    (l.foldl (revokeOne now n) acc).1 =
      acc.1 ++ (l.filter (fun x => x.nodeId = n)).map Lease.taskId ∧
    (l.foldl (revokeOne now n) acc).2.tasks = acc.2.tasks ∧
    (l.foldl (revokeOne now n) acc).2.nodes = acc.2.nodes ∧
    ∀ k, (l.foldl (revokeOne now n) acc).2.leases.get? k =
      if ∃ x ∈ l, x.id = k ∧ x.nodeId = n then (acc.2.leases.get? k).map Lease.revoked
      else acc.2.leases.get? k := by
  intro l
  induction l with
  | nil => intro acc _; simp
  | cons a l ih =>
    intro acc hmem
    rw [List.foldl_cons]
    by_cases hn : a.nodeId = n
    · obtain ⟨h1, h2, h3, hget⟩ := revokeOne_of_eq now hn (hmem a List.mem_cons_self)
      obtain ⟨g1, g2, g3, g4⟩ := ih (revokeOne now n acc a) (fun x hx => by
        rw [hget]
        have := hmem x (List.mem_cons_of_mem a hx)
        split
        · rwa [Option.isSome_map]
        · exact this)
      refine ⟨?_, g2.trans h2, g3.trans h3, fun k => ?_⟩
      · rw [g1, h1, List.filter_cons_of_pos (by simpa using hn), List.map_cons,
          List.append_assoc]; rfl
      · rw [g4, hget]
        by_cases hk : k = a.id
        · subst hk
          have hyes : ∃ x ∈ a :: l, x.id = a.id ∧ x.nodeId = n := ⟨a, List.mem_cons_self, rfl, hn⟩
          rw [if_pos rfl, if_pos hyes, Option.map_map]
          have hrr : Lease.revoked ∘ Lease.revoked = Lease.revoked := rfl
          rw [hrr, ite_self]
        · have hiff : (∃ x ∈ a :: l, x.id = k ∧ x.nodeId = n) ↔
              ∃ x ∈ l, x.id = k ∧ x.nodeId = n := by
            simp [show ¬ a.id = k from fun e => hk e.symm]
          rw [if_neg hk]
          simp only [hiff]
    · obtain ⟨g1, g2, g3, g4⟩ := ih acc fun x hx => hmem x (List.mem_cons_of_mem a hx)
      rw [revokeOne_of_ne hn]
      refine ⟨?_, g2, g3, fun k => ?_⟩
      · rw [g1, List.filter_cons_of_neg (by simpa using hn)]
      · rw [g4]
        have hiff : (∃ x ∈ a :: l, x.id = k ∧ x.nodeId = n) ↔
            ∃ x ∈ l, x.id = k ∧ x.nodeId = n := by
          simp [hn]
        simp only [hiff]

/-- What a recovery of the nodes `N` makes of a lease. -/
def recoveredLease (now : Time) (N : NodeId → Prop) [DecidablePred N] (l : Lease) : Lease :=
  if l.live now ∧ N l.nodeId then l.revoked else l.aged now

/-- The lease under `k` is the only one with this id. -/
theorem exists_live_on_iff {l : Lease} (hk : s.leases.get? k = some l) :
    (∃ x ∈ s.leases.rows.filter (·.live now), x.id = k ∧ x.nodeId = n) ↔
      (l.live now ∧ l.nodeId = n) := by
  refine ⟨?_, ?_⟩
  · rintro ⟨x, hx, rfl, hn⟩
    obtain ⟨hx, hlive⟩ := List.mem_filter.mp hx
    have hget := Table.get?_of_mem hx
    rw [key_lease, hk] at hget
    obtain rfl := Option.some.inj hget
    exact ⟨hlive, hn⟩
  · rintro ⟨hlive, hn⟩
    exact ⟨l, List.mem_filter.mpr ⟨Table.mem_of_get? hk, hlive⟩, Table.key_of_get? hk, hn⟩

/-- **`revoke_all_for_node`** lists the tasks of the live leases on the node, revokes
these leases, and marks those that have run out. -/
theorem revokeAllForNode_spec (s : ClusterState) (now : Time) (n : NodeId) :
    (∀ t, t ∈ (revokeAllForNode s now n).1 ↔
      ∃ l ∈ s.leases.rows, l.live now ∧ l.nodeId = n ∧ l.taskId = t) ∧
    (revokeAllForNode s now n).2.tasks = s.tasks ∧
    (revokeAllForNode s now n).2.nodes = s.nodes ∧
    ∀ k, (revokeAllForNode s now n).2.leases.get? k =
      (s.leases.get? k).map (recoveredLease now (· = n)) := by
  have hscan : ∀ k, (s.getActiveLeases now).2.leases.get? k =
      (s.leases.get? k).map (Lease.aged now) :=
    fun k => Table.get?_mapRows _ (Lease.aged now) (fun l => l.aged_id now) k
  obtain ⟨h1, h2, h3, h4⟩ := foldl_revokeOne now n (s.leases.rows.filter (·.live now))
    ([], (s.getActiveLeases now).2) (fun x hx => by
      rw [hscan, Option.isSome_map]
      have := Table.get?_of_mem (List.mem_filter.mp hx).1
      rw [key_lease] at this
      rw [this]; rfl)
  refine ⟨fun t => ?_, h2, h3, fun k => ?_⟩
  · change t ∈ (List.foldl (revokeOne now n) ([], (s.getActiveLeases now).2)
      (s.leases.rows.filter (·.live now))).1 ↔ _
    rw [h1]
    simp only [List.nil_append, List.mem_map, List.mem_filter, decide_eq_true_eq]
    exact ⟨fun ⟨l, ⟨⟨hl, hlive⟩, hn⟩, ht⟩ => ⟨l, hl, hlive, hn, ht⟩,
      fun ⟨l, hl, hlive, hn, ht⟩ => ⟨l, ⟨⟨hl, hlive⟩, hn⟩, ht⟩⟩
  · refine (h4 k).trans ?_
    rw [hscan]
    cases hk : s.leases.get? k with
    | none => simp
    | some l =>
      by_cases h : l.live now ∧ l.nodeId = n
      · rw [if_pos ((exists_live_on_iff hk).mpr h), Option.map_some, Option.map_some,
          Option.map_some, recoveredLease, if_pos h]
        rw [Lease.aged, if_neg (Lease.not_lapsed_of_live h.1)]
      · rw [if_neg (fun hc => h ((exists_live_on_iff hk).mp hc)), Option.map_some,
          Option.map_some, recoveredLease, if_neg h]

end Revoker

/-! ### `RecoveryManager` -/

/-- `k` is an existing task with a live lease on a node in `N`. -/
def Orphan (s : ClusterState) (now : Time) (N : NodeId → Prop) (k : TaskId) : Prop :=
  (∃ l ∈ s.leases.rows, l.live now ∧ N l.nodeId ∧ l.taskId = k) ∧ (s.tasks.get? k).isSome

/-- The nodes in `N` were recovered at `now`. -/
structure Recovered (now : Time) (N : NodeId → Prop) [DecidablePred N] (s s' : ClusterState) :
    Prop where
  leases : ∀ k, s'.leases.get? k = (s.leases.get? k).map (recoveredLease now N)
  tasks : Rescheduled (Orphan s now N) s s'

theorem recoveredLease_id {N : NodeId → Prop} [DecidablePred N] (l : Lease) :
    (recoveredLease now N l).id = l.id := by
  unfold recoveredLease; split
  · rfl
  · exact l.aged_id now

theorem recoveredLease_taskId {N : NodeId → Prop} [DecidablePred N] (l : Lease) :
    (recoveredLease now N l).taskId = l.taskId := by
  unfold recoveredLease; split
  · rfl
  · exact l.aged_taskId now

theorem recoveredLease_nodeId {N : NodeId → Prop} [DecidablePred N] (l : Lease) :
    (recoveredLease now N l).nodeId = l.nodeId := by
  unfold recoveredLease; split
  · rfl
  · exact l.aged_nodeId now

/-- The live leases left are those on other nodes. -/
theorem live_recoveredLease {N : NodeId → Prop} [DecidablePred N] (l : Lease) :
    (recoveredLease now N l).live now ↔ l.live now ∧ ¬ N l.nodeId := by
  unfold recoveredLease
  by_cases h : l.live now ∧ N l.nodeId
  · rw [if_pos h]
    exact iff_of_false (Lease.not_live_revoked now l) fun hc => hc.2 h.2
  · rw [if_neg h, Lease.live_aged]
    exact ⟨fun hl => ⟨hl, fun hn => h ⟨hl, hn⟩⟩, fun hl => hl.1⟩

theorem recoveredLease_comp {N₁ N₂ : NodeId → Prop} [DecidablePred N₁] [DecidablePred N₂]
    (l : Lease) : recoveredLease now N₂ (recoveredLease now N₁ l) =
      recoveredLease now (fun n => N₁ n ∨ N₂ n) l := by
  by_cases h₁ : l.live now ∧ N₁ l.nodeId
  · have hr : recoveredLease now N₁ l = l.revoked := if_pos h₁
    have hrr : recoveredLease now N₂ l.revoked = l.revoked := by
      rw [recoveredLease, if_neg (fun hc => Lease.not_live_revoked now l hc.1), Lease.aged, if_neg]
      rw [Lease.lapsed_iff]
      intro hc; cases hc.1
    rw [hr, hrr]
    exact (if_pos ⟨h₁.1, Or.inl h₁.2⟩).symm
  · have ha : recoveredLease now N₁ l = l.aged now := if_neg h₁
    by_cases h₂ : l.live now ∧ N₂ l.nodeId
    · have hl : l.aged now = l := by
        rw [Lease.aged, if_neg (Lease.not_lapsed_of_live h₂.1)]
      rw [ha, hl, recoveredLease, if_pos h₂]
      exact (if_pos ⟨h₂.1, Or.inr h₂.2⟩).symm
    · have hno : ¬ (l.live now ∧ (N₁ l.nodeId ∨ N₂ l.nodeId)) :=
        fun hc => hc.2.elim (fun h => h₁ ⟨hc.1, h⟩) (fun h => h₂ ⟨hc.1, h⟩)
      have haa : (l.aged now).aged now = l.aged now := by
        rw [Lease.aged, if_neg]
        rw [Lease.lapsed_iff]
        intro hc
        have hlt := (Lease.live_iff.mp (Lease.aged_status_active.mp hc.1)).2
        rw [Lease.aged_expiresAt] at hc
        exact absurd hc.2 (not_le.mpr hlt)
      rw [ha, recoveredLease, Lease.live_aged, Lease.aged_nodeId, if_neg h₂, haa]
      exact (if_neg hno).symm

/-- Recovering nodes one after the other recovers them all. -/
theorem Recovered.trans {N₁ N₂ : NodeId → Prop} [DecidablePred N₁] [DecidablePred N₂]
    (h₁ : Recovered now N₁ s s₁) (h₂ : Recovered now N₂ s₁ s₂) :
    Recovered now (fun n => N₁ n ∨ N₂ n) s s₂ := by
  refine ⟨fun k => ?_, (h₁.tasks.trans h₂.tasks).congr fun k => ?_⟩
  · rw [h₂.leases, h₁.leases, Option.map_map]
    exact congrArg (fun f => (s.leases.get? k).map f) (funext fun l => recoveredLease_comp l)
  · rw [Orphan, Orphan, Orphan, h₁.tasks.isSome]
    refine ⟨?_, ?_⟩
    · rintro (⟨⟨l, hl, hlive, hn, ht⟩, hs⟩ | ⟨⟨l', hl', hlive, hn, ht⟩, hs⟩)
      · exact ⟨⟨l, hl, hlive, Or.inl hn, ht⟩, hs⟩
      · rw [Table.mem_rows_iff, h₁.leases, Option.map_eq_some_iff] at hl'
        obtain ⟨l, hl, rfl⟩ := hl'
        rw [live_recoveredLease] at hlive
        rw [recoveredLease_nodeId] at hn
        rw [recoveredLease_taskId] at ht
        exact ⟨⟨l, Table.mem_of_get? hl, hlive.1, Or.inr hn, ht⟩, hs⟩
    · rintro ⟨⟨l, hl, hlive, hn, ht⟩, hs⟩
      by_cases hn₁ : N₁ l.nodeId
      · exact Or.inl ⟨⟨l, hl, hlive, hn₁, ht⟩, hs⟩
      · have hmem : recoveredLease now N₁ l ∈ s₁.leases.rows := by
          rw [Table.mem_rows_iff, h₁.leases, key_lease, recoveredLease_id,
            ← key_lease, Table.get?_of_mem hl]; rfl
        refine Or.inr ⟨⟨_, hmem, (live_recoveredLease l).mpr ⟨hlive, hn₁⟩, ?_, ?_⟩, hs⟩
        · rw [recoveredLease_nodeId]; exact hn.resolve_left hn₁
        · rw [recoveredLease_taskId]; exact ht

theorem Recovered.congr {N N' : NodeId → Prop} [DecidablePred N] [DecidablePred N']
    (h : Recovered now N s s') (hn : ∀ n, N n ↔ N' n) : Recovered now N' s s' := by
  refine ⟨fun k => ?_, h.tasks.congr fun k => ?_⟩
  · rw [h.leases]
    refine congrArg (fun f => (s.leases.get? k).map f) (funext fun l => ?_)
    simp only [recoveredLease, hn]
  · simp only [Orphan, hn]

/-- A scan alone recovers no node. -/
theorem recovered_getActiveLeases (s : ClusterState) (now : Time) :
    Recovered now (fun _ => False) s (s.getActiveLeases now).2 := by
  have htasks : Rescheduled (fun _ => False) s (s.getActiveLeases now).2 :=
    Rescheduled.of_tasks_eq rfl rfl
  refine ⟨fun k => ?_, htasks.congr fun k => ?_⟩
  · refine (Table.get?_mapRows _ (Lease.aged now) (fun l => l.aged_id now) k).trans ?_
    refine congrArg (fun f => (s.leases.get? k).map f) (funext fun l => ?_)
    exact (if_neg (fun h => h.2)).symm
  · exact iff_of_false id fun ⟨⟨_, _, _, h, _⟩, _⟩ => h

/-- The leases are unchanged, and no lease callback was called. -/
structure SameLeases (s s' : ClusterState) : Prop where
  leases : s'.leases = s.leases
  taskLeaseIndex : s'.taskLeaseIndex = s.taskLeaseIndex
  leaseCallbackCalls : s'.leaseCallbackCalls = s.leaseCallbackCalls

theorem SameLeases.trans {s₁ s₂ s₃ : ClusterState} (h : SameLeases s₁ s₂)
    (g : SameLeases s₂ s₃) : SameLeases s₁ s₃ :=
  ⟨g.leases.trans h.leases, g.taskLeaseIndex.trans h.taskLeaseIndex,
    g.leaseCallbackCalls.trans h.leaseCallbackCalls⟩

theorem sameLeases_rescheduleOne (now : Time) (acc : Nat × ClusterState) (t : TaskId) :
    SameLeases acc.2 (Rescheduler.rescheduleOne now acc t).2 := by
  have hsame : SameButTasks (acc.2.unassignTask now t) (acc.2.retried now t) :=
    sameButTasks_schedulePending
  have hretried : SameLeases acc.2 (acc.2.retried now t) :=
    ⟨hsame.leases, hsame.taskLeaseIndex, hsame.leaseCallbackCalls⟩
  cases ht : acc.2.tasks.get? t with
  | none =>
    rw [Rescheduler.rescheduleOne, getTask, ht]
    exact ⟨rfl, rfl, rfl⟩
  | some x =>
    refine hretried.trans ?_
    rw [rescheduleOne_state now ht]
    split
    · cases Rescheduler.gotAssigned (acc.2.retried now t) t <;> exact ⟨rfl, rfl, rfl⟩
    · exact ⟨rfl, rfl, rfl⟩

theorem sameLeases_rescheduleOrphaned (now : Time) (l : List TaskId)
    (acc : Nat × ClusterState) :
    SameLeases acc.2 (l.foldl (Rescheduler.rescheduleOne now) acc).2 :=
  List.foldlRecOn (motive := fun r => SameLeases acc.2 r.2) l _ ⟨rfl, rfl, rfl⟩
    fun r h t _ => h.trans (sameLeases_rescheduleOne now r t)

/-- **`trigger_recovery`** recovers its node. -/
theorem recovered_triggerRecovery (m : RecoveryManager) (s : ClusterState) (now : Time)
    (n : NodeId) : Recovered now (· = n) s (m.triggerRecovery s now n).2.2 := by
  obtain ⟨hids, htasks, hnodes, hleases⟩ := revokeAllForNode_spec s now n
  set r := Revoker.revokeAllForNode s now n with hr
  -- with no orphans the loop has nothing to do either
  have hstate : ∃ s₂ : ClusterState, (m.triggerRecovery s now n).2.2.tasks = s₂.tasks ∧
      (m.triggerRecovery s now n).2.2.nodes = s₂.nodes ∧
      (m.triggerRecovery s now n).2.2.leases = s₂.leases ∧
      s₂ = (r.1.foldl (Rescheduler.rescheduleOne now) (0, r.2)).2 := by
    refine ⟨_, ?_, ?_, ?_, rfl⟩ <;>
      · simp only [RecoveryManager.triggerRecovery, ← hr, appendRecoveryEvent]
        by_cases he : r.1 = []
        · simp [he]
        · simp [he, Rescheduler.rescheduleOrphaned]
  obtain ⟨s₂, ht₂, hn₂, hl₂, rfl⟩ := hstate
  have hresch := rescheduled_rescheduleOrphaned now r.1 (0, r.2)
  refine ⟨fun k => ?_, ?_⟩
  · rw [hl₂, (sameLeases_rescheduleOrphaned now r.1 (0, r.2)).leases, hleases]
  · have h₁ : Rescheduled (fun _ => False) s r.2 := Rescheduled.of_tasks_eq hnodes htasks
    have h₃ := h₁.trans (hresch.trans (Rescheduled.of_tasks_eq hn₂ ht₂))
    refine h₃.congr fun k => ?_
    rw [htasks, hids, Orphan]
    simp

/-- `trigger_recovery` for every node of a list. -/
theorem Recovered.foldl {N : NodeId → Prop} [DecidablePred N] : ∀ (l : List NodeId)
    (acc : RecoveryManager × ClusterState), Recovered now N s acc.2 →
    Recovered now (fun n => N n ∨ n ∈ l) s (l.foldl (RecoveryManager.recoverOne now) acc).2 := by
  intro l
  induction l generalizing N with
  | nil => intro acc h; exact h.congr fun n => by simp
  | cons n l ih =>
    intro acc h
    have hone : Recovered now (· = n) acc.2 (RecoveryManager.recoverOne now acc n).2 :=
      recovered_triggerRecovery acc.1 acc.2 now n
    exact (ih _ (h.trans hone)).congr fun n' => by simp [or_assoc]

/-- `n` has a lease that is expired, or that the scan of `detect_expired_leases` will
find to have run out. -/
def ExpiredNode (s : ClusterState) (now : Time) (n : NodeId) : Prop :=
  ∃ l ∈ s.leases.rows, l.nodeId = n ∧ (l.status = .expired ∨ l.lapsed now)

instance (s : ClusterState) (now : Time) : DecidablePred (ExpiredNode s now) := fun n => by
  unfold ExpiredNode; infer_instance

theorem mem_expiredNodes : n ∈ (s.getActiveLeases now).2.getExpiredLeases.map Lease.nodeId ↔
    ExpiredNode s now n := by
  simp only [getExpiredLeases, getActiveLeases, Table.rows_mapRows, List.mem_map, List.mem_filter,
    decide_eq_true_eq]
  refine ⟨?_, ?_⟩
  · rintro ⟨_, ⟨⟨l, hl, rfl⟩, he⟩, hn⟩
    exact ⟨l, hl, (l.aged_nodeId now).symm.trans hn, Lease.aged_status_expired.mp he⟩
  · rintro ⟨l, hl, hn, he⟩
    exact ⟨_, ⟨⟨l, hl, rfl⟩, Lease.aged_status_expired.mpr he⟩, (l.aged_nodeId now).trans hn⟩

/-- **`detect_expired_leases`** recovers the nodes with an expired lease, in whichever
order it goes through them. -/
theorem recovered_detectExpiredLeases (order : SetOrder) (m : RecoveryManager) (s : ClusterState)
    (now : Time) :
    Recovered now (ExpiredNode s now) s (m.detectExpiredLeases order s now).2.2 := by
  have h := Recovered.foldl
    (order.enum ((s.getActiveLeases now).2.getExpiredLeases.map Lease.nodeId))
    (m, (s.getActiveLeases now).2) (recovered_getActiveLeases s now)
  refine Recovered.congr h fun n => ?_
  rw [false_or, SetOrder.mem_enum, mem_expiredNodes]

end HermesCluster.ClusterState
