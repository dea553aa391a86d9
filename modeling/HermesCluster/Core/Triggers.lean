import HermesCluster.Lib.Run
import HermesCluster.Core.Watchdog

/-!
# Which status changes trigger a recovery

Runs of node operations and watchdog checks, with the listener of `create_app`: it triggers
a recovery for a status change whose text mentions `offline`.

* `leave` sets the status without that event, so a node that leaves is not recovered.
* The text of a change has the old status as well as the new one, so a node that comes back
  is recovered.

`triggersExactly_iff`: recoveries are triggered exactly when a node goes offline, along a
run, exactly when the run has neither.
-/

namespace HermesCluster

open Run Watchdog

inductive NodeOp
  | join (nodeId : NodeId) (name : String) (capabilities : List Capability) (load : Load)
  | leave (nodeId : NodeId)
  | sendHeartbeat (nodeId : NodeId) (load : Load)
  | setStatus (nodeId : NodeId) (status : NodeStatus)
  /-- A check of a watchdog, with the thresholds it has then. -/
  | check (w : Watchdog)

namespace NodeOp

/-- The events an operation emits, and the store after. -/
def apply (s : ClusterState) (now : Time) : NodeOp → List NodeEvent × ClusterState
  | join nodeId name capabilities load =>
    match NodeManager.join s now nodeId name capabilities load with
    | .ok (_, events, s) => (events, s)
    | .error _ => ([], s)
  | leave nodeId => (NodeManager.leave s nodeId).2
  | sendHeartbeat nodeId load => NodeManager.sendHeartbeat s now nodeId load
  | setStatus nodeId status => (NodeManager.setStatus s nodeId status).2
  | check w => (w.check now s).2

/-- One operation at a clock reading. -/
def step (s : ClusterState) (op : Time × NodeOp) : ClusterState := (op.2.apply s op.1).2

/-- The nodes `trigger_recovery_async` is called for. -/
def triggered (s : ClusterState) (op : Time × NodeOp) : List NodeId :=
  (op.2.apply s op.1).1.filterMap NodeManager.onNodeEvent

/-- The stored status of `n` goes from another value to offline. -/
def WentOffline (s s' : ClusterState) (n : NodeId) : Prop :=
  (∃ x, s.nodes.get? n = some x ∧ x.status ≠ .offline) ∧
    ∃ y, s'.nodes.get? n = some y ∧ y.status = .offline

/-- A recovery is triggered for a node exactly when the node goes offline. -/
def TriggersExactly (s : ClusterState) (op : Time × NodeOp) : Prop :=
  ∀ n, n ∈ triggered s op ↔ WentOffline s (step s op) n

/-- A node that leaves is offline already, and no node that is offline comes back by a
`set_status` or by a check that finds its heartbeat fresh. -/
def NoSilentChange (s : ClusterState) : Time × NodeOp → Prop
  | (_, .leave nodeId) => ∀ x, s.nodes.get? nodeId = some x → x.status = .offline
  | (_, .setStatus nodeId status) =>
    ∀ x, s.nodes.get? nodeId = some x → x.status = .offline → status = .offline
  | (now, .check w) => ∀ x ∈ checkedNodes s, x.status = .offline →
      w.offlineAfter.le (totalSeconds (now - x.lastHeartbeat.wall))
  | _ => True

variable {s s' : ClusterState} {now : Time} {n nodeId : NodeId}

theorem not_wentOffline_of_eq (h : s'.nodes.get? n = s.nodes.get? n) : ¬ WentOffline s s' n := by
  intro ⟨⟨x, hx, hs⟩, y, hy, hs'⟩
  rw [h, hx] at hy
  cases hy
  exact hs hs'

/-! ### The operations that trigger nothing and bring nothing down -/

theorem not_wentOffline_updateHeartbeat (load : Load) :
    ¬ WentOffline s (s.updateHeartbeat now nodeId load) n := by
  by_cases hn : n = nodeId
  · intro ⟨⟨x, hx, _⟩, y, hy, hs⟩
    rw [NodeManager.get?_updateHeartbeat, if_pos hn, hx] at hy
    cases hy
    cases hs
  · refine not_wentOffline_of_eq ?_
    rw [NodeManager.get?_updateHeartbeat, if_neg hn]

theorem wentOffline_updateCapabilities (capabilities : List Capability) :
    WentOffline s (s'.updateCapabilities nodeId capabilities) n ↔ WentOffline s s' n := by
  refine and_congr_right fun _ => ?_
  rw [NodeManager.get?_updateCapabilities]
  by_cases hn : n = nodeId
  · rw [if_pos hn]
    cases s'.nodes.get? n with
    | none => exact Iff.rfl
    | some y => simp
  · rw [if_neg hn]

theorem join_exact (name : String) (capabilities : List Capability) (load : Load) :
    TriggersExactly s (now, .join nodeId name capabilities load) := by
  intro n
  rw [triggered, step, apply, NodeManager.join]
  by_cases hid : nodeId = ""
  · rw [if_pos hid]
    exact iff_of_false (fun h => by cases h) (not_wentOffline_of_eq rfl)
  · rw [if_neg hid]
    cases hx : s.getNode nodeId with
    | some x =>
      refine iff_of_false (fun h => by cases h) ?_
      show ¬ WentOffline s (if capabilities ≠ [] then _ else _) n
      split
      · rw [wentOffline_updateCapabilities]
        exact not_wentOffline_updateHeartbeat _
      · exact not_wentOffline_updateHeartbeat _
    | none =>
      refine iff_of_false (fun h => by cases h) ?_
      by_cases hn : n = nodeId
      · intro ⟨⟨x, hx', _⟩, _⟩
        rw [hn, ← ClusterState.getNode, hx] at hx'
        cases hx'
      · refine not_wentOffline_of_eq ?_
        exact (NodeManager.get?_registerNode _ n).trans (if_neg hn)

theorem heartbeat_exact (load : Load) : TriggersExactly s (now, .sendHeartbeat nodeId load) := by
  intro n
  rw [triggered, step, apply, NodeManager.sendHeartbeat]
  cases s.getNode nodeId with
  | none => exact iff_of_false (fun h => by cases h) (not_wentOffline_of_eq rfl)
  | some x => exact iff_of_false (fun h => by cases h) (not_wentOffline_updateHeartbeat _)

/-! ### The others -/

/-- Setting the status of a node takes it offline if it was not and the status is. -/
theorem wentOffline_setNodeStatus {x : Node} (hx : s.nodes.get? nodeId = some x)
    (status : NodeStatus) : WentOffline s (s.setNodeStatus nodeId status) n ↔
      n = nodeId ∧ x.status ≠ .offline ∧ status = .offline := by
  by_cases hn : n = nodeId
  · rw [WentOffline, NodeManager.get?_setNodeStatus, if_pos hn, hn, hx]
    simp
  · refine iff_of_false (not_wentOffline_of_eq ?_) fun h => hn h.1
    rw [NodeManager.get?_setNodeStatus, if_neg hn]

theorem leave_exact_iff :
    TriggersExactly s (now, .leave nodeId) ↔ NoSilentChange s (now, .leave nodeId) := by
  have hquiet : ∀ n, n ∉ triggered s (now, .leave nodeId) := by
    intro n
    rw [triggered, apply, NodeManager.leave]
    cases s.getNode nodeId <;> exact fun h => by cases h
  show (∀ n, _ ↔ _) ↔ ∀ x, _ → _
  simp only [iff_false_left (hquiet _), step, apply, NodeManager.leave, ClusterState.getNode]
  cases hx : s.nodes.get? nodeId with
  | none => exact iff_of_true (fun n => not_wentOffline_of_eq rfl) fun x h => by cases h
  | some x =>
    simp only [wentOffline_setNodeStatus hx]
    simp

theorem setStatus_exact_iff (status : NodeStatus) :
    TriggersExactly s (now, .setStatus nodeId status) ↔
      NoSilentChange s (now, .setStatus nodeId status) := by
  show (∀ n, _ ↔ _) ↔ ∀ x, _ → _ → _
  simp only [triggered, step, apply]
  cases hx : s.nodes.get? nodeId with
  | none =>
    rw [NodeManager.setStatus_of_none hx]
    exact iff_of_true (fun n => iff_of_false (fun h => by cases h) (not_wentOffline_of_eq rfl))
      fun x h => by cases h
  | some x =>
    by_cases hs : x.status = status
    · rw [NodeManager.setStatus_of_eq hx hs]
      refine iff_of_true ?_ ?_
      · exact fun n => iff_of_false (fun h => by cases h) (not_wentOffline_of_eq rfl)
      · intro y hy hoff
        cases hy
        exact hs ▸ hoff
    · rw [NodeManager.setStatus_of_ne hx hs]
      have hmem : ∀ n, n ∈ [NodeEvent.statusChanged nodeId
          (NodeManager.changeDetail x.status status)].filterMap NodeManager.onNodeEvent ↔
          nodeId = n ∧ (x.status = .offline ∨ status = .offline) := by
        intro n
        rw [List.mem_filterMap, ← NodeManager.mem_onNodeEvent_change]
        simp
      simp only [hmem, wentOffline_setNodeStatus hx, Option.some.injEq, forall_eq']
      refine ⟨?_, ?_⟩
      · intro h hoff
        by_contra hne
        exact ((h nodeId).mp ⟨rfl, Or.inl hoff⟩).2.1 hoff
      · intro h n
        refine ⟨?_, ?_⟩
        · intro ⟨hn, hoff⟩
          -- both offline is no change, so it is the new status that is
          have hnew : status = .offline := hoff.elim h id
          exact ⟨hn.symm, fun hold => hs (hold.trans hnew.symm), hnew⟩
        · intro ⟨hn, _, hnew⟩
          exact ⟨hn.symm, Or.inr hnew⟩

theorem mem_change_iff (w : Watchdog) (x : Node) :
    n ∈ (w.change now x).bind NodeManager.onNodeEvent ↔
      x.id = n ∧ w.statusAt now x ≠ x.status ∧
        (x.status = .offline ∨ w.statusAt now x = .offline) := by
  rw [change]
  by_cases h : w.statusAt now x = x.status
  · rw [if_pos h]
    simp [h]
  · rw [if_neg h, Option.bind_some, NodeManager.mem_onNodeEvent_change]
    simp [h]

theorem mem_triggered_check (w : Watchdog) :
    n ∈ triggered s (now, .check w) ↔ ∃ x ∈ checkedNodes s, x.id = n ∧
      w.statusAt now x ≠ x.status ∧ (x.status = .offline ∨ w.statusAt now x = .offline) := by
  rw [triggered, apply, events_check, List.filterMap_filterMap, List.mem_filterMap]
  simp only [← Option.mem_def, mem_change_iff]

theorem wentOffline_check (w : Watchdog) :
    WentOffline s (step s (now, .check w)) n ↔ ∃ x ∈ checkedNodes s, x.id = n ∧
      x.status ≠ .offline ∧ w.statusAt now x = .offline := by
  have hget : (step s (now, .check w)).nodes.get? n = _ := get?_check w now s n
  rw [WentOffline, hget]
  refine ⟨?_, ?_⟩
  · intro ⟨⟨x, hx, hs⟩, y, hy, hs'⟩
    rw [hx, Option.map_some] at hy
    cases hy
    by_cases hmem : x ∈ checkedNodes s
    · rw [if_pos hmem] at hs'
      exact ⟨x, hmem, Table.key_of_get? hx, hs, hs'⟩
    · rw [if_neg hmem] at hs'
      exact absurd hs' hs
  · intro ⟨x, hmem, hid, hs, hs'⟩
    have hx : s.nodes.get? n = some x := hid ▸ Table.get?_of_mem (mem_rows_of_checked hmem)
    refine ⟨⟨x, hx, hs⟩, w.checked now x, ?_, hs'⟩
    rw [hx, Option.map_some, if_pos hmem]

theorem statusAt_eq_offline (w : Watchdog) (x : Node) : w.statusAt now x = .offline ↔
    w.offlineAfter.le (totalSeconds (now - x.lastHeartbeat.wall)) = true := by
  rw [statusAt]
  split
  next h => exact iff_of_true rfl h
  next h =>
    refine iff_of_false ?_ h
    split <;> decide

theorem check_exact_iff (w : Watchdog) :
    TriggersExactly s (now, .check w) ↔ NoSilentChange s (now, .check w) := by
  show (∀ n, _ ↔ _) ↔ ∀ x ∈ checkedNodes s, _ → _
  simp only [mem_triggered_check, wentOffline_check, ← statusAt_eq_offline]
  refine ⟨?_, ?_⟩
  · intro h x hx hoff
    by_contra hne
    obtain ⟨y, hy, hid, hs, -⟩ :=
      (h x.id).mp ⟨x, hx, rfl, fun he => hne (he.trans hoff), Or.inl hoff⟩
    have hsame : y = x := by
      have hgx := Table.get?_of_mem (mem_rows_of_checked hx)
      have hgy := Table.get?_of_mem (mem_rows_of_checked hy)
      rw [key_node] at hgx hgy
      rw [hid, hgx] at hgy
      exact (Option.some.inj hgy).symm
    exact hs (hsame ▸ hoff)
  · intro h n
    refine exists_congr fun x => and_congr_right fun hx => and_congr_right fun _ => ?_
    refine ⟨?_, ?_⟩
    · intro ⟨hne, hoff⟩
      have hnew : w.statusAt now x = .offline := hoff.elim (h x hx) id
      exact ⟨fun hold => hne (hnew.trans hold.symm), hnew⟩
    · intro ⟨hold, hnew⟩
      exact ⟨fun he => hold (he ▸ hnew), Or.inr hnew⟩

/-- **Step lemma.** -/
theorem triggersExactly_step_iff (s : ClusterState) (op : Time × NodeOp) :
    TriggersExactly s op ↔ NoSilentChange s op := by
  obtain ⟨now, op⟩ := op
  cases op with
  | join nodeId name capabilities load =>
    exact iff_of_true (join_exact name capabilities load) trivial
  | leave nodeId => exact leave_exact_iff
  | sendHeartbeat nodeId load => exact iff_of_true (heartbeat_exact load) trivial
  | setStatus nodeId status => exact setStatus_exact_iff status
  | check w => exact check_exact_iff w

/-- **Recovery on going offline.**  From any store, in every step of a run a recovery is
triggered for exactly the nodes that go offline, if and only if no step of the run takes a
node away that was not offline, or brings one back that was. -/
theorem triggersExactly_iff (s : ClusterState) (run : List (Time × NodeOp)) :
    EachStep step TriggersExactly s run ↔ EachStep step NoSilentChange s run :=
  ⟨fun h => h.imp fun s op => (triggersExactly_step_iff s op).mp,
    fun h => h.imp fun s op => (triggersExactly_step_iff s op).mpr⟩

/-- A node leaves: it goes offline and nothing is triggered.  It is set online again: a
recovery is triggered for it. -/
theorem triggered_on_return :
    let joined := step {} (0, .join "n1" "" [] (.num 0))
    let gone := step joined (1, .leave "n1")
    (WentOffline joined gone "n1" ∧ triggered joined (1, .leave "n1") = []) ∧
      (¬ WentOffline gone (step gone (2, .setStatus "n1" .online)) "n1" ∧
        "n1" ∈ triggered gone (2, .setStatus "n1" .online)) ∧
      ¬ EachStep step TriggersExactly {}
        [(0, .join "n1" "" [] (.num 0)), (1, .leave "n1"), (2, .setStatus "n1" .online)] := by
  intro joined gone
  have hwent : WentOffline joined gone "n1" := ⟨⟨_, rfl, by decide⟩, _, rfl, rfl⟩
  have hnone : triggered joined (1, .leave "n1") = [] := rfl
  refine ⟨⟨hwent, hnone⟩, ⟨?_, ?_⟩, ?_⟩
  · intro ⟨_, y, hy, hs⟩
    cases hy
    cases hs
  · show "n1" ∈ [NodeEvent.statusChanged "n1"
      (NodeManager.changeDetail .offline .online)].filterMap NodeManager.onNodeEvent
    rw [List.mem_filterMap]
    exact ⟨_, List.mem_cons_self,
      (NodeManager.mem_onNodeEvent_change "n1" "n1" _ _).mpr ⟨rfl, Or.inl rfl⟩⟩
  · intro h
    have hleave : TriggersExactly joined (1, .leave "n1") :=
      h [(0, .join "n1" "" [] (.num 0))] (1, .leave "n1") ⟨[(2, .setStatus "n1" .online)], rfl⟩
    have hmem := (hleave "n1").mpr hwent
    rw [hnone] at hmem
    cases hmem

end NodeOp

end HermesCluster
