import HermesCluster.Core.Triggers
import HermesCluster.State.TaskSpec

/-!
# A silent node

Runs in which a node `n` does nothing but leave, while a watchdog checks: no heartbeat, no
join, no registration of `n`.  The stored status of `n` has two writers, `leave` and the
check, and the check goes by the age of the heartbeat alone.

`silent_node_iff`: the status never gets healthier, and a node that has left stays offline
and unused, exactly as long as no check finds the heartbeat younger than the stored status
stands for.  Whether the times of the run are in order does not matter, nor how the
thresholds compare.
-/

namespace HermesCluster

open Run Watchdog

/-- How bad a status is. -/
def NodeStatus.severity : NodeStatus → Nat
  | .online => 0
  | .degraded => 1
  | .offline => 2

/-- Nothing is worse than offline. -/
theorem NodeStatus.severity_le_offline (a : NodeStatus) :
    a.severity ≤ NodeStatus.offline.severity := by
  cases a <;> decide

theorem NodeStatus.eq_offline_of_le {a : NodeStatus}
    (h : NodeStatus.offline.severity ≤ a.severity) : a = .offline := by
  revert h
  cases a <;> decide

inductive SilentOp
  | leave
  | check
deriving DecidableEq, Repr

namespace SilentOp

/-- The operation on the node manager. -/
def nodeOp (w : Watchdog) (n : NodeId) : SilentOp → NodeOp
  | leave => .leave n
  | check => .check w

def step (w : Watchdog) (n : NodeId) (s : ClusterState) (op : Time × SilentOp) : ClusterState :=
  NodeOp.step s (op.1, op.2.nodeOp w n)

/-- A node that is stored under `n` is still there, with a status no healthier. -/
def NoHealthier (n : NodeId) (s s' : ClusterState) : Prop :=
  ∀ x, s.nodes.get? n = some x →
    ∃ y, s'.nodes.get? n = some y ∧ x.status.severity ≤ y.status.severity

/-- `schedule_pending` starts a ready task on `n`. -/
def ScheduledOnto (s : ClusterState) (now : Time) (n : NodeId) : Prop :=
  ∃ t x y, s.tasks.get? t = some x ∧ (s.schedulePending now).2.tasks.get? t = some y ∧
    x.status = .ready ∧ y.status = .running ∧ y.assignedTo = some n

/-- The stored status never moves to a smaller one. -/
def NeverHealthier (w : Watchdog) (n : NodeId) (s : ClusterState) (run : List (Time × SilentOp)) :
    Prop :=
  ∀ l m, l ++ m <+: run → NoHealthier n (exec (step w n) s l) (exec (step w n) s (l ++ m))

/-- Once it has left, the node stays offline and nothing is scheduled onto it. -/
def StaysAway (w : Watchdog) (n : NodeId) (s : ClusterState) (run : List (Time × SilentOp)) :
    Prop :=
  ∀ l m t, l ++ [(t, leave)] ++ m <+: run →
    (∀ y, (exec (step w n) s (l ++ [(t, leave)] ++ m)).nodes.get? n = some y →
      y.status = .offline) ∧
    ∀ now, ¬ ScheduledOnto (exec (step w n) s (l ++ [(t, leave)] ++ m)) now n

/-- A check that gets to the node finds its heartbeat at least `offline_after` old if the node is
offline, and at least as old as one of the thresholds if the node is degraded. -/
def OldEnough (w : Watchdog) (n : NodeId) (s : ClusterState) : Time × SilentOp → Prop
  | (_, leave) => True
  | (now, check) => ∀ x ∈ checkedNodes s, x.id = n →
      (x.status = .offline → w.offlineAfter.le (totalSeconds (now - x.lastHeartbeat.wall))) ∧
      (x.status = .degraded → w.offlineAfter.le (totalSeconds (now - x.lastHeartbeat.wall)) ∨
        w.degradedAfter.le (totalSeconds (now - x.lastHeartbeat.wall)))

variable {w : Watchdog} {n : NodeId} {s : ClusterState} {now : Time}

/-! ### One step -/

theorem get?_leave : (step w n s (now, leave)).nodes.get? n =
    (s.nodes.get? n).map (fun x => { x with status := .offline }) := by
  show (NodeManager.leave s n).2.2.nodes.get? n = _
  rw [NodeManager.leave, ClusterState.getNode]
  cases hx : s.nodes.get? n with
  | none => exact hx
  | some x =>
    refine (NodeManager.get?_setNodeStatus n).trans ?_
    rw [if_pos rfl, hx]

theorem get?_step_check (k : NodeId) : (step w n s (now, check)).nodes.get? k =
    (s.nodes.get? k).map (fun x => if x ∈ checkedNodes s then w.checked now x else x) :=
  get?_check w now s k

/-- A heartbeat stands for a status no healthier than the stored one. -/
theorem severity_le_iff (x : Node) : x.status.severity ≤ (w.statusAt now x).severity ↔
    (x.status = .offline → w.offlineAfter.le (totalSeconds (now - x.lastHeartbeat.wall))) ∧
    (x.status = .degraded → w.offlineAfter.le (totalSeconds (now - x.lastHeartbeat.wall)) ∨
      w.degradedAfter.le (totalSeconds (now - x.lastHeartbeat.wall))) := by
  rw [statusAt]
  by_cases hoff : w.offlineAfter.le (totalSeconds (now - x.lastHeartbeat.wall)) = true
  · rw [if_pos hoff]
    simp only [hoff, true_or, implies_true, and_self, iff_true]
    cases x.status <;> decide
  · rw [if_neg hoff]
    by_cases hdeg : w.degradedAfter.le (totalSeconds (now - x.lastHeartbeat.wall)) = true
    · rw [if_pos hdeg]
      simp only [hoff, hdeg]
      cases x.status <;> decide
    · rw [if_neg hdeg]
      simp only [hoff, hdeg]
      cases x.status <;> decide

theorem noHealthier_step_iff (s : ClusterState) (op : Time × SilentOp) :
    NoHealthier n s (step w n s op) ↔ OldEnough w n s op := by
  obtain ⟨now, op⟩ := op
  cases op with
  | leave =>
    refine iff_of_true ?_ trivial
    intro x hx
    refine ⟨{ x with status := .offline }, ?_, ?_⟩
    · rw [get?_leave, hx, Option.map_some]
    · exact NodeStatus.severity_le_offline x.status
  | check =>
    refine ⟨?_, ?_⟩
    · intro h x hmem hid
      have hx : s.nodes.get? n = some x := hid ▸ Table.get?_of_mem (mem_rows_of_checked hmem)
      obtain ⟨y, hy, hle⟩ := h x hx
      rw [get?_step_check, hx, Option.map_some, if_pos hmem] at hy
      cases hy
      exact (severity_le_iff x).mp hle
    · intro h x hx
      refine ⟨if x ∈ checkedNodes s then w.checked now x else x, ?_, ?_⟩
      · rw [get?_step_check, hx, Option.map_some]
      · by_cases hmem : x ∈ checkedNodes s
        · rw [if_pos hmem]
          exact (severity_le_iff x).mpr (h x hmem (Table.key_of_get? hx))
        · rw [if_neg hmem]

/-! ### Runs -/

theorem noHealthier_refl (n : NodeId) (s : ClusterState) : NoHealthier n s s :=
  fun x hx => ⟨x, hx, Nat.le_refl _⟩

theorem noHealthier_trans (n : NodeId) (s₁ s₂ s₃ : ClusterState) (h : NoHealthier n s₁ s₂)
    (g : NoHealthier n s₂ s₃) : NoHealthier n s₁ s₃ := by
  intro x hx
  obtain ⟨y, hy, hxy⟩ := h x hx
  obtain ⟨z, hz, hyz⟩ := g y hy
  exact ⟨z, hz, hxy.trans hyz⟩

theorem neverHealthier_iff (w : Watchdog) (n : NodeId) (s : ClusterState)
    (run : List (Time × SilentOp)) :
    NeverHealthier w n s run ↔ EachStep (step w n) (OldEnough w n) s run := by
  rw [NeverHealthier, related_iff_eachStep (noHealthier_refl n) (noHealthier_trans n)]
  exact ⟨fun h => h.imp fun s op => (noHealthier_step_iff s op).mp,
    fun h => h.imp fun s op => (noHealthier_step_iff s op).mpr⟩

/-- The scheduler uses online nodes only. -/
theorem not_scheduledOnto (h : ∀ y, s.nodes.get? n = some y → y.status = .offline) (now : Time) :
    ¬ ScheduledOnto s now n := by
  intro ⟨t, x, y, hx, hy, hready, hrunning, hassigned⟩
  rw [ClusterState.get?_schedulePending, hx, Option.map_some] at hy
  cases hf : s.firstFit x.requires with
  | none =>
    rw [ClusterState.scheduled_of_noFit hf] at hy
    cases hy
    rw [hready] at hrunning
    cases hrunning
  | some node =>
    rw [ClusterState.scheduled_of_fit hready hf] at hy
    cases hy
    have hid : node.id = n := Option.some.inj hassigned
    obtain ⟨hrow, honline⟩ := List.mem_filter.mp (List.mem_of_find?_eq_some hf)
    have hoffline : node.status = .offline := h node (hid ▸ Table.get?_of_mem hrow)
    rw [hoffline] at honline
    cases honline

/-- A status that never gets healthier stays offline. -/
theorem staysAway_of_neverHealthier {run : List (Time × SilentOp)}
    (h : NeverHealthier w n s run) : StaysAway w n s run := by
  intro l m t hl
  have hoff : ∀ y, (exec (step w n) s (l ++ [(t, leave)] ++ m)).nodes.get? n = some y →
      y.status = .offline := by
    intro y hy
    have hlater := h (l ++ [(t, leave)]) m hl
    have hleft : (exec (step w n) s (l ++ [(t, leave)])).nodes.get? n = _ :=
      (congrArg (fun s : ClusterState => s.nodes.get? n) (exec_concat s l (t, leave))).trans
        get?_leave
    cases hx : (exec (step w n) s l).nodes.get? n with
    | some x =>
      rw [hx, Option.map_some] at hleft
      obtain ⟨z, hz, hle⟩ := hlater _ hleft
      rw [hy] at hz
      cases hz
      exact NodeStatus.eq_offline_of_le hle
    | none =>
      rw [hx, Option.map_none] at hleft
      have hnone : ∀ (m : List (Time × SilentOp)) (s : ClusterState), s.nodes.get? n = none →
          (exec (step w n) s m).nodes.get? n = none := by
        intro m
        induction m with
        | nil => intro s hs; exact hs
        | cons op m ih =>
          intro s hs
          refine ih _ ?_
          obtain ⟨now, op⟩ := op
          cases op with
          | leave => rw [get?_leave, hs, Option.map_none]
          | check => rw [get?_step_check, hs, Option.map_none]
      rw [exec_append, hnone m _ hleft] at hy
      cases hy
  exact ⟨hoff, not_scheduledOnto hoff⟩

/-- **A silent node.**  For any node, thresholds and store, and any run of departures of the
node and checks: its stored status never gets healthier, and once it has left it stays
offline and nothing is scheduled onto it, exactly when every check that gets to the node
finds a heartbeat old enough for the stored status. -/
theorem silent_node_iff (w : Watchdog) (n : NodeId) (s : ClusterState)
    (run : List (Time × SilentOp)) :
    (NeverHealthier w n s run ∧ StaysAway w n s run) ↔
      EachStep (step w n) (OldEnough w n) s run := by
  rw [← neverHealthier_iff]
  exact ⟨fun h => h.1, fun h => ⟨h, staysAway_of_neverHealthier h⟩⟩

/-- A node joins, leaves a second later, and a check with the default thresholds a second
after that puts it back online. -/
theorem left_node_back_online :
    let s := NodeOp.step {} (0, .join "n1" "" [] (.num 0))
    let run : List (Time × SilentOp) := [(seconds 1, leave), (seconds 2, check)]
    ((exec (step {} "n1") s run).nodes.get? "n1").map Node.status = some .online ∧
      ¬ NeverHealthier {} "n1" s run ∧ ¬ StaysAway {} "n1" s run := by
  intro s run
  have hback : ((exec (step {} "n1") s run).nodes.get? "n1").map Node.status = some .online := by
    decide +kernel
  have hleft : ((exec (step {} "n1") s [(seconds 1, leave)]).nodes.get? "n1").map Node.status =
      some .offline := by decide +kernel
  obtain ⟨x, hx, hoff⟩ := Option.map_eq_some_iff.mp hleft
  obtain ⟨y, hy, hon⟩ := Option.map_eq_some_iff.mp hback
  refine ⟨hback, ?_, ?_⟩
  · intro h
    obtain ⟨z, hz, hle⟩ := h [(seconds 1, leave)] [(seconds 2, check)] (List.prefix_refl _) x hx
    have hzy : z = y := Option.some.inj (hz.symm.trans hy)
    rw [hzy, hoff, hon] at hle
    exact absurd hle (by decide)
  · intro h
    have hstays := (h [] [(seconds 2, check)] (seconds 1) (List.prefix_refl _)).1 y hy
    rw [hon] at hstays
    cases hstays

end SilentOp

end HermesCluster
