import HermesCluster.Core.NodeManager
import HermesCluster.Lib.Rounding

/-!
# `Watchdog`

`_check` of `hermes_cluster/core/watchdog.py`, through the registry of `NodeManager`.  The
thresholds are floats, in seconds; so is the age of a heartbeat, the float nearest to it.  A
heartbeat that carries a UTC offset cannot be subtracted from the naive clock: `_check` raises
there and leaves the rest of the nodes unchecked.  The callback of `create_app` does nothing and
is left out.

* `get?_check`, `events_check`: each node up to the first such heartbeat gets the status
  its age says, with an event if that is a change.
-/

namespace HermesCluster

/-- `now - t` for a naive clock. -/
def DateTime.since (now : Time) (t : DateTime) : Except PyError Duration :=
  match t.utcOffset with
  | none => .ok (now - t.wall)
  | some _ => .error .typeError

/-- `total_seconds`: the quotient of two integers, rounded once. -/
def totalSeconds (d : Duration) : Load :=
  .num ((Rounding.binary64 (d / 1000000) : ℚ) : WithBot (WithTop ℚ))

structure HeartbeatNode where
  id : NodeId
  lastHeartbeat : DateTime
  status : String
deriving DecidableEq, Repr

structure WatchdogEvent where
  nodeId : NodeId
  eventType : String
deriving DecidableEq, Repr

structure Watchdog where
  degradedAfter : Load := .num 15
  offlineAfter : Load := .num 30
deriving DecidableEq

namespace Watchdog

/-! ### The registry -/

/-- An entry of `get_all_heartbeat_nodes`. -/
def heartbeatNode (n : Node) : HeartbeatNode :=
  { id := n.id, lastHeartbeat := n.lastHeartbeat, status := n.status.value }

def getAllHeartbeatNodes (s : ClusterState) : List HeartbeatNode := s.nodes.rows.map heartbeatNode

/-- `update_node_status`; a text that is no `NodeStatus` counts as offline. -/
def updateNodeStatus (s : ClusterState) (nodeId : NodeId) (status : String) :
    List NodeEvent × ClusterState :=
  match NodeStatus.ofValue status with
  | .ok status => (NodeManager.setStatus s nodeId status).2
  | .error _ => (NodeManager.setStatus s nodeId .offline).2

/-! ### A check -/

/-- The status `_check` computes from the age of a heartbeat. -/
def newStatus (w : Watchdog) (elapsed : Duration) : String :=
  if w.offlineAfter.le (totalSeconds elapsed) then "offline"
  else if w.degradedAfter.le (totalSeconds elapsed) then "degraded"
  else "online"

/-- The body of the loop of `_check`. -/
def checkOne (w : Watchdog) (now : Time) (s : ClusterState) (node : HeartbeatNode) :
    Except PyError (List WatchdogEvent × List NodeEvent × ClusterState) := do
  let elapsed ← node.lastHeartbeat.since now
  let status := w.newStatus elapsed
  if status ≠ node.status then
    let (events, s) := updateNodeStatus s node.id status
    return ([⟨node.id, status⟩], events, s)
  else return ([], [], s)

/-- The loop of `_check`: what it returns or raises, the events the manager emitted, and
the store after. -/
def checkAll (w : Watchdog) (now : Time) : List HeartbeatNode → ClusterState →
    Except PyError (List WatchdogEvent) × List NodeEvent × ClusterState
  | [], s => (.ok [], [], s)
  | node :: nodes, s =>
    match w.checkOne now s node with
    | .error e => (.error e, [], s)
    | .ok (events, emitted, s) =>
      let (result, more, s) := w.checkAll now nodes s
      (result.map (events ++ ·), emitted ++ more, s)

def check (w : Watchdog) (now : Time) (s : ClusterState) :
    Except PyError (List WatchdogEvent) × List NodeEvent × ClusterState :=
  w.checkAll now (getAllHeartbeatNodes s) s

/-! ### What a check does -/

variable {w : Watchdog} {now : Time} {s : ClusterState}

/-- The status a heartbeat of this age stands for. -/
def statusAt (w : Watchdog) (now : Time) (x : Node) : NodeStatus :=
  if w.offlineAfter.le (totalSeconds (now - x.lastHeartbeat.wall)) then .offline
  else if w.degradedAfter.le (totalSeconds (now - x.lastHeartbeat.wall)) then .degraded
  else .online

def checked (w : Watchdog) (now : Time) (x : Node) : Node :=
  { x with status := w.statusAt now x }

/-- The event of a node whose status changes. -/
def change (w : Watchdog) (now : Time) (x : Node) : Option NodeEvent :=
  if w.statusAt now x = x.status then none
  else some (.statusChanged x.id (NodeManager.changeDetail x.status (w.statusAt now x)))

/-- The nodes before the first whose heartbeat has a UTC offset. -/
def reached (nodes : List Node) : List Node :=
  nodes.takeWhile (fun x => x.lastHeartbeat.utcOffset = none)

theorem newStatus_eq (x : Node) :
    w.newStatus (now - x.lastHeartbeat.wall) = (w.statusAt now x).value := by
  rw [newStatus, statusAt]
  split
  · rfl
  · split <;> rfl

-- The float `30.1` is above 30.1, and so is the age of a heartbeat of 30.1 s.
example : ({ offlineAfter := .num (Rounding.binary64 (301 / 10)) } : Watchdog).newStatus 30100000 =
    "offline" := by decide +kernel

theorem value_injective {a b : NodeStatus} (h : a.value = b.value) : a = b := by
  have := congrArg NodeStatus.ofValue h
  simpa using this

/-- A node without a UTC offset gets the status of its age. -/
theorem checkOne_naive (now : Time) {x : Node} (hx : s.nodes.get? x.id = some x)
    (hnaive : x.lastHeartbeat.utcOffset = none) :
    ∃ events s', w.checkOne now s (heartbeatNode x) =
        .ok (events, (w.change now x).toList, s') ∧
      ∀ k, s'.nodes.get? k =
        if k = x.id then (s.nodes.get? k).map (w.checked now) else s.nodes.get? k := by
  have hsince : x.lastHeartbeat.since now = .ok (now - x.lastHeartbeat.wall) := by
    rw [DateTime.since, hnaive]
  have hone : w.checkOne now s (heartbeatNode x) =
      if (w.statusAt now x).value ≠ x.status.value then
        .ok ([⟨x.id, (w.statusAt now x).value⟩],
          (NodeManager.setStatus s x.id (w.statusAt now x)).2)
      else .ok ([], [], s) := by
    rw [checkOne]
    show ((x.lastHeartbeat.since now).bind fun elapsed => _) = _
    rw [hsince]
    show (if w.newStatus (now - x.lastHeartbeat.wall) ≠ x.status.value then _ else _) = _
    rw [newStatus_eq]
    simp only [NodeStatus.ofValue_value]
    rfl
  rw [hone, change]
  by_cases h : w.statusAt now x = x.status
  · refine ⟨[], s, ?_, fun k => ?_⟩
    · rw [if_pos h, if_neg (not_not.mpr (congrArg NodeStatus.value h))]
      rfl
    · split
      next hk =>
        have hsame : w.checked now x = x := by rw [checked, h]
        rw [hk, hx, Option.map_some, hsame]
      · rfl
  · refine ⟨[⟨x.id, (w.statusAt now x).value⟩], s.setNodeStatus x.id (w.statusAt now x), ?_,
      fun k => ?_⟩
    · rw [if_neg h, if_pos fun hv => h (value_injective hv),
        NodeManager.setStatus_of_ne hx (Ne.symm h)]
      rfl
    · rw [NodeManager.get?_setNodeStatus]
      split
      next hk =>
        rw [hk, hx]
        rfl
      · rfl

theorem checkOne_aware {x : Node} (haware : ¬ x.lastHeartbeat.utcOffset = none) :
    w.checkOne now s (heartbeatNode x) = .error .typeError := by
  obtain ⟨offset, hoffset⟩ := Option.ne_none_iff_exists'.mp haware
  have hsince : x.lastHeartbeat.since now = .error .typeError := by
    rw [DateTime.since, hoffset]
  rw [checkOne]
  show ((x.lastHeartbeat.since now).bind fun elapsed => _) = _
  rw [hsince]
  rfl

/-- The loop over nodes that are in the store as listed. -/
theorem checkAll_spec : ∀ (l : List Node) (s : ClusterState), (l.map Node.id).Nodup →
    (∀ x ∈ l, s.nodes.get? x.id = some x) →
    (w.checkAll now (l.map heartbeatNode) s).2.1 = (reached l).filterMap (w.change now) ∧
    ∀ k, (w.checkAll now (l.map heartbeatNode) s).2.2.nodes.get? k =
      (s.nodes.get? k).map (fun x => if x ∈ reached l then w.checked now x else x) := by
  intro l
  induction l with
  | nil => intro s _ _; exact ⟨rfl, fun k => by simp [reached, checkAll]⟩
  | cons a l ih =>
    intro s hnodup hcurrent
    rw [List.map_cons, List.nodup_cons] at hnodup
    rw [List.map_cons, checkAll]
    by_cases ha : a.lastHeartbeat.utcOffset = none
    · obtain ⟨events, s', hone, hget⟩ := checkOne_naive (w := w) now
        (hcurrent a List.mem_cons_self) ha
      have hne : ∀ x ∈ l, x.id ≠ a.id := by
        intro x hx hid
        exact hnodup.1 (hid ▸ List.mem_map_of_mem hx)
      obtain ⟨hevents, hrest⟩ := ih s' hnodup.2 fun x hx => by
        rw [hget, if_neg (hne x hx)]
        exact hcurrent x (List.mem_cons_of_mem a hx)
      have hreached : reached (a :: l) = a :: reached l :=
        List.takeWhile_cons_of_pos (by simpa using ha)
      simp only [hone, hreached]
      refine ⟨?_, fun k => ?_⟩
      · rw [hevents]
        cases hc : w.change now a with
        | none => rw [List.filterMap_cons_none hc]; rfl
        | some e => rw [List.filterMap_cons_some hc]; rfl
      · rw [hrest, hget]
        by_cases hk : k = a.id
        · -- the node just checked is not among the rest
          have hout : w.checked now a ∉ reached l := by
            intro hmem
            exact hne _ ((List.takeWhile_sublist _).subset hmem) rfl
          rw [if_pos hk, hk, hcurrent a List.mem_cons_self, Option.map_some, Option.map_some,
            Option.map_some, if_neg hout, if_pos List.mem_cons_self]
        · rw [if_neg hk]
          cases hx : s.nodes.get? k with
          | none => rfl
          | some x =>
            have hxa : x ≠ a := by
              intro h
              exact hk ((Table.key_of_get? hx).symm.trans (congrArg Node.id h))
            simp [hxa]
    · have hreached : reached (a :: l) = [] := List.takeWhile_cons_of_neg (by simpa using ha)
      simp only [checkOne_aware ha, hreached]
      exact ⟨rfl, fun k => by simp⟩

/-- The nodes of the store that a check gets to. -/
abbrev checkedNodes (s : ClusterState) : List Node := reached s.nodes.rows

theorem events_check (w : Watchdog) (now : Time) (s : ClusterState) :
    (w.check now s).2.1 = (checkedNodes s).filterMap (w.change now) :=
  (checkAll_spec s.nodes.rows s s.nodes.nodup fun _ hx => Table.get?_of_mem hx).1

theorem get?_check (w : Watchdog) (now : Time) (s : ClusterState) (k : NodeId) :
    (w.check now s).2.2.nodes.get? k = (s.nodes.get? k).map
      (fun x => if x ∈ checkedNodes s then w.checked now x else x) :=
  (checkAll_spec s.nodes.rows s s.nodes.nodup fun _ hx => Table.get?_of_mem hx).2 k

theorem mem_rows_of_checked {x : Node} (h : x ∈ checkedNodes s) : x ∈ s.nodes.rows :=
  (List.takeWhile_sublist _).subset h

end Watchdog

end HermesCluster
