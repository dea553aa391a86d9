import HermesCluster.Core.Triggers
import Mathlib.Algebra.Order.Field.Basic
import Mathlib.Algebra.Order.Ring.Cast
import Mathlib.Data.List.TakeWhile

/-!
# The watchdog as a failure detector

What the status of a node says about its heartbeats, over whole runs of node operations and
checks.  A node beats when it joins and when it sends a heartbeat; as long as nobody sets its
status by hand, its status is up to the checks since its last beat.

* `get?_quiet`: what an operation that is not about a node makes of it.
* `detects`: a node is offline exactly when some check since its last beat came too late, and
  online exactly when all of them came in time.
-/

namespace HermesCluster

open Run

/-- A threshold that is reached stays reached. -/
theorem Load.le_totalSeconds {a : Load} {d d' : Duration} (h : a.le (totalSeconds d) = true)
    (hd : d ≤ d') : a.le (totalSeconds d') = true := by
  cases a with
  | nan => exact absurd h Bool.false_ne_true
  | num a =>
    have hle : a ≤ ((Rounding.binary64 (d / 1000000) : ℚ) : WithBot (WithTop ℚ)) :=
      of_decide_eq_true h
    have hquot : (d / 1000000 : ℚ) ≤ (d' / 1000000 : ℚ) :=
      div_le_div_of_nonneg_right (Int.cast_le.mpr hd) (by decide)
    have hround : Rounding.binary64 (d / 1000000) ≤ Rounding.binary64 (d' / 1000000) :=
      Rounding.round_mono (by decide) hquot
    have hcoe : ((Rounding.binary64 (d / 1000000) : ℚ) : WithBot (WithTop ℚ)) ≤
        (Rounding.binary64 (d' / 1000000) : ℚ) :=
      WithBot.coe_le_coe.mpr (WithTop.coe_le_coe.mpr hround)
    exact decide_eq_true (hle.trans hcoe)

namespace NodeOp

variable {s : ClusterState} {now : Time} {n nodeId : NodeId} {w : Watchdog} {x : Node}

/-- No heartbeat in the store has a UTC offset. -/
def Naive (s : ClusterState) : Prop :=
  ∀ k x, s.nodes.get? k = some x → x.lastHeartbeat.utcOffset = none

/-- The operation refreshes the heartbeat of `n`. -/
def Beats (s : ClusterState) (n : NodeId) : NodeOp → Prop
  | join nodeId _ _ _ => nodeId = n ∧ n ≠ ""
  | sendHeartbeat nodeId _ => nodeId = n ∧ (s.nodes.get? n).isSome
  | _ => False

/-- The operation is a check, or about another node than `n`. -/
def Quiet (n : NodeId) : NodeOp → Prop
  | join nodeId _ _ _ | leave nodeId | sendHeartbeat nodeId _ | setStatus nodeId _ => nodeId ≠ n
  | check _ => True

/-- What an operation that is not about the node makes of it. -/
def judged (now : Time) : NodeOp → Node → Node
  | check w => w.checked now
  | _ => id

/-! ### One operation -/

theorem naive_of_get? {s' : ClusterState} {f : Node → Node} (h : Naive s)
    (hget : ∀ k, s'.nodes.get? k = if k = nodeId then (s.nodes.get? k).map f else s.nodes.get? k)
    (hf : ∀ x, x.lastHeartbeat.utcOffset = none → (f x).lastHeartbeat.utcOffset = none) :
    Naive s' := by
  intro k x hx
  rw [hget] at hx
  split at hx
  · obtain ⟨y, hy, rfl⟩ := Option.map_eq_some_iff.mp hx
    exact hf y (h k y hy)
  · exact h k x hx

theorem get?_of_none (hx : s.nodes.get? nodeId = none) (f : Node → Node) (k : NodeId) :
    s.nodes.get? k = if k = nodeId then (s.nodes.get? k).map f else s.nodes.get? k := by
  by_cases hk : k = nodeId
  · rw [if_pos hk, hk, hx]; rfl
  · rw [if_neg hk]

/-- A node that joins, again or for the first time, is online with a fresh heartbeat. -/
theorem get?_join (s : ClusterState) (now : Time) (hid : nodeId ≠ "") (name : String)
    (capabilities : List Capability) (load : Load) :
    ∃ x : Node, x.lastHeartbeat = ⟨now, none⟩ ∧ x.status = .online ∧ ∀ k,
      (step s (now, .join nodeId name capabilities load)).nodes.get? k =
        if k = nodeId then some x else s.nodes.get? k := by
  rw [step, apply, NodeManager.join, if_neg hid]
  cases hx : s.getNode nodeId with
  | none => exact ⟨_, rfl, rfl, NodeManager.get?_registerNode
      { id := nodeId, name := if name ≠ "" then name else nodeId, capabilities := capabilities,
        status := .online, lastHeartbeat := ⟨now, none⟩, load := load }⟩
  | some x =>
    have hx : s.nodes.get? nodeId = some x := hx
    by_cases hcaps : capabilities = []
    · refine ⟨NodeManager.beaten now (.num 0) x, rfl, rfl, fun k => ?_⟩
      simp only [hcaps, ne_eq, not_true_eq_false, if_false]
      rw [NodeManager.get?_updateHeartbeat]
      split
      next hk => rw [hk, hx, Option.map_some]
      next => rfl
    · refine ⟨{ NodeManager.beaten now (.num 0) x with capabilities := capabilities }, rfl, rfl,
        fun k => ?_⟩
      simp only [ne_eq, hcaps, not_false_eq_true, if_true]
      rw [NodeManager.get?_updateCapabilities, NodeManager.get?_updateHeartbeat]
      split
      next hk => rw [hk, hx]; rfl
      next => rfl

theorem get?_sendHeartbeat (s : ClusterState) (now : Time) (nodeId : NodeId) (load : Load)
    (k : NodeId) : (step s (now, .sendHeartbeat nodeId load)).nodes.get? k =
      if k = nodeId then (s.nodes.get? k).map (NodeManager.beaten now (NodeManager.clamp load))
      else s.nodes.get? k := by
  rw [step, apply, NodeManager.sendHeartbeat]
  cases hx : s.getNode nodeId with
  | none => exact get?_of_none hx _ k
  | some x => exact NodeManager.get?_updateHeartbeat now _ k

/-- A status set by hand, with `set_status` or by leaving. -/
theorem get?_leave (s : ClusterState) (now : Time) (nodeId k : NodeId) :
    (step s (now, .leave nodeId)).nodes.get? k =
      if k = nodeId then (s.nodes.get? k).map (fun x => { x with status := .offline })
      else s.nodes.get? k := by
  rw [step, apply, NodeManager.leave]
  cases hx : s.getNode nodeId with
  | none => exact get?_of_none hx _ k
  | some x => exact NodeManager.get?_setNodeStatus k

theorem get?_setStatus (s : ClusterState) (now : Time) (nodeId : NodeId) (status : NodeStatus)
    (k : NodeId) : (step s (now, .setStatus nodeId status)).nodes.get? k =
      if k = nodeId then (s.nodes.get? k).map (fun x => { x with status := status })
      else s.nodes.get? k := by
  rw [step, apply]
  cases hx : s.nodes.get? nodeId with
  | none =>
    rw [NodeManager.setStatus_of_none hx]
    exact get?_of_none hx _ k
  | some x =>
    by_cases hs : x.status = status
    · rw [NodeManager.setStatus_of_eq hx hs]
      by_cases hk : k = nodeId
      · rw [if_pos hk, hk, hx, Option.map_some, ← hs]
      · rw [if_neg hk]
    · rw [NodeManager.setStatus_of_ne hx hs]
      exact NodeManager.get?_setNodeStatus k

/-- A check gets to every node when no heartbeat has a UTC offset. -/
theorem get?_check_naive (h : Naive s) (now : Time) (w : Watchdog) (k : NodeId) :
    (step s (now, .check w)).nodes.get? k = (s.nodes.get? k).map (w.checked now) := by
  refine (Watchdog.get?_check w now s k).trans ?_
  have hall : Watchdog.checkedNodes s = s.nodes.rows := by
    refine List.takeWhile_eq_self_iff.mpr fun x hx => decide_eq_true ?_
    exact h x.id x (Table.get?_of_mem hx)
  cases hx : s.nodes.get? k with
  | none => rfl
  | some x =>
    rw [Option.map_some, hall, if_pos (Table.mem_of_get? hx)]
    rfl

/-- Every operation leaves the heartbeats without UTC offset. -/
theorem naive_step (h : Naive s) (op : Time × NodeOp) : Naive (step s op) := by
  obtain ⟨now, op⟩ := op
  cases op with
  | join nodeId name capabilities load =>
    by_cases hid : nodeId = ""
    · rw [step, apply, NodeManager.join, if_pos hid]
      exact h
    · obtain ⟨x, hbeat, -, hget⟩ := get?_join s now hid name capabilities load
      intro k y hy
      rw [hget] at hy
      split at hy
      · obtain rfl := Option.some.inj hy
        rw [hbeat]
      · exact h k y hy
  | leave nodeId => exact naive_of_get? h (get?_leave s now nodeId) fun _ hx => hx
  | sendHeartbeat nodeId load =>
    exact naive_of_get? h (get?_sendHeartbeat s now nodeId load) fun _ _ => rfl
  | setStatus nodeId status =>
    exact naive_of_get? h (get?_setStatus s now nodeId status) fun _ hx => hx
  | check w =>
    intro k y hy
    rw [get?_check_naive h] at hy
    obtain ⟨x, hx, rfl⟩ := Option.map_eq_some_iff.mp hy
    exact h k x hx

theorem naive_exec (h : Naive s) (run : List (Time × NodeOp)) : Naive (exec step s run) := by
  induction run generalizing s with
  | nil => exact h
  | cons op run ih => exact ih (naive_step h op)

/-- An operation about another node leaves the node alone, a check judges it by its age. -/
theorem get?_quiet (h : Naive s) {op : NodeOp} (hquiet : Quiet n op) (now : Time) :
    (step s (now, op)).nodes.get? n = (s.nodes.get? n).map (judged now op) := by
  cases op with
  | check w => exact get?_check_naive h now w n
  | join nodeId name capabilities load =>
    have hne : n ≠ nodeId := fun e => hquiet e.symm
    by_cases hid : nodeId = ""
    · rw [step, apply, NodeManager.join, if_pos hid]
      exact Option.map_id'.symm
    · obtain ⟨x, -, -, hget⟩ := get?_join s now hid name capabilities load
      rw [hget, if_neg hne]
      exact Option.map_id'.symm
  | leave nodeId =>
    rw [get?_leave, if_neg fun e => hquiet e.symm]
    exact Option.map_id'.symm
  | sendHeartbeat nodeId load =>
    rw [get?_sendHeartbeat, if_neg fun e => hquiet e.symm]
    exact Option.map_id'.symm
  | setStatus nodeId status =>
    rw [get?_setStatus, if_neg fun e => hquiet e.symm]
    exact Option.map_id'.symm

/-! ### Runs -/

/-- At `t`, a heartbeat of `h` is too old to be alive. -/
def Late (w : Watchdog) (h t : Time) : Prop := w.offlineAfter.le (totalSeconds (t - h)) = true

/-- At `t`, a heartbeat of `h` is too old to be healthy. -/
def Slow (w : Watchdog) (h t : Time) : Prop := w.degradedAfter.le (totalSeconds (t - h)) = true

theorem Late.mono {h t t' : Time} (hl : Late w h t) (ht : t ≤ t') : Late w h t' :=
  Load.le_totalSeconds hl (Int.sub_le_sub_right ht h)

theorem Slow.mono {h t t' : Time} (hs : Slow w h t) (ht : t ≤ t') : Slow w h t' :=
  Load.le_totalSeconds hs (Int.sub_le_sub_right ht h)

theorem statusAt_offline {h t : Time} (hx : x.lastHeartbeat = ⟨h, none⟩) :
    w.statusAt t x = .offline ↔ Late w h t := by
  rw [statusAt_eq_offline, hx, Late]

theorem statusAt_online {h t : Time} (hx : x.lastHeartbeat = ⟨h, none⟩) :
    w.statusAt t x = .online ↔ ¬ Late w h t ∧ ¬ Slow w h t := by
  rw [Watchdog.statusAt, hx, Late, Slow]
  dsimp only
  split
  next hl => exact iff_of_false (by decide) fun h => h.1 hl
  next hl =>
    split
    next hs => exact iff_of_false (by decide) fun h => h.2 hs
    next hs => exact iff_of_true rfl ⟨hl, hs⟩

/-- What the checks of `l` make of a node whose heartbeat is of `h`. -/
structure Standing (w : Watchdog) (h : Time) (l : List (Time × NodeOp)) (x : Node) : Prop where
  heartbeat : x.lastHeartbeat = ⟨h, none⟩
  offline : x.status = .offline ↔ ∃ t, (t, check w) ∈ l ∧ Late w h t
  online : x.status = .online ↔ ∀ t, (t, check w) ∈ l → ¬ Late w h t ∧ ¬ Slow w h t

/-- A later check finds the heartbeat older than all checks before it did. -/
theorem standing_checked {h t : Time} {l : List (Time × NodeOp)} (hx : Standing w h l x)
    (hlast : ∀ op ∈ l, op.1 ≤ t) : Standing w h (l ++ [(t, check w)]) (w.checked t x) := by
  refine ⟨hx.heartbeat, ?_, ?_⟩
  · refine (statusAt_offline hx.heartbeat).trans ⟨fun hl => ?_, ?_⟩
    · exact ⟨t, List.mem_append_right l List.mem_cons_self, hl⟩
    · rintro ⟨t', hmem, hl⟩
      rcases List.mem_append.mp hmem with hmem | hmem
      · exact hl.mono (hlast _ hmem)
      · obtain ⟨rfl, -⟩ := Prod.mk.inj (List.mem_singleton.mp hmem)
        exact hl
  · refine (statusAt_online hx.heartbeat).trans ⟨fun hok t' hmem => ?_, fun hall => ?_⟩
    · rcases List.mem_append.mp hmem with hmem | hmem
      · exact ⟨fun hl => hok.1 (hl.mono (hlast _ hmem)), fun hs => hok.2 (hs.mono (hlast _ hmem))⟩
      · obtain ⟨rfl, -⟩ := Prod.mk.inj (List.mem_singleton.mp hmem)
        exact hok
    · exact hall t (List.mem_append_right l List.mem_cons_self)

/-- An operation that is no check adds none. -/
theorem standing_other {h t : Time} {l : List (Time × NodeOp)} {op : NodeOp}
    (hx : Standing w h l x) (hop : ∀ w', op ≠ check w') : Standing w h (l ++ [(t, op)]) x := by
  have hmem : ∀ t', (t', check w) ∈ l ++ [(t, op)] ↔ (t', check w) ∈ l := by
    intro t'
    rw [List.mem_append, List.mem_singleton]
    refine or_iff_left fun heq => hop w ?_
    exact (Prod.mk.inj heq).2.symm
  refine ⟨hx.heartbeat, ?_, ?_⟩
  · simp only [hmem]; exact hx.offline
  · simp only [hmem]; exact hx.online

/-- **Run lemma.**  As long as the node is quiet, its status is up to the checks. -/
theorem standing_exec {h : Time} (hs : Naive s) (hx : s.nodes.get? n = some x)
    (hstart : Standing w h [] x) (l : List (Time × NodeOp))
    (hsorted : l.Pairwise fun a b => a.1 ≤ b.1) (hquiet : ∀ op ∈ l, Quiet n op.2)
    (hw : ∀ t w', (t, check w') ∈ l → w' = w) :
    ∃ y, (exec step s l).nodes.get? n = some y ∧ Standing w h l y := by
  induction l using List.reverseRecOn with
  | nil => exact ⟨x, hx, hstart⟩
  | append_singleton l op ih =>
    obtain ⟨t, op⟩ := op
    rw [List.pairwise_append] at hsorted
    obtain ⟨y, hy, hstanding⟩ := ih hsorted.1
      (fun op hop => hquiet op (List.mem_append_left _ hop))
      (fun t w' hmem => hw t w' (List.mem_append_left _ hmem))
    have hlast : ∀ op' ∈ l, op'.1 ≤ t := fun op' hop =>
      hsorted.2.2 op' hop (t, op) List.mem_cons_self
    have hmem : (t, op) ∈ l ++ [(t, op)] := List.mem_append_right l List.mem_cons_self
    rw [exec_concat, get?_quiet (naive_exec hs l) (hquiet _ hmem), hy]
    cases op with
    | check w' =>
      obtain rfl := hw t w' hmem
      exact ⟨_, rfl, standing_checked hstanding hlast⟩
    | _ => exact ⟨_, rfl, standing_other hstanding fun w' => by nofun⟩

/-- A node that beats is online with a fresh heartbeat. -/
theorem standing_beat {op : NodeOp} (hbeat : Beats s n op) (w : Watchdog) (h : Time) :
    ∃ x, (step s (h, op)).nodes.get? n = some x ∧ Standing w h [] x := by
  have hfresh : ∀ x : Node, x.lastHeartbeat = ⟨h, none⟩ → x.status = .online →
      Standing w h [] x := fun x hx hs =>
    ⟨hx, by simp [hs], by simp [hs]⟩
  cases op with
  | join nodeId name capabilities load =>
    obtain ⟨rfl, hid⟩ := hbeat
    obtain ⟨x, hx, hs, hget⟩ := get?_join s h hid name capabilities load
    exact ⟨x, by rw [hget, if_pos rfl], hfresh x hx hs⟩
  | sendHeartbeat nodeId load =>
    obtain ⟨rfl, hknown⟩ := hbeat
    obtain ⟨x, hx⟩ := Option.isSome_iff_exists.mp hknown
    refine ⟨_, ?_, hfresh (NodeManager.beaten h (NodeManager.clamp load) x) rfl rfl⟩
    rw [get?_sendHeartbeat, if_pos rfl, hx, Option.map_some]
  | _ => exact absurd hbeat id

/-- **Failure detection.**  Over any store whose heartbeats are naive, in every run with a
clock that never goes back: once a node has beaten, and as long as nothing else is done to it,
it is offline exactly when a check has come too late for it, and online exactly when every
check has come in time. -/
theorem detects (w : Watchdog) (s : ClusterState) (hs : Naive s) (n : NodeId)
    (l m : List (Time × NodeOp)) (h : Time) (op : NodeOp) (hbeat : Beats (exec step s l) n op)
    (hsorted : m.Pairwise fun a b => a.1 ≤ b.1) (hquiet : ∀ op ∈ m, Quiet n op.2)
    (hw : ∀ t w', (t, check w') ∈ m → w' = w) :
    ∃ x, (exec step s (l ++ (h, op) :: m)).nodes.get? n = some x ∧
      (x.status = .offline ↔ ∃ t, (t, check w) ∈ m ∧ Late w h t) ∧
      (x.status = .online ↔ ∀ t, (t, check w) ∈ m → ¬ Late w h t ∧ ¬ Slow w h t) := by
  obtain ⟨x, hx, hstart⟩ := standing_beat hbeat w h
  rw [exec_append, exec_cons]
  obtain ⟨y, hy, hstanding⟩ := standing_exec (naive_step (naive_exec hs l) (h, op)) hx hstart m
    hsorted hquiet hw
  exact ⟨y, hy, hstanding.offline, hstanding.online⟩

/-- A node joins, and a check comes half a minute later. -/
theorem detects_silence :
    ∃ x, (exec step {} [(0, .join "n1" "" [] (.num 0)), (seconds 30, .check {})]).nodes.get? "n1" =
        some x ∧
      (x.status = .offline ↔ ∃ t, (t, NodeOp.check {}) ∈ [(seconds 30, NodeOp.check {})] ∧
        Late {} 0 t) ∧
      (x.status = .online ↔ ∀ t, (t, NodeOp.check {}) ∈ [(seconds 30, NodeOp.check {})] →
        ¬ Late {} 0 t ∧ ¬ Slow {} 0 t) := by
  refine detects {} {} (fun k x hx => by cases hx) "n1" [] [(seconds 30, .check {})] 0
    (.join "n1" "" [] (.num 0)) ⟨rfl, by decide⟩ (List.pairwise_singleton _ _) ?_ ?_
  · intro op hop
    rw [List.mem_singleton.mp hop]
    exact trivial
  · intro t w' hmem
    have heq := (Prod.mk.inj (List.mem_singleton.mp hmem)).2
    injection heq

end NodeOp

end HermesCluster
