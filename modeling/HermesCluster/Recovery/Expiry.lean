import HermesCluster.Lib.Run
import HermesCluster.Recovery.Recovered

/-!
# Acting on an expiry once

Runs of lease operations and calls of `detect_expired_leases`, with a history
variable: `since` holds the nodes with a lease that went from active to expired after
the last such call.  `detect_expired_leases` looks for expired leases in the whole
table, where they stay for good, so an old expiry counts in every later call.

`becameRevoked_iff` says which nodes lose a live lease in a call, and
`expiry_acted_on_once` what that means along a run: each call acts on new expiries
only, exactly as long as no node with a live lease has old expiries alone.
-/

namespace HermesCluster

open ClusterState Run

structure ExpiryWorld where
  state : ClusterState
  recovery : RecoveryManager := {}
  now : Time
  /-- The nodes with a lease gone from active to expired since the last call of
  `detect_expired_leases`. -/
  since : NodeId → Prop := fun _ => False

inductive ExpiryOp
  | create (token : String) (taskId : TaskId) (nodeId : NodeId) (ttl : Duration)
  | revoke (leaseId : LeaseId)
  | tick (elapsed : Nat)
  | scan
  | detect (order : SetOrder)

namespace ExpiryWorld

variable {w : ExpiryWorld} {s s' : ClusterState} {n : NodeId}

/-- A lease on `n` that was active now has the status `status`. -/
def LeaseBecame (status : LeaseStatus) (s s' : ClusterState) (n : NodeId) : Prop :=
  ∃ l ∈ s.leases.rows, l.status = .active ∧ l.nodeId = n ∧
    ∃ l' ∈ s'.leases.get? l.id, l'.status = status

instance (status : LeaseStatus) : Decidable (LeaseBecame status s s' n) := by
  unfold LeaseBecame; infer_instance

/-- The store and the clock after an operation. -/
def apply (w : ExpiryWorld) : ExpiryOp → ExpiryWorld
  | .create token taskId nodeId ttl =>
    match w.state.createLease w.now token taskId nodeId ttl with
    | .ok (_, state) => { w with state := state }
    | .error _ => w
  | .revoke leaseId => { w with state := (w.state.revokeLease leaseId).2 }
  | .tick elapsed => { w with now := w.now + elapsed }
  | .scan => { w with state := (w.state.getActiveLeases w.now).2 }
  | .detect order =>
    let (_, recovery, state) := w.recovery.detectExpiredLeases order w.state w.now
    { w with state := state, recovery := recovery }

/-- One operation, with the history variable. -/
def step (w : ExpiryWorld) (op : ExpiryOp) : ExpiryWorld :=
  { w.apply op with
    since := match op with
      | .detect _ => fun _ => False
      | _ => fun n => w.since n ∨ LeaseBecame .expired w.state (w.apply op).state n }

/-- The operation acts on new expiries only: if it is a call of
`detect_expired_leases` that revokes an active lease of `n`, then a lease of `n` has
gone from active to expired since the previous call, the scan of this one included. -/
def ActsOnNew (w : ExpiryWorld) : ExpiryOp → Prop
  | .detect order => ∀ n, LeaseBecame .revoked w.state (w.apply (.detect order)).state n →
      w.since n ∨ LeaseBecame .expired w.state (w.apply (.detect order)).state n
  | _ => True

/-- Every node that has both a live lease and an expired one, when
`detect_expired_leases` is called, has a lease that expired since the previous call, or
one that has run out and is yet to be marked. -/
def NoOldExpiry (w : ExpiryWorld) : ExpiryOp → Prop
  | .detect _ => ∀ n, (∃ l ∈ w.state.leases.rows, l.nodeId = n ∧ l.live w.now) →
      (∃ l ∈ w.state.leases.rows, l.nodeId = n ∧ l.status = .expired) →
      w.since n ∨ ∃ l ∈ w.state.leases.rows, l.nodeId = n ∧ l.lapsed w.now
  | _ => True

theorem leaseBecame_recovered {status : LeaseStatus} {now : Time} {N : NodeId → Prop}
    [DecidablePred N] (h : Recovered now N s s') : LeaseBecame status s s' n ↔
      ∃ l ∈ s.leases.rows, l.status = .active ∧ l.nodeId = n ∧
        (recoveredLease now N l).status = status := by
  refine exists_congr fun l => and_congr_right fun hl => ?_
  have hget : s'.leases.get? l.id = some (recoveredLease now N l) := by
    rw [h.leases, ← key_lease, Table.get?_of_mem hl]; rfl
  simp [hget]

/-- A recovery marks the leases that have run out. -/
theorem becameExpired_iff {now : Time} {N : NodeId → Prop} [DecidablePred N]
    (h : Recovered now N s s') :
    LeaseBecame .expired s s' n ↔ ∃ l ∈ s.leases.rows, l.nodeId = n ∧ l.lapsed now := by
  rw [leaseBecame_recovered h]
  refine exists_congr fun l => and_congr_right fun _ => ?_
  refine ⟨?_, ?_⟩
  · rintro ⟨hact, hn, hexp⟩
    refine ⟨hn, ?_⟩
    unfold recoveredLease at hexp
    split at hexp
    · cases hexp
    · exact (Lease.aged_status_expired.mp hexp).resolve_left (by rw [hact]; decide)
  · rintro ⟨hn, hlap⟩
    refine ⟨(Lease.lapsed_iff.mp hlap).1, hn, ?_⟩
    rw [recoveredLease, if_neg fun hc => Lease.not_lapsed_of_live hc.1 hlap]
    exact Lease.aged_status_expired.mpr (Or.inr hlap)

/-- **Who loses a lease.**  A recovery revokes an active lease of the nodes it recovers
that have a live one. -/
theorem becameRevoked_iff {now : Time} {N : NodeId → Prop} [DecidablePred N]
    (h : Recovered now N s s') :
    LeaseBecame .revoked s s' n ↔ N n ∧ ∃ l ∈ s.leases.rows, l.nodeId = n ∧ l.live now := by
  rw [leaseBecame_recovered h]
  refine ⟨?_, ?_⟩
  · rintro ⟨l, hl, hact, rfl, hrev⟩
    by_cases hc : l.live now ∧ N l.nodeId
    · exact ⟨hc.2, l, hl, rfl, hc.1⟩
    · rw [recoveredLease, if_neg hc, Lease.aged] at hrev
      split at hrev
      · cases hrev
      · rw [hact] at hrev; cases hrev
  · rintro ⟨hN, l, hl, rfl, hlive⟩
    refine ⟨l, hl, (Lease.live_iff.mp hlive).1, rfl, ?_⟩
    rw [recoveredLease, if_pos ⟨hlive, hN⟩]; rfl

/-- **Step lemma.** -/
theorem actsOnNew_iff (w : ExpiryWorld) (op : ExpiryOp) :
    w.ActsOnNew op ↔ w.NoOldExpiry op := by
  cases op with
  | detect order =>
    have h : Recovered w.now (ExpiredNode w.state w.now) w.state
        (w.apply (.detect order)).state :=
      recovered_detectExpiredLeases order w.recovery w.state w.now
    refine forall_congr' fun n => ?_
    rw [becameRevoked_iff h, becameExpired_iff h]
    refine ⟨?_, ?_⟩
    · rintro hacts hlive ⟨l, hl, hn, hexp⟩
      exact hacts ⟨⟨l, hl, hn, Or.inl hexp⟩, hlive⟩
    · rintro hold ⟨⟨l, hl, hn, hexp | hlap⟩, hlive⟩
      · exact hold hlive ⟨l, hl, hn, hexp⟩
      · exact Or.inr ⟨l, hl, hn, hlap⟩
  | _ => exact Iff.rfl

/-- The world of a store without leases, before the first call. -/
def init (nodes : Table Node) (tasks : Table Task) (now : Time) : ExpiryWorld :=
  { state := { nodes := nodes, tasks := tasks }, now := now }

/-- **An expiry is acted on once.**  From a store without leases, along every run of
lease operations and detections: no call of `detect_expired_leases` revokes an active
lease of a node without a new expiry, exactly when at each call every node with a live
lease and an expired one has a new expiry. -/
theorem expiry_acted_on_once (nodes : Table Node) (tasks : Table Task) (now : Time)
    (run : List ExpiryOp) :
    EachStep step ActsOnNew (init nodes tasks now) run ↔
      EachStep step NoOldExpiry (init nodes tasks now) run :=
  ⟨fun h => h.imp fun w op => (actsOnNew_iff w op).mp,
    fun h => h.imp fun w op => (actsOnNew_iff w op).mpr⟩

/-- A lease runs out and is detected; the node gets a new lease, and the next call takes
it away. -/
theorem expiry_acted_on_twice :
    ¬ ActsOnNew (exec step (init Table.empty Table.empty 0)
      [.create "a" "t1" "n1" (seconds 1), .tick 2000000, .detect SetOrder.dedup,
        .create "b" "t2" "n1" (seconds 60)]) (.detect SetOrder.dedup) := by
  intro h
  rcases h "n1" (by decide) with (hsince | hexp) | hexp
  · exact hsince
  · exact absurd hexp (by decide)
  · exact absurd hexp (by decide)

end ExpiryWorld

end HermesCluster
