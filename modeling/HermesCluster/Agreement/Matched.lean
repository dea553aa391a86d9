import HermesCluster.Agreement.RunsOn
import HermesCluster.Lease.TaskLease

/-!
# The task table and the lease table

`Agree` says that a task runs on a node exactly when it has exactly one active lease
and that lease is on the node.  `Matched` is the invariant behind it: no task has two
active leases, the tasks that run on a node are those with an active lease there, and
the index of leases can be trusted.

A step keeps `Matched` when it changes both tables or neither (`Matched.of_tasks`,
`Matched.of_ended`, `Matched.of_started`).  `claim`, `complete` and `release` change
both.  The scheduler, `fail`, the expiry scan and the rescheduling of a recovery change
one of them only; `AgreeSafe` says when they find nothing to change.
-/

namespace HermesCluster

open ClusterState

namespace ClusterState

variable {s s' : ClusterState} {t : TaskId} {n : NodeId}

/-- A task runs on a node exactly when it has exactly one active lease and that lease is
on the node. -/
def Agree (s : ClusterState) : Prop :=
  ∀ t n, RunsOn s t n ↔ ∃ l ∈ s.leases.rows, (l.taskId = t ∧ l.status = .active) ∧
    l.nodeId = n ∧ ∀ l' ∈ s.leases.rows, l'.taskId = t → l'.status = .active → l' = l

end ClusterState

/-- The invariant of the two tables. -/
structure Matched (r : TaskRouter) : Prop where
  manager : r.leaseManager.isSome
  single : SingleLease r.state
  runs : ∀ t n, RunsOn r.state t n ↔ ∃ k, ActiveLease r.state k t n
  index : IndexOk r.state
  taskIds : r.state.tasks.get? "" = none
  leaseIds : r.state.leases.get? "" = none

namespace Matched

variable {r r' : TaskRouter} {now : Time} {t : TaskId} {n : NodeId}

theorem agree (h : Matched r) : Agree r.state := by
  intro t n
  rw [h.runs]
  refine ⟨?_, ?_⟩
  · rintro ⟨k, l, hl, hact, ht, hn⟩
    refine ⟨l, Table.mem_of_get? hl, ⟨ht, hact⟩, hn, fun l' hl' ht' hact' => ?_⟩
    have hk : l'.id = k :=
      h.single t l'.id k l'.nodeId n ⟨l', Table.get?_of_mem hl', hact', ht', rfl⟩
        ⟨l, hl, hact, ht, hn⟩
    have hl'' := Table.get?_of_mem hl'
    rw [key_lease, hk, hl] at hl''
    exact (Option.some.inj hl'').symm
  · rintro ⟨l, hl, ⟨ht, hact⟩, hn, -⟩
    exact ⟨l.id, l, Table.get?_of_mem hl, hact, ht, hn⟩

theorem ne_of_get? (h : Matched r) {x : Task} (hx : r.state.tasks.get? t = some x) : t ≠ "" := by
  rintro rfl
  rw [h.taskIds] at hx
  cases hx

/-- The lease table of a matched router. -/
theorem leasesOk (h : Matched r) : LeasesOk r := ⟨h.manager, h.single, h.index, h.leaseIds⟩

theorem of_leasesOk (h : LeasesOk r)
    (hruns : ∀ t n, RunsOn r.state t n ↔ ∃ k, ActiveLease r.state k t n)
    (hid : r.state.tasks.get? "" = none) : Matched r :=
  ⟨h.manager, h.single, hruns, h.index, hid, h.ids⟩

/-- A step that changes neither the leases nor where tasks run. -/
theorem of_tasks (h : Matched r) (hm : r'.leaseManager.isSome)
    (hl : r'.state.leases = r.state.leases)
    (hi : r'.state.taskLeaseIndex = r.state.taskLeaseIndex)
    (hr : ∀ t n, RunsOn r'.state t n ↔ RunsOn r.state t n)
    (hid : r'.state.tasks.get? "" = none) : Matched r' := by
  refine of_leasesOk (h.leasesOk.congr hm hl hi) (fun t n => ?_) hid
  rw [hr, h.runs]
  exact exists_congr fun k => (activeLease_congr hl).symm

/-- A step that ends task `t` and revokes its lease. -/
theorem of_ended (h : Matched r) (ht : t ≠ "") (hm : r'.leaseManager.isSome)
    (hl : r'.state.leases = (r.revokeLeaseOf t).state.leases)
    (hi : r'.state.taskLeaseIndex = (r.revokeLeaseOf t).state.taskLeaseIndex)
    (hr : ∀ k n, RunsOn r'.state k n ↔ k ≠ t ∧ RunsOn r.state k n)
    (hid : r'.state.tasks.get? "" = none) : Matched r' := by
  refine of_leasesOk (h.leasesOk.revoked ht hm hl hi) (fun k n => ?_) hid
  rw [hr, h.runs]
  simp only [h.leasesOk.activeLease_revoked ht hl]
  exact ⟨fun ⟨hk, id, h⟩ => ⟨id, hk, h⟩, fun ⟨id, hk, h⟩ => ⟨hk, id, h⟩⟩

/-- A step that starts a task, with no active lease so far, under the new lease `l`. -/
theorem of_started (h : Matched r) {l : Lease} (hid : l.id ≠ "")
    (hfresh : r.state.leases.get? l.id = none) (hactive : l.status = .active)
    (hfree : ∀ k n, ¬ ActiveLease r.state k l.taskId n) (hm : r'.leaseManager.isSome)
    (hl : ∀ k, r'.state.leases.get? k = if k = l.id then some l else r.state.leases.get? k)
    (hi : ∀ k, r'.state.taskLeaseIndex.get? k =
      if k = l.taskId then some ⟨l.taskId, l.id⟩ else r.state.taskLeaseIndex.get? k)
    (hr : ∀ k n, RunsOn r'.state k n ↔
      (k = l.taskId ∧ n = l.nodeId) ∨ (k ≠ l.taskId ∧ RunsOn r.state k n))
    (htid : r'.state.tasks.get? "" = none) : Matched r' := by
  refine of_leasesOk (h.leasesOk.granted hid hfresh hactive hfree hm hl hi) (fun k n => ?_) htid
  rw [hr, h.runs]
  simp only [activeLease_new hfresh hactive hl]
  refine ⟨?_, ?_⟩
  · rintro (⟨hk, hn⟩ | ⟨-, id, hold⟩)
    · exact ⟨l.id, Or.inl ⟨rfl, hk, hn⟩⟩
    · exact ⟨id, Or.inr hold⟩
  · rintro ⟨id, ⟨-, hk, hn⟩ | hold⟩
    · exact Or.inl ⟨hk, hn⟩
    · exact Or.inr ⟨fun hkt => hfree id n (hkt ▸ hold), id, hold⟩

end Matched

/-! ### Safe steps -/

open TaskRouter in
/-- The requests that keep the tables together.  `submit` and `claim` draw new ids;
`complete`, `advance` and `trigger` leave no ready task for the scheduler, except that
an advanced task may be running already where it would be put; a failed task is not
running; a claim names a node and its lease is granted. -/
def RequestSafe (r : TaskRouter) (now : Time) : Request → Prop
  | .submit token _ _ _ => r.state.tasks.get? (generateId "task" token) = none
  | .complete t => (r.state.tasks.get? t).isSome → ∀ k x, r.state.tasks.get? k = some x → k ≠ t →
      (x.status = .ready ∨ (x.status = .pending ∧ t ∈ x.dependsOn ∧
        ∀ d ∈ x.dependsOn, d = t ∨ r.state.Completed d)) →
      r.state.firstFit x.requires = none
  | .fail t _ => ∀ n, ¬ RunsOn r.state t n
  | .advance t => AdvanceAccepted r.state t →
      (∀ k x, r.state.tasks.get? k = some x → k ≠ t → x.status = .ready →
        r.state.firstFit x.requires = none) ∧
      ∀ n, RunsOn r.state t n ↔ ∃ x, r.state.tasks.get? t = some x ∧ Fit r.state x n
  | .claim token t n => ClaimAccepted r.state t →
      n ≠ "" ∧ (∀ m ∈ r.leaseManager, (addTtl now m.config.ttl).isOk) ∧
        r.state.leases.get? (generateId "lease" token) = none
  | .trigger => ∀ k x, r.state.tasks.get? k = some x →
      (x.status = .ready ∨ (x.status = .pending ∧ ∀ d ∈ x.dependsOn, r.state.Completed d)) →
      r.state.firstFit x.requires = none
  | _ => True

/-- No active lease has run out. -/
def NoneLapsed (s : ClusterState) (now : Time) : Prop :=
  ∀ l ∈ s.leases.rows, ¬ l.lapsed now

/-- A recovery of the nodes in `N` that starts no task: no active lease has run out, no
orphan fits a node with a name, and with an orphan no other ready task fits a node. -/
structure RecoverySafe (s : ClusterState) (now : Time) (N : NodeId → Prop) : Prop where
  noneLapsed : NoneLapsed s now
  orphans : ∀ t x n, s.tasks.get? t = some x → Orphan s now N t → Fit s x n → n = ""
  others : ∀ t x, s.tasks.get? t = some x → ¬ Orphan s now N t → x.status = .ready →
    (∃ j, Orphan s now N j) → s.firstFit x.requires = none

/-- The steps that keep the tables together. -/
def AgreeSafe (c : Cluster) (op : Time × ClusterOp) : Prop :=
  match op.2 with
  | .request req => RequestSafe c.router op.1 req
  | .scanLeases => NoneLapsed c.state op.1
  | .triggerRecovery n => RecoverySafe c.state op.1 (· = n)
  | .detectExpiredLeases _ => RecoverySafe c.state op.1 (ExpiredNode c.state op.1)
  | _ => True

end HermesCluster
