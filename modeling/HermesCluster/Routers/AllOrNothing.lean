import HermesCluster.Lease.TaskLease
import HermesCluster.Routers.StoreRouter
import HermesCluster.State.StoreSpec

/-!
# Claims and releases that stop half way

`claim_task` and `release_task` write the task, then the task object under the lock of the
store, and the leases through the manager, each on its own.  A call is all or nothing when it
either returns with all of it done or raises with none.

Over a `ClusterState` a claim stops after the task when the manager refuses the lease, and a
release revokes the one lease `get_lease_by_task` finds.  Over a `ClusterStore` both stop at
the lock, which a `ClusterStore` does not have.
-/

namespace HermesCluster

/-- The call `out` returned and left what `done` says, or raised and left `tables` as they
were `before`. -/
def AllOrNothing {σ τ α : Type} (tables : σ → τ) (done : σ → Prop) (before : σ)
    (out : Except PyError α × σ) : Prop :=
  match out.1 with
  | .ok _ => done out.2
  | .error _ => tables out.2 = tables before

section

variable {σ τ α : Type} {tables : σ → τ} {done : σ → Prop} {before : σ}

/-- A call that raises before its first write. -/
theorem allOrNothing_of_raised {out : Except PyError α × σ} (h : ∃ e, out = (.error e, before)) :
    AllOrNothing tables done before out := by
  obtain ⟨e, rfl⟩ := h
  rfl

theorem allOrNothing_error_iff {e : PyError} {after : σ} :
    AllOrNothing tables done before ((.error e : Except PyError α), after) ↔
      tables after = tables before := Iff.rfl

end

/-! ### `LeaseManager.create` -/

namespace LeaseManager

variable {m : LeaseManager} {s : ClusterState} {now : Time} {t : TaskId} {n : NodeId}

/-- What `create` checks: both ids are there, and the lease ends in a year `datetime` has. -/
def Grants (m : LeaseManager) (now : Time) (t : TaskId) (n : NodeId) : Prop :=
  t ≠ "" ∧ n ≠ "" ∧ ∃ expiresAt, addTtl now m.config.ttl = .ok expiresAt

theorem create_granted (h : m.Grants now t n) (s : ClusterState) (token : String) :
    ∃ lease m' s', m.create s now token t n = (.ok lease, m', s') ∧ s'.tasks = s.tasks ∧
      s'.ActiveLease lease.id t n := by
  obtain ⟨ht, hn, expiresAt, httl⟩ := h
  have hlease : LeaseStore.createLease s now token t n (m.effectiveTtl none) = _ :=
    ClusterState.createLease_of_ttl httl
  rw [create, if_neg ht, if_neg hn, hlease]
  refine ⟨_, _, _, rfl, rfl, ?_⟩
  exact ⟨_, (Table.get?_put _ _ _).trans (if_pos rfl), rfl, rfl, rfl⟩

theorem create_refused (h : ¬ m.Grants now t n) (s : ClusterState) (token : String) :
    ∃ e, m.create s now token t n = (.error e, m, s) := by
  rw [create]
  by_cases ht : t = ""
  · exact ⟨_, if_pos ht⟩
  · rw [if_neg ht]
    by_cases hn : n = ""
    · exact ⟨_, if_pos hn⟩
    · rw [if_neg hn]
      cases httl : addTtl now m.config.ttl with
      | ok expiresAt => exact absurd ⟨ht, hn, expiresAt, httl⟩ h
      | error e =>
        have hlease : LeaseStore.createLease s now token t n (m.effectiveTtl none) = _ :=
          ClusterState.createLease_of_overflow httl
        rw [hlease]
        exact ⟨e, rfl⟩

end LeaseManager

/-! ### Over a `ClusterState` -/

namespace TaskRouter

open ClusterState

variable {r : TaskRouter} {now : Time} {t : TaskId} {n : NodeId}

/-- The tables the two handlers write. -/
def claimTables (r : TaskRouter) : Table Task × Table Lease := (r.state.tasks, r.state.leases)

/-- The task runs on the node and, with a manager, has an active lease. -/
def Claimed (t : TaskId) (n : NodeId) (r : TaskRouter) : Prop :=
  (∃ x, r.state.tasks.get? t = some x ∧ x.status = .running ∧ x.assignedTo = some n) ∧
    (r.leaseManager.isSome → ∃ k, ActiveLease r.state k t n)

/-- The task is ready and nobody has it. -/
def Released (t : TaskId) (r : TaskRouter) : Prop :=
  (∃ x, r.state.tasks.get? t = some x ∧ x.status = .ready ∧ x.assignedTo = none) ∧
    ∀ k n, ¬ ActiveLease r.state k t n

/-- An accepted claim without a manager. -/
theorem claimTask_of_none (h : ClaimAccepted r.state t) (hm : r.leaseManager = none) (now : Time)
    (token : String) (n : NodeId) : ∃ a, r.claimTask now token t n =
      (.ok a, { r with state := claimedState r.state now t n }) := by
  obtain ⟨x, hx, hr, ha⟩ := h
  rw [claimTask, getTask, hx]
  dsimp only
  rw [if_neg (not_not.mpr hr), if_neg (not_not.mpr ha), hm]
  exact ⟨_, rfl⟩

/-- An accepted claim does what the manager does last. -/
theorem claimTask_of_create (h : ClaimAccepted r.state t) {m m' : LeaseManager} {token : String}
    {s' : ClusterState} {answer : Except PyError Lease} (hm : r.leaseManager = some m)
    (hcreate : m.create (claimedState r.state now t n) now token t n = (answer, m', s')) :
    r.claimTask now token t n = (answer.map fun _ => .claimed (s'.getTask t),
      { state := s', leaseManager := some m' }) := by
  obtain ⟨x, hx, hr, ha⟩ := h
  rw [claimedState] at hcreate
  rw [claimTask, getTask, hx]
  dsimp only
  rw [if_neg (not_not.mpr hr), if_neg (not_not.mpr ha), hm]
  dsimp only
  rw [hcreate]
  cases answer with
  | error e => rfl
  | ok lease => rfl

/-- The task of an accepted claim runs on the node, and is not what it was. -/
theorem claimedState_task (h : ClaimAccepted r.state t) (now : Time) (n : NodeId) :
    (∃ x, (claimedState r.state now t n).tasks.get? t = some x ∧ x.status = .running ∧
      x.assignedTo = some n) ∧
    (claimedState r.state now t n).tasks ≠ r.state.tasks := by
  obtain ⟨x, hx, hr, ha⟩ := h
  have hget : (claimedState r.state now t n).tasks.get? t =
      some (claimedBy now n (withStatus now .running "" x)) := by
    rw [get?_claimedState, if_pos rfl, hx]
    rfl
  refine ⟨⟨_, hget, rfl, rfl⟩, fun heq => ?_⟩
  rw [heq, hx] at hget
  have hassigned := congrArg Task.assignedTo (Option.some.inj hget)
  rw [ha] at hassigned
  cases hassigned

/-- **A claim** is all or nothing unless it gets past its checks and the manager refuses the
lease. -/
theorem claim_iff (r : TaskRouter) (now : Time) (token : String) (t : TaskId) (n : NodeId) :
    AllOrNothing claimTables (Claimed t n) r (r.claimTask now token t n) ↔
      (ClaimAccepted r.state t → ∀ m, r.leaseManager = some m → m.Grants now t n) := by
  by_cases hc : ClaimAccepted r.state t
  · obtain ⟨htask, hchanged⟩ := claimedState_task hc now n
    cases hm : r.leaseManager with
    | none =>
      obtain ⟨a, hclaim⟩ := claimTask_of_none hc hm now token n
      rw [hclaim]
      refine iff_of_true ⟨htask, fun hsome => ?_⟩ fun _ m h => by cases h
      rw [hm] at hsome
      cases hsome
    | some m =>
      by_cases hg : m.Grants now t n
      · obtain ⟨lease, m', s', hcreate, htasks, hlease⟩ :=
          LeaseManager.create_granted hg (claimedState r.state now t n) token
        rw [claimTask_of_create hc hm hcreate]
        refine iff_of_true ⟨?_, fun _ => ⟨_, hlease⟩⟩ fun _ m' h => ?_
        · rw [htasks]
          exact htask
        · cases h
          exact hg
      · obtain ⟨e, hcreate⟩ :=
          LeaseManager.create_refused hg (claimedState r.state now t n) token
        rw [claimTask_of_create hc hm hcreate]
        refine iff_of_false (fun h => hchanged ?_) fun h => hg (h hc m rfl)
        exact congrArg Prod.fst h
  · exact iff_of_true (allOrNothing_of_raised (claimTask_raised hc now token n))
      fun h => absurd h hc

/-! ### The lease a release finds -/

/-- Lease `k` is the only active lease of the task, and the index of task ids leads to no
other active lease. -/
def SoleLease (s : ClusterState) (t : TaskId) (k : LeaseId) : Prop :=
  (∀ k' n, ActiveLease s k' t n → k' = k) ∧
    ∀ e l, s.taskLeaseIndex.get? t = some e → e.leaseId ≠ "" →
      s.leases.get? e.leaseId = some l → l.status = .active → l.id = k

theorem getLeaseByTask_of_indexed {s : ClusterState} (ht : t ≠ "") {e : IndexEntry}
    {l : Lease} (he : s.taskLeaseIndex.get? t = some e) (hid : e.leaseId ≠ "")
    (hl : s.leases.get? e.leaseId = some l) (hact : l.status = .active) :
    s.getLeaseByTask t = some l := by
  rw [getLeaseByTask, if_neg ht, he, Option.bind_some, if_pos hid, hl, Option.filter_some,
    if_pos (by simpa using hact), Option.some_or]

/-- Where the task has the active lease `k`, `get_lease_by_task` finds `k` and there is no
other exactly when it is the sole one. -/
theorem soleLease_iff {s : ClusterState} (ht : t ≠ "") {k : LeaseId}
    (hk : ActiveLease s k t n) :
    SoleLease s t k ↔ (∃ l, s.getLeaseByTask t = some l ∧ l.id = k) ∧
      ∀ k' n, ActiveLease s k' t n → k' = k := by
  refine ⟨?_, ?_⟩
  · rintro ⟨hsole, hindex⟩
    refine ⟨?_, hsole⟩
    cases hl : s.getLeaseByTask t with
    | none => exact absurd hk (getLeaseByTask_none ht hl)
    | some l =>
      refine ⟨l, rfl, ?_⟩
      rw [getLeaseByTask, if_neg ht] at hl
      rcases Option.or_eq_some_iff.mp hl with hi | ⟨-, hf⟩
      · obtain ⟨hb, hact⟩ := Option.filter_eq_some_iff.mp hi
        obtain ⟨e, he, hl'⟩ := Option.bind_eq_some_iff.mp hb
        split at hl'
        · rename_i hid
          exact hindex e l he hid hl' (by simpa using hact)
        · cases hl'
      · have hp := List.find?_some hf
        simp only [decide_eq_true_eq] at hp
        exact hsole l.id l.nodeId
          ⟨l, Table.get?_of_mem (List.mem_of_find?_eq_some hf), hp.2, hp.1, rfl⟩
  · rintro ⟨⟨l, hl, hid⟩, hsole⟩
    refine ⟨hsole, fun e l' he hne hl' hact => ?_⟩
    have hl'' := getLeaseByTask_of_indexed ht he hne hl' hact
    obtain rfl := Option.some.inj (hl.symm.trans hl'')
    exact hid

/-- The lease the lease step revokes. -/
def foundLease (r : TaskRouter) (t : TaskId) : Option Lease :=
  (r.leaseManager.bind fun m => m.getByTask r.state t).filter (·.id ≠ "")

theorem foundLease_eq_some_iff {l : Lease} : foundLease r t = some l ↔
    r.leaseManager.isSome ∧ t ≠ "" ∧ r.state.getLeaseByTask t = some l ∧ l.id ≠ "" := by
  rw [foundLease, Option.filter_eq_some_iff]
  cases r.leaseManager with
  | none => simp
  | some m =>
    rw [Option.bind_some, LeaseManager.getByTask]
    by_cases ht : t = ""
    · simp [ht]
    · rw [if_neg ht]
      simp [ht, LeaseStore.getLeaseByTask]

/-- The lease step takes the active lease it finds, and no other. -/
theorem activeLease_revokeLeaseOf_iff {k : LeaseId} :
    ActiveLease (r.revokeLeaseOf t).state k t n ↔
      ActiveLease r.state k t n ∧ ¬ ∃ l, foundLease r t = some l ∧ l.id = k := by
  rw [revokeLeaseOf_state, ← foundLease]
  cases foundLease r t with
  | none => simp
  | some l =>
    dsimp only
    rw [activeLease_revokeLease, and_comm]
    refine and_congr_right fun _ => ⟨?_, ?_⟩
    · rintro hk ⟨l', hl', hid⟩
      obtain rfl := Option.some.inj hl'
      exact hk hid.symm
    · rintro h rfl
      exact h ⟨l, rfl, rfl⟩

/-- The lease step leaves the task without an active lease exactly when there was none, or a
sole one with an id that a manager can revoke. -/
theorem noLease_revokeLeaseOf_iff (r : TaskRouter) (t : TaskId) :
    (∀ k n, ¬ ActiveLease (r.revokeLeaseOf t).state k t n) ↔
      ∀ k n, ActiveLease r.state k t n →
        r.leaseManager.isSome ∧ t ≠ "" ∧ k ≠ "" ∧ SoleLease r.state t k := by
  have hfound : (∀ k n, ¬ ActiveLease (r.revokeLeaseOf t).state k t n) ↔
      ∀ k n, ActiveLease r.state k t n → ∃ l, foundLease r t = some l ∧ l.id = k := by
    simp only [activeLease_revokeLeaseOf_iff, not_and, not_not]
  rw [hfound]
  refine ⟨fun h k n hk => ?_, fun h k n hk => ?_⟩
  · obtain ⟨l, hl, rfl⟩ := h k n hk
    obtain ⟨hm, ht, hget, hid⟩ := foundLease_eq_some_iff.mp hl
    refine ⟨hm, ht, hid, (soleLease_iff ht hk).mpr ⟨⟨l, hget, rfl⟩, fun k' n' hk' => ?_⟩⟩
    obtain ⟨l', hl', rfl⟩ := h k' n' hk'
    rw [hl] at hl'
    rw [Option.some.inj hl']
  · obtain ⟨hm, ht, hid, hsole⟩ := h k n hk
    obtain ⟨⟨l, hget, rfl⟩, -⟩ := (soleLease_iff ht hk).mp hsole
    exact ⟨l, foundLease_eq_some_iff.mpr ⟨hm, ht, hget, hid⟩, rfl⟩

theorem releaseTask_returned (h : ReleaseAccepted r.state t n) (now : Time)
    (reason : Option String) : ∃ a, (r.releaseTask now t n reason).1 = .ok a := by
  obtain ⟨x, hx, ha⟩ := h
  rw [releaseTask, getTask, hx]
  dsimp only
  rw [if_neg (not_not.mpr ha)]
  exact ⟨_, rfl⟩

/-- **A release** is all or nothing unless it gets past its check and the task has an active
lease that is not its sole one, or that no manager can revoke. -/
theorem release_iff (r : TaskRouter) (now : Time) (t : TaskId) (n : NodeId)
    (reason : Option String) :
    AllOrNothing claimTables (Released t) r (r.releaseTask now t n reason) ↔
      (ReleaseAccepted r.state t n → ∀ k n', ActiveLease r.state k t n' →
        r.leaseManager.isSome ∧ t ≠ "" ∧ k ≠ "" ∧ SoleLease r.state t k) := by
  by_cases hc : ReleaseAccepted r.state t n
  · obtain ⟨a, hreturned⟩ := releaseTask_returned hc now reason
    have hleases : (releasedState r now t reason).leases = (r.revokeLeaseOf t).state.leases := rfl
    have htask : ∃ y, (releasedState r now t reason).tasks.get? t = some y ∧
        y.status = .ready ∧ y.assignedTo = none := by
      obtain ⟨x, hx, -⟩ := hc
      rw [get?_releasedState, if_pos rfl, hx]
      exact ⟨_, rfl, rfl, rfl⟩
    rw [AllOrNothing, hreturned]
    dsimp only
    rw [Released, releaseTask_accepted now hc, and_iff_right htask, imp_iff_right hc,
      ← noLease_revokeLeaseOf_iff]
    simp only [activeLease_congr hleases]
  · exact iff_of_true (allOrNothing_of_raised (releaseTask_raised hc now reason))
      fun h => absurd h hc

end TaskRouter

/-! ### Over a `ClusterStore` -/

namespace StoreRouter

variable {r : StoreRouter} {now : Time} {t : TaskId} {n : NodeId}

/-- The tables the two handlers write. -/
def claimTables (r : StoreRouter) : Table TaskRow × Table Lease := (r.state.tasks, r.state.leases)

/-- The task runs on the node and, with a manager, has an active lease. -/
def Claimed (t : TaskId) (n : NodeId) (r : StoreRouter) : Prop :=
  (∃ x, r.state.getTask t = .ok (some x) ∧ x.status = .running ∧ x.assignedTo = some n) ∧
    (r.leaseManager.isSome → ∃ l ∈ r.state.leases.rows,
      l.status = .active ∧ l.taskId = t ∧ l.nodeId = n)

/-- The task is ready and nobody has it. -/
def Released (t : TaskId) (r : StoreRouter) : Prop :=
  (∃ x, r.state.getTask t = .ok (some x) ∧ x.status = .ready ∧ x.assignedTo = none) ∧
    ∀ l ∈ r.state.leases.rows, l.taskId = t → l.status ≠ .active

/-- Whether `claim` gets past its checks: the task can be read, is ready and nobody's. -/
def ClaimAccepted (s : ClusterStore) (t : TaskId) : Prop :=
  ∃ x, s.getTask t = .ok (some x) ∧ x.status = .ready ∧ x.assignedTo = none

/-- Whether `release` gets past its check: the task can be read and is the node's. -/
def ReleaseAccepted (s : ClusterStore) (t : TaskId) (n : NodeId) : Prop :=
  ∃ x, s.getTask t = .ok (some x) ∧ x.assignedTo = some n

/-- Setting the status of a task that can be read counts its version. -/
theorem setTaskStatus_ne {s : ClusterStore} {x : Task} (hx : s.getTask t = .ok (some x))
    (now : Time) (status : TaskStatus) : (s.setTaskStatus now t status).tasks ≠ s.tasks := by
  intro heq
  have hget := ClusterStore.get?_setTaskStatus s now t status "" t
  rw [if_pos rfl, heq] at hget
  rw [ClusterStore.getTask] at hx
  cases hr : s.tasks.get? t with
  | none =>
    rw [hr] at hx
    cases hx
  | some row =>
    have hdecodes : ClusterStore.decodes row = true := by
      by_contra hd
      obtain ⟨e, he⟩ := ClusterStore.rowToTask_error (Bool.eq_false_iff.mpr hd)
      rw [hr] at hx
      dsimp only at hx
      rw [he] at hx
      cases hx
    obtain ⟨-, -, hfits⟩ := ClusterStore.decodes_iff.mp hdecodes
    rw [hr, Option.map_some, Option.some.injEq] at hget
    have hversion : row.version = ClusterStore.bumped row.version := congrArg TaskRow.version hget
    rw [ClusterStore.bumped_of_fits hfits] at hversion
    omega

/-- A handler that reads a task first and then raises. -/
theorem raised_of_getTask {α : Type} {p : Option Task → Handler α}
    (hnone : ∃ e, p none r = (.error e, r))
    (hsome : ∀ x, r.state.getTask t = .ok (some x) → ∃ e, p (some x) r = (.error e, r)) :
    ∃ e, (getTask t >>= p) r = (.error e, r) := by
  cases hx : r.state.getTask t with
  | error e =>
    have hread : getTask t r = (.error e, r) := congrArg (·, r) hx
    exact ⟨e, Raise.run_bind_of_error _ hread⟩
  | ok task =>
    have hread : getTask t r = (.ok task, r) := congrArg (·, r) hx
    rw [Raise.run_bind_of_ok _ hread]
    cases task with
    | none => exact hnone
    | some x => exact hsome x hx

theorem claimTask_raised (h : ¬ ClaimAccepted r.state t) (now : Time) :
    ∃ e, claimTask now t r = (.error e, r) := by
  refine raised_of_getTask ⟨_, rfl⟩ fun x hx => ?_
  dsimp only
  by_cases hr : x.status = .ready
  · have ha : x.assignedTo ≠ none := fun ha => h ⟨x, hx, hr, ha⟩
    rw [if_neg (not_not.mpr hr), if_pos ha]
    exact ⟨_, rfl⟩
  · rw [if_pos hr]
    exact ⟨_, rfl⟩

/-- An accepted claim makes the task running, and stops there. -/
theorem claimTask_stops (h : ClaimAccepted r.state t) (now : Time) : claimTask now t r =
    (.error noTasksLock, { r with state := r.state.setTaskStatus now t .running }) := by
  obtain ⟨x, hx, hr, ha⟩ := h
  have hread : getTask t r = (.ok (some x), r) := congrArg (·, r) hx
  rw [claimTask, Raise.run_bind_of_ok _ hread]
  dsimp only
  rw [if_neg (not_not.mpr hr), if_neg (not_not.mpr ha)]
  rfl

theorem releaseTask_raised (h : ¬ ReleaseAccepted r.state t n) (now : Time) :
    ∃ e, releaseTask now t n r = (.error e, r) := by
  refine raised_of_getTask ⟨_, rfl⟩ fun x hx => ?_
  dsimp only
  rw [if_pos fun ha => h ⟨x, hx, ha⟩]
  exact ⟨_, rfl⟩

/-- An accepted release takes the lease, makes the task ready, and stops there. -/
theorem releaseTask_stops (h : ReleaseAccepted r.state t n) (now : Time) : releaseTask now t n r =
    (.error noTasksLock, { r.revokeLeaseOf t with
      state := (r.revokeLeaseOf t).state.setTaskStatus now t .ready }) := by
  obtain ⟨x, hx, ha⟩ := h
  have hread : getTask t r = (.ok (some x), r) := congrArg (·, r) hx
  rw [releaseTask, Raise.run_bind_of_ok _ hread]
  dsimp only
  rw [if_neg (not_not.mpr ha)]
  rfl

theorem tasks_revokeLeaseOf (r : StoreRouter) (t : TaskId) :
    (r.revokeLeaseOf t).state.tasks = r.state.tasks := by
  rw [revokeLeaseOf]
  cases r.leaseManager with
  | none => rfl
  | some m =>
    dsimp only
    cases m.getByTask r.state t with
    | none => rfl
    | some l =>
      dsimp only
      rw [LeaseManager.revoke]
      split
      · rfl
      · rfl

/-- **A claim** is all or nothing only when it is refused. -/
theorem claim_iff (r : StoreRouter) (now : Time) (t : TaskId) (n : NodeId) :
    AllOrNothing claimTables (Claimed t n) r (claimTask now t r) ↔ ¬ ClaimAccepted r.state t := by
  by_cases hc : ClaimAccepted r.state t
  · rw [claimTask_stops hc, allOrNothing_error_iff]
    have ⟨x, hx, _⟩ := hc
    refine iff_of_false (fun h => ?_) (not_not.mpr hc)
    exact setTaskStatus_ne hx now .running (congrArg Prod.fst h)
  · exact iff_of_true (allOrNothing_of_raised (claimTask_raised hc now)) hc

/-- **A release** is all or nothing only when it is refused. -/
theorem release_iff (r : StoreRouter) (now : Time) (t : TaskId) (n : NodeId) :
    AllOrNothing claimTables (Released t) r (releaseTask now t n r) ↔
      ¬ ReleaseAccepted r.state t n := by
  by_cases hc : ReleaseAccepted r.state t n
  · rw [releaseTask_stops hc, allOrNothing_error_iff]
    have ⟨x, hx, _⟩ := hc
    have htasks := tasks_revokeLeaseOf r t
    refine iff_of_false (fun h => ?_) (not_not.mpr hc)
    have hx' : (r.revokeLeaseOf t).state.getTask t = .ok (some x) := by
      rw [ClusterStore.getTask, htasks]
      exact hx
    exact setTaskStatus_ne hx' now .ready ((congrArg Prod.fst h).trans htasks.symm)
  · exact iff_of_true (allOrNothing_of_raised (releaseTask_raised hc now)) hc

end StoreRouter

/-! ### Both stores -/

/-- **Claim and release.**  Over a `ClusterState` a claim is all or nothing exactly when it is
refused or the manager, if there is one, grants the lease, and a release exactly when it is
refused or the task has no active lease but a sole one that a manager can revoke.  Over a
`ClusterStore` they are exactly when they are refused. -/
theorem claim_release_iff (now : Time) (token : String) (t : TaskId) (n : NodeId)
    (reason : Option String) :
    (∀ r : TaskRouter, AllOrNothing TaskRouter.claimTables (TaskRouter.Claimed t n) r
      (r.claimTask now token t n) ↔
        (TaskRouter.ClaimAccepted r.state t →
          ∀ m, r.leaseManager = some m → m.Grants now t n)) ∧
    (∀ r : TaskRouter, AllOrNothing TaskRouter.claimTables (TaskRouter.Released t) r
      (r.releaseTask now t n reason) ↔
        (TaskRouter.ReleaseAccepted r.state t n → ∀ k n', r.state.ActiveLease k t n' →
          r.leaseManager.isSome ∧ t ≠ "" ∧ k ≠ "" ∧ TaskRouter.SoleLease r.state t k)) ∧
    (∀ r : StoreRouter, AllOrNothing StoreRouter.claimTables (StoreRouter.Claimed t n) r
      (StoreRouter.claimTask now t r) ↔ ¬ StoreRouter.ClaimAccepted r.state t) ∧
    (∀ r : StoreRouter, AllOrNothing StoreRouter.claimTables (StoreRouter.Released t) r
      (StoreRouter.releaseTask now t n r) ↔ ¬ StoreRouter.ReleaseAccepted r.state t n) :=
  ⟨fun r => TaskRouter.claim_iff r now token t n,
    fun r => TaskRouter.release_iff r now t n reason,
    fun r => StoreRouter.claim_iff r now t n, fun r => StoreRouter.release_iff r now t n⟩

/-- A `ClusterStore` with one ready task. -/
def readyTaskStore : ClusterStore where
  tasks := Table.empty.put
    { id := "task_a", title := "build", status := "ready", createdAt := 1, updatedAt := 1,
      version := 1 }

/-- A claim of the task raises and leaves it running with no assignee; over a `ClusterState`, a
claim for the node with the empty id raises and leaves the task running on it. -/
theorem claim_half_done :
    let r : StoreRouter := { state := readyTaskStore, leaseManager := some {} }
    let q := Run.exec TaskRouter.step TaskRouter.init [(1, .submit "a" "build" [] 3)]
    (StoreRouter.claimTask 2 "task_a" r).1 = .error StoreRouter.noTasksLock ∧
      ((StoreRouter.claimTask 2 "task_a" r).2.state.tasks.get? "task_a").map
        (fun x => (x.status, x.assignedTo)) = some ("running", none) ∧
      ¬ AllOrNothing StoreRouter.claimTables (StoreRouter.Claimed "task_a" "n1") r
        (StoreRouter.claimTask 2 "task_a" r) ∧
      (q.claimTask 2 "b" "task_a" "").1 = .error (.valueError "node_id is required") ∧
      ((q.claimTask 2 "b" "task_a" "").2.state.tasks.get? "task_a").map
        (fun x => (x.status, x.assignedTo)) = some (.running, some "") ∧
      ¬ AllOrNothing TaskRouter.claimTables (TaskRouter.Claimed "task_a" "") q
        (q.claimTask 2 "b" "task_a" "") := by
  refine ⟨by decide, by decide, fun h => ?_, by decide, by decide, fun h => ?_⟩
  · have htasks : (StoreRouter.claimTask 2 "task_a" _).2.state.tasks = _ := congrArg Prod.fst h
    exact absurd htasks (by decide)
  · have htasks : (TaskRouter.claimTask _ 2 "b" "task_a" "").2.state.tasks = _ :=
      congrArg Prod.fst h
    exact absurd htasks (by decide)

end HermesCluster
