import HermesCluster.State.ClusterState

/-!
# `LeaseManager`

`hermes_cluster/lease/lease_manager.py` wraps the lease methods of a store.  The
store may be a `ClusterState` or a `ClusterStore`; `LeaseStore` is what the
manager calls of either.

The manager installs `_on_lease_expired` as the store's expiry callback.  That
callback takes the manager's lock, which is not reentrant, and counts the
expiry, so `_total_expired` is the number of calls the store has recorded.
`extend` scans while it holds this lock: if its scan finds a lease that has run
out, the callback waits for a lock its own thread holds, and the call never
returns.  The model says so with `none`.
-/

namespace HermesCluster

/-- The lease methods of a store. -/
class LeaseStore (σ : Type) where
  leases : σ → Table Lease
  /-- The calls made to `_lease_callback` so far, oldest first. -/
  leaseCallbackCalls : σ → List (TaskId × NodeId)
  createLease : σ → Time → String → TaskId → NodeId → Duration → Except PyError (Lease × σ)
  revokeLease : σ → LeaseId → Bool × σ
  getActiveLeases : σ → Time → List Lease × σ
  getLeaseByTask : σ → TaskId → Option Lease

instance : LeaseStore ClusterState where
  leases := ClusterState.leases
  leaseCallbackCalls := ClusterState.leaseCallbackCalls
  createLease := ClusterState.createLease
  revokeLease := ClusterState.revokeLease
  getActiveLeases := ClusterState.getActiveLeases
  getLeaseByTask := ClusterState.getLeaseByTask

structure LeaseConfig where
  ttl : Duration := seconds 60
  scanRate : Duration := seconds 10
deriving DecidableEq, Repr

structure LeaseManager where
  config : LeaseConfig := {}
  totalCreated : Nat := 0
  totalRevoked : Nat := 0
deriving DecidableEq, Repr

namespace LeaseManager

variable {σ : Type} [LeaseStore σ]

/-- `ttl or self._config.ttl`; a zero `timedelta` is false. -/
def effectiveTtl (m : LeaseManager) (ttl : Option Duration) : Duration :=
  match ttl with
  | some d => if d = 0 then m.config.ttl else d
  | none => m.config.ttl

def create (m : LeaseManager) (store : σ) (now : Time) (token : String) (taskId : TaskId)
    (nodeId : NodeId) (ttl : Option Duration := none) :
    Except PyError Lease × LeaseManager × σ :=
  if taskId = "" then (.error (.valueError "task_id is required"), m, store)
  else if nodeId = "" then (.error (.valueError "node_id is required"), m, store)
  else match LeaseStore.createLease store now token taskId nodeId (m.effectiveTtl ttl) with
    | .error e => (.error e, m, store)
    | .ok (lease, store') => (.ok lease, { m with totalCreated := m.totalCreated + 1 }, store')

def revoke (m : LeaseManager) (store : σ) (leaseId : LeaseId) : Bool × LeaseManager × σ :=
  if leaseId = "" then (false, m, store) else
  let (result, store') := LeaseStore.revokeLease store leaseId
  (result, if result then { m with totalRevoked := m.totalRevoked + 1 } else m, store')

def getByTask (_m : LeaseManager) (store : σ) (taskId : TaskId) : Option Lease :=
  if taskId = "" then none else LeaseStore.getLeaseByTask store taskId

/-- `extend`: the lease is looked up among the live ones, a new lease is created
for its task and node, and then the old one is revoked.  `none` if the call
never returns. -/
def extend (m : LeaseManager) (store : σ) (now : Time) (token : String) (leaseId : LeaseId)
    (additionalTtl : Option Duration := none) : Option (Except PyError (Option Lease) × σ) :=
  if leaseId = "" then some (.ok none, store) else
  let (activeLeases, store₁) := LeaseStore.getActiveLeases store now
  -- the callback waits for the lock `extend` holds
  if (LeaseStore.leaseCallbackCalls store).length
      < (LeaseStore.leaseCallbackCalls store₁).length then none
  else match activeLeases.find? (fun l => l.id = leaseId) with
    | none => some (.ok none, store₁)
    | some lease =>
      match LeaseStore.createLease store₁ now token lease.taskId lease.nodeId
          (m.effectiveTtl additionalTtl) with
      | .error e => some (.error e, store₁)
      | .ok (newLease, store₂) =>
        some (.ok (some newLease), (LeaseStore.revokeLease store₂ leaseId).2)

end LeaseManager

end HermesCluster
