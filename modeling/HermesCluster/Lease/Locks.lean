import HermesCluster.Lib.Lock
import HermesCluster.Lease.LeaseManager

/-!
# The locks of the lease manager

The operations of `LeaseManager` over a `ClusterState`, with the locks they take:
`LeaseManager._lock` and `ClusterState._leases_lock`.  Neither is reentrant.

A scan holds `_leases_lock` while it calls `_on_lease_expired` for each lease that is due;
that takes `_lock`, gives it back, and calls the callbacks `on_expire` registered.  Of such a
callback only the locks it takes are modelled, one after the other.

* `extend_run`, `create_run`, `revoke_run`: run by a thread that holds no lock, these are the
  operations of `LeaseManager`.
* `perform_returns_iff`: which operations never acquire a lock their own call chain holds.
-/

namespace HermesCluster

inductive Lock
  /-- `LeaseManager._lock` -/
  | manager
  /-- `ClusterState._leases_lock` -/
  | leases
  | other (name : String)
deriving DecidableEq, Repr

/-- A lease manager and its store. -/
structure ManagedStore where
  store : ClusterState := {}
  manager : LeaseManager := {}
  /-- The registered callbacks, by the locks they take for a task and a node. -/
  callbacks : List (TaskId → NodeId → List Lock) := []
  /-- `_on_node_online` and `_on_capability_change` of the store, by the locks they take. -/
  onNodeOnline : NodeId → List Lock := fun _ => []
  onCapabilityChange : NodeId → List Capability → List Capability → List Lock := fun _ _ _ => []
  totalExpired : Nat := 0
  activeCount : Nat := 0
  expiredCount : Nat := 0

/-- What `stats` returns of the counters. -/
structure LeaseStats where
  activeCount : Nat
  totalCreated : Nat
  totalRevoked : Nat
  totalExpired : Nat
deriving DecidableEq, Repr

namespace ManagedStore

abbrev Op := LockM Lock ManagedStore

open LockM

/-! ### The store -/

def storeCreateLease (now : Time) (token : String) (taskId : TaskId) (nodeId : NodeId)
    (ttl : Duration) : Op (Except PyError Lease) :=
  match addTtl now ttl with
  | .error e => pure (.error e)
  | .ok _ => withLock .leases (lift fun w =>
    match w.store.createLease now token taskId nodeId ttl with
    | .error e => (.error e, w)
    | .ok (lease, store) => (.ok lease, { w with store := store }))

def storeRevokeLease (leaseId : LeaseId) : Op Bool :=
  withLock .leases (lift fun w =>
    ((w.store.revokeLease leaseId).1, { w with store := (w.store.revokeLease leaseId).2 }))

def storeGetLeaseByTask (taskId : TaskId) : Op (Option Lease) :=
  if taskId = "" then pure none
  else withLock .leases (lift fun w => (w.store.getLeaseByTask taskId, w))

/-- A callback, of which only the locks are known. -/
def callBack (taskId : TaskId) (nodeId : NodeId) (cb : TaskId → NodeId → List Lock) : Op Unit :=
  each (fun l => withLock l (pure ())) (cb taskId nodeId)

/-- `_on_lease_expired`, the callback the manager installs in the store. -/
def onLeaseExpired (taskId : TaskId) (nodeId : NodeId) : Op Unit := do
  let callbacks ← withLock .manager (lift fun w =>
    (w.callbacks, { w with totalExpired := w.totalExpired + 1 }))
  each (callBack taskId nodeId) callbacks

/-- The leases a scan marks as expired. -/
def due (w : ManagedStore) (now : Time) : List Lease :=
  w.store.leases.rows.filter (·.lapsed now)

/-- `get_active_leases`: the due leases are marked, each with a call of the callback. -/
def storeGetActiveLeases (now : Time) : Op (List Lease) := withLock .leases do
  let (active, expired) ← lift fun w =>
    (((w.store.getActiveLeases now).1, w.due now),
      { w with store := (w.store.getActiveLeases now).2 })
  each (fun lease : Lease => onLeaseExpired lease.taskId lease.nodeId) expired
  return active

/-! ### The manager -/

def create (now : Time) (token : String) (taskId : TaskId) (nodeId : NodeId)
    (ttl : Option Duration := none) : Op (Except PyError Lease) :=
  if taskId = "" then pure (.error (.valueError "task_id is required"))
  else if nodeId = "" then pure (.error (.valueError "node_id is required"))
  else do
    let ttl ← lift fun w => (w.manager.effectiveTtl ttl, w)
    match ← storeCreateLease now token taskId nodeId ttl with
    | .error e => return .error e
    | .ok lease =>
      withLock .manager (lift fun w =>
        ((), { w with manager.totalCreated := w.manager.totalCreated + 1 }))
      return .ok lease

def revoke (leaseId : LeaseId) : Op Bool :=
  if leaseId = "" then pure false else do
    let result ← storeRevokeLease leaseId
    if result then
      withLock .manager (lift fun w =>
        ((), { w with manager.totalRevoked := w.manager.totalRevoked + 1 }))
    return result

def listActive (now : Time) : Op (List Lease) := storeGetActiveLeases now

def getByTask (taskId : TaskId) : Op (Option Lease) :=
  if taskId = "" then pure none else storeGetLeaseByTask taskId

/-- `extend`, which holds the manager's lock from the lookup to the revocation. -/
def extend (now : Time) (token : String) (leaseId : LeaseId)
    (additionalTtl : Option Duration := none) : Op (Except PyError (Option Lease)) :=
  if leaseId = "" then pure (.ok none) else withLock .manager do
    let ttl ← lift fun w => (w.manager.effectiveTtl additionalTtl, w)
    let activeLeases ← storeGetActiveLeases now
    match activeLeases.find? (fun l => l.id = leaseId) with
    | none => return .ok none
    | some lease =>
      match ← storeCreateLease now token lease.taskId lease.nodeId ttl with
      | .error e => return .error e
      | .ok newLease =>
        let _ ← storeRevokeLease leaseId
        return .ok (some newLease)

/-- `metrics`: the counts of active and of expired leases. -/
def metrics : Op (Nat × Nat) :=
  withLock .manager (lift fun w => ((w.activeCount, w.expiredCount), w))

def stats (now : Time) : Op LeaseStats := do
  let active ← listActive now
  withLock .manager (lift fun w =>
    ({ activeCount := active.length, totalCreated := w.manager.totalCreated
       totalRevoked := w.manager.totalRevoked, totalExpired := w.totalExpired }, w))

/-- `_scan_once` -/
def scanOnce (now : Time) : Op Unit := do
  let active ← storeGetActiveLeases now
  withLock .manager (lift fun w => ((), { w with activeCount := active.length }))

/-- The public operations, and one pass of the scanner. -/
inductive Operation
  | create (token : String) (taskId : TaskId) (nodeId : NodeId) (ttl : Option Duration)
  | revoke (leaseId : LeaseId)
  | listActive
  | getByTask (taskId : TaskId)
  | extend (token : String) (leaseId : LeaseId) (additionalTtl : Option Duration)
  | metrics
  | stats
  | scanOnce
deriving DecidableEq, Repr

/-- An operation, whatever it returns. -/
def perform (now : Time) : Operation → Op Unit
  | .create token taskId nodeId ttl => do let _ ← create now token taskId nodeId ttl
  | .revoke leaseId => do let _ ← revoke leaseId
  | .listActive => do let _ ← listActive now
  | .getByTask taskId => do let _ ← getByTask taskId
  | .extend token leaseId ttl => do let _ ← extend now token leaseId ttl
  | .metrics => do let _ ← metrics
  | .stats => do let _ ← stats now
  | .scanOnce => scanOnce now

/-! ### One scan -/

variable {w : ManagedStore} {now : Time} {held : List Lock}

/-- The callbacks for a lease under the locks `held`. -/
theorem returns_callBack {taskId : TaskId} {nodeId : NodeId} {cb : TaskId → NodeId → List Lock} :
    Returns (callBack taskId nodeId cb) held w ↔ ∀ l ∈ cb taskId nodeId, l ∉ held := by
  refine returns_each (I := fun _ => True) (fun l s _ => ?_) (fun _ _ _ _ _ => trivial) _ w trivial
  rw [returns_withLock]
  exact and_iff_left rfl

theorem callBack_state {taskId : TaskId} {nodeId : NodeId} {cb : TaskId → NodeId → List Lock}
    {r : Unit × ManagedStore} (h : callBack taskId nodeId cb held w = some r) : r.2 = w := by
  refine each_preserves (I := fun s => s = w) ?_ _ w r rfl h
  intro l s r hs hr
  by_cases hl : l ∈ held
  · rw [withLock, if_pos hl] at hr
    cases hr
  · rw [run_withLock _ hl, run_pure] at hr
    rw [← Option.some.inj hr]
    exact hs

/-- `_on_lease_expired` takes the manager's lock, and then what the callbacks take. -/
theorem returns_onLeaseExpired {taskId : TaskId} {nodeId : NodeId} :
    Returns (onLeaseExpired taskId nodeId) held w ↔
      Lock.manager ∉ held ∧ ∀ cb ∈ w.callbacks, ∀ l ∈ cb taskId nodeId, l ∉ held := by
  by_cases hm : Lock.manager ∈ held
  · refine iff_of_false ?_ fun h => h.1 hm
    rw [onLeaseExpired, returns_bind]
    intro ⟨r, hr, _⟩
    rw [withLock, if_pos hm] at hr
    cases hr
  · rw [onLeaseExpired, returns_bind_of_some ((run_withLock _ hm).trans (run_lift _))]
    rw [returns_each (I := fun _ => True) (fun _ _ _ => returns_callBack)
      (fun _ _ _ _ _ => trivial) _ _ trivial]
    exact ⟨fun h => ⟨hm, h⟩, fun h => h.2⟩

/-- `_on_lease_expired` counts the expiry and changes nothing else. -/
theorem onLeaseExpired_state {taskId : TaskId} {nodeId : NodeId} {r : Unit × ManagedStore}
    (h : onLeaseExpired taskId nodeId held w = some r) :
    r.2 = { w with totalExpired := r.2.totalExpired } := by
  by_cases hm : Lock.manager ∈ held
  · rw [onLeaseExpired, run_bind, withLock, if_pos hm] at h
    cases h
  · rw [onLeaseExpired, run_bind_of_some _ ((run_withLock _ hm).trans (run_lift _))] at h
    have hr : r.2 = { w with totalExpired := w.totalExpired + 1 } := by
      refine each_preserves (I := fun s => s = { w with totalExpired := w.totalExpired + 1 })
        ?_ _ _ r rfl h
      intro cb s r hs hr
      exact (callBack_state hr).trans hs
    rw [hr]

/-- What the callbacks of the due leases take, with the manager's lock and `held`. -/
def ScanReturns (w : ManagedStore) (now : Time) (held : List Lock) : Prop :=
  ∀ lease ∈ w.due now, Lock.manager ∉ held ∧
    ∀ cb ∈ w.callbacks, ∀ l ∈ cb lease.taskId lease.nodeId, l ∉ held

/-- **One scan.**  A scan by a thread without the store's lock returns exactly when every
call of `_on_lease_expired` under that lock does. -/
theorem returns_storeGetActiveLeases (hl : Lock.leases ∉ held) :
    Returns (storeGetActiveLeases now) held w ↔ ScanReturns w now (.leases :: held) := by
  rw [storeGetActiveLeases, returns_withLock, and_iff_right hl,
    returns_bind_of_some (run_lift _)]
  show Returns (each _ (w.due now) >>= fun _ => pure _) (.leases :: held) _ ↔ _
  have heach : Returns (each (fun lease : Lease => onLeaseExpired lease.taskId lease.nodeId)
      (w.due now)) (.leases :: held) { w with store := (w.store.getActiveLeases now).2 } ↔
      ∀ lease ∈ w.due now, Lock.manager ∉ .leases :: held ∧
        ∀ cb ∈ w.callbacks, ∀ l ∈ cb lease.taskId lease.nodeId, l ∉ .leases :: held :=
    returns_each (I := fun s => s.callbacks = w.callbacks)
      (fun lease s hs => by rw [returns_onLeaseExpired, hs])
      (fun lease s r hs hr => by rw [onLeaseExpired_state hr]; exact hs)
      (w.due now) { w with store := (w.store.getActiveLeases now).2 } rfl
  rw [ScanReturns, ← heach]
  exact returns_bind_left fun _ _ => rfl

/-- Without a due lease a scan calls nothing. -/
theorem run_storeGetActiveLeases_of_none (hl : Lock.leases ∉ held) (hdue : w.due now = []) :
    storeGetActiveLeases now held w =
      some ((w.store.getActiveLeases now).1,
        { w with store := (w.store.getActiveLeases now).2 }) := by
  rw [storeGetActiveLeases, run_withLock _ hl, run_bind_of_some _ (run_lift _)]
  show ((each _ (w.due now) >>= fun _ => pure _) : Op _) (.leases :: held) _ = _
  rw [hdue]
  rfl

/-! ### The operations -/

theorem run_storeCreateLease (hl : Lock.leases ∉ held) (now : Time) (token : String)
    (taskId : TaskId) (nodeId : NodeId) (ttl : Duration) :
    storeCreateLease now token taskId nodeId ttl held w =
      match w.store.createLease now token taskId nodeId ttl with
      | .error e => some (.error e, w)
      | .ok (lease, store) => some (.ok lease, { w with store := store }) := by
  rw [storeCreateLease]
  cases ha : addTtl now ttl with
  | error e =>
    have hc : w.store.createLease now token taskId nodeId ttl = .error e := by
      rw [ClusterState.createLease, ha]; rfl
    rw [hc]
    rfl
  | ok e =>
    show withLock .leases _ held w = _
    rw [run_withLock _ hl, run_lift]
    cases w.store.createLease now token taskId nodeId ttl with
    | error e => rfl
    | ok r => rfl

theorem run_storeRevokeLease (hl : Lock.leases ∉ held) (leaseId : LeaseId) :
    storeRevokeLease leaseId held w =
      some ((w.store.revokeLease leaseId).1,
        { w with store := (w.store.revokeLease leaseId).2 }) := by
  rw [storeRevokeLease, run_withLock _ hl, run_lift]

/-- **`create`** by a thread without locks is `LeaseManager.create`. -/
theorem create_run (now : Time) (token : String) (taskId : TaskId) (nodeId : NodeId)
    (ttl : Option Duration) :
    create now token taskId nodeId ttl [] w =
      some ((w.manager.create w.store now token taskId nodeId ttl).1,
        { w with manager := (w.manager.create w.store now token taskId nodeId ttl).2.1
                 store := (w.manager.create w.store now token taskId nodeId ttl).2.2 }) := by
  rw [create, LeaseManager.create]
  by_cases ht : taskId = ""
  · rw [if_pos ht, if_pos ht]; rfl
  · rw [if_neg ht, if_neg ht]
    by_cases hn : nodeId = ""
    · rw [if_pos hn, if_pos hn]; rfl
    · rw [if_neg hn, if_neg hn, run_bind_of_some _ (run_lift _), run_bind,
        run_storeCreateLease List.not_mem_nil]
      cases hc : w.store.createLease now token taskId nodeId (w.manager.effectiveTtl ttl) with
      | error e =>
        have hstore : LeaseStore.createLease w.store now token taskId nodeId
            (w.manager.effectiveTtl ttl) = .error e := hc
        simp only [hstore]
        rfl
      | ok r =>
        have hstore : LeaseStore.createLease w.store now token taskId nodeId
            (w.manager.effectiveTtl ttl) = .ok r := hc
        simp only [hstore]
        rfl

/-- **`revoke`** by a thread without locks is `LeaseManager.revoke`. -/
theorem revoke_run (leaseId : LeaseId) :
    revoke leaseId [] w =
      some ((w.manager.revoke w.store leaseId).1,
        { w with manager := (w.manager.revoke w.store leaseId).2.1
                 store := (w.manager.revoke w.store leaseId).2.2 }) := by
  rw [revoke, LeaseManager.revoke]
  by_cases hid : leaseId = ""
  · rw [if_pos hid, if_pos hid]; rfl
  · rw [if_neg hid, if_neg hid, run_bind_of_some _ (run_storeRevokeLease List.not_mem_nil leaseId)]
    have hstore : LeaseStore.revokeLease w.store leaseId = w.store.revokeLease leaseId := rfl
    cases hr : (w.store.revokeLease leaseId).1 with
    | false => simp only [hstore, hr]; rfl
    | true => simp only [hstore, hr]; rfl

/-- The calls a scan makes are those for the due leases. -/
theorem calls_getActiveLeases (w : ManagedStore) (now : Time) :
    (w.store.getActiveLeases now).2.leaseCallbackCalls.length =
      w.store.leaseCallbackCalls.length + (w.due now).length := by
  show (w.store.leaseCallbackCalls ++ (w.due now).map _).length = _
  rw [List.length_append, List.length_map]

/-- A scan under the manager's lock waits for it as soon as a lease is due. -/
theorem stuck_of_due {lease : Lease} {rest : List Lease} (hm : Lock.manager ∈ held)
    (hl : Lock.leases ∉ held) (hdue : w.due now = lease :: rest) :
    storeGetActiveLeases now held w = none := by
  cases h : storeGetActiveLeases now held w with
  | none => rfl
  | some r =>
    have hret : Returns (storeGetActiveLeases now) held w := by rw [Returns, h]; rfl
    have hscan := (returns_storeGetActiveLeases hl).mp hret lease (by
      rw [hdue]; exact List.mem_cons_self)
    exact absurd (List.mem_cons_of_mem _ hm) hscan.1

/-- **`extend`** by a thread without locks is `LeaseManager.extend`, which says `none` when
the call never returns. -/
theorem extend_run (now : Time) (token : String) (leaseId : LeaseId) (ttl : Option Duration) :
    (extend now token leaseId ttl [] w).map (fun r => (r.1, r.2.store)) =
      w.manager.extend w.store now token leaseId ttl := by
  rw [extend, LeaseManager.extend]
  by_cases hid : leaseId = ""
  · rw [if_pos hid, if_pos hid]; rfl
  · rw [if_neg hid, if_neg hid, run_withLock _ List.not_mem_nil,
      run_bind_of_some _ (run_lift _)]
    have hheld : Lock.leases ∉ [Lock.manager] := by decide
    obtain ⟨active, store, hscan⟩ : ∃ active store, w.store.getActiveLeases now = (active, store) :=
      ⟨_, _, rfl⟩
    have hscan' : LeaseStore.getActiveLeases w.store now = (active, store) := hscan
    have hcalls := calls_getActiveLeases w now
    rw [hscan] at hcalls
    simp only [hscan']
    cases hdue : w.due now with
    | nil =>
      have hsame : ¬ (LeaseStore.leaseCallbackCalls w.store).length <
          (LeaseStore.leaseCallbackCalls store).length := by
        show ¬ w.store.leaseCallbackCalls.length < store.leaseCallbackCalls.length
        rw [hcalls, hdue, List.length_nil]
        omega
      rw [run_bind_of_some _ (run_storeGetActiveLeases_of_none hheld hdue), if_neg hsame, hscan]
      cases hfind : active.find? (fun l => l.id = leaseId) with
      | none => rfl
      | some lease =>
        simp only
        rw [run_bind, run_storeCreateLease hheld]
        cases hc : store.createLease now token lease.taskId lease.nodeId
            (w.manager.effectiveTtl ttl) with
        | error e =>
          have hstore : LeaseStore.createLease store now token lease.taskId lease.nodeId
              (w.manager.effectiveTtl ttl) = .error e := hc
          simp only [hstore]
          rfl
        | ok r =>
          have hstore : LeaseStore.createLease store now token lease.taskId lease.nodeId
              (w.manager.effectiveTtl ttl) = .ok r := hc
          simp only [hstore]
          rfl
    | cons l rest =>
      have hmore : (LeaseStore.leaseCallbackCalls w.store).length <
          (LeaseStore.leaseCallbackCalls store).length := by
        show w.store.leaseCallbackCalls.length < store.leaseCallbackCalls.length
        rw [hcalls, hdue, List.length_cons]
        omega
      rw [run_bind_of_none _ (stuck_of_due (by decide) hheld hdue), if_pos hmore]
      rfl

/-! ### Which operations return -/

/-- No lease is due when `extend` looks for one, and no registered callback takes the
store's lock for a lease that is due. -/
def Safe (w : ManagedStore) (now : Time) : Operation → Prop
  | .extend _ leaseId _ => leaseId ≠ "" → ∀ lease ∈ w.store.leases.rows, ¬ lease.lapsed now
  | .listActive | .stats | .scanOnce => ∀ lease ∈ w.store.leases.rows, lease.lapsed now →
      ∀ cb ∈ w.callbacks, Lock.leases ∉ cb lease.taskId lease.nodeId
  | _ => True

theorem due_eq_nil_iff : w.due now = [] ↔ ∀ lease ∈ w.store.leases.rows, ¬ lease.lapsed now := by
  rw [due, List.filter_eq_nil_iff]

/-- A computation returns when what is made of its result is left out. -/
theorem returns_discard {α : Type} {p : Op α} :
    Returns (do let _ ← p : Op Unit) held w ↔ Returns p held w :=
  returns_bind_left fun _ _ => rfl

/-- A scan by a thread without locks is stopped by callbacks only. -/
theorem returns_listActive : Returns (listActive now) [] w ↔
    ∀ lease ∈ w.store.leases.rows, lease.lapsed now →
      ∀ cb ∈ w.callbacks, Lock.leases ∉ cb lease.taskId lease.nodeId := by
  rw [listActive, returns_storeGetActiveLeases List.not_mem_nil, ScanReturns]
  refine ⟨?_, ?_⟩
  · intro h lease hlease hdue cb hcb hmem
    exact (h lease (List.mem_filter.mpr ⟨hlease, hdue⟩)).2 cb hcb _ hmem List.mem_cons_self
  · intro h lease hlease
    obtain ⟨hlease, hdue⟩ := List.mem_filter.mp hlease
    refine ⟨by decide, ?_⟩
    intro cb hcb l hl hmem
    rw [List.mem_singleton.mp hmem] at hl
    exact h lease hlease hdue cb hcb hl

/-- What follows a scan under the manager's lock takes no lock that is held. -/
theorem returns_after_scan {β : Type} {f : List Lease → ManagedStore → β × ManagedStore} :
    Returns (do let active ← listActive now; withLock .manager (lift (f active)) : Op β) [] w ↔
      Returns (listActive now) [] w :=
  returns_bind_left fun _ _ => returns_withLock.mpr ⟨List.not_mem_nil, returns_lift _⟩

theorem returns_extend (now : Time) (token : String) (leaseId : LeaseId)
    (ttl : Option Duration) : Returns (extend now token leaseId ttl) [] w ↔
      (leaseId ≠ "" → ∀ lease ∈ w.store.leases.rows, ¬ lease.lapsed now) := by
  rw [← due_eq_nil_iff, extend]
  by_cases hid : leaseId = ""
  · rw [if_pos hid]
    exact iff_of_true rfl fun hne => absurd hid hne
  · have hheld : Lock.leases ∉ [Lock.manager] := by decide
    rw [if_neg hid, forall_prop_of_true hid, returns_withLock, and_iff_right List.not_mem_nil,
      returns_bind_of_some (run_lift _)]
    cases hdue : w.due now with
    | nil =>
      rw [returns_bind_of_some (run_storeGetActiveLeases_of_none hheld hdue)]
      refine iff_of_true ?_ rfl
      cases (w.store.getActiveLeases now).1.find? (fun l => l.id = leaseId) with
      | none => rfl
      | some lease =>
        simp only
        rw [Returns, run_bind, run_storeCreateLease hheld]
        cases (w.store.getActiveLeases now).2.createLease now token lease.taskId lease.nodeId
          (w.manager.effectiveTtl ttl) with
        | error e => rfl
        | ok r => rfl
    | cons l rest =>
      refine iff_of_false ?_ (List.cons_ne_nil l rest)
      rw [Returns, run_bind_of_none _ (stuck_of_due (by decide) hheld hdue)]
      exact Bool.false_ne_true

/-- **No self-deadlock.**  An operation by a thread without locks acquires no lock its own
call chain holds exactly when it is `Safe`. -/
theorem perform_returns_iff (w : ManagedStore) (now : Time) (op : Operation) :
    Returns (perform now op) [] w ↔ Safe w now op := by
  cases op with
  | create token taskId nodeId ttl =>
    refine iff_of_true (returns_discard.mpr ?_) trivial
    rw [Returns, create_run]; rfl
  | revoke leaseId =>
    refine iff_of_true (returns_discard.mpr ?_) trivial
    rw [Returns, revoke_run]; rfl
  | listActive => exact returns_discard.trans returns_listActive
  | getByTask taskId =>
    refine iff_of_true (returns_discard.mpr ?_) trivial
    rw [getByTask, storeGetLeaseByTask]
    split
    · rfl
    · exact returns_withLock.mpr ⟨List.not_mem_nil, returns_lift _⟩
  | extend token leaseId ttl => exact returns_discard.trans (returns_extend now token leaseId ttl)
  | metrics =>
    refine iff_of_true (returns_discard.mpr ?_) trivial
    exact returns_withLock.mpr ⟨List.not_mem_nil, returns_lift _⟩
  | stats => exact (returns_discard.trans returns_after_scan).trans returns_listActive
  | scanOnce => exact returns_after_scan.trans returns_listActive

/-- A lease for a minute. -/
def minuteLease : Lease :=
  { id := "lease_x", taskId := "task_a", nodeId := "n1", createdAt := 0, expiresAt := seconds 60 }

/-- Two minutes later the lease is due, and extending it waits for the manager's lock for
ever; no callback is registered. -/
theorem extend_waits_for_itself :
    ¬ Returns (perform (seconds 120) (.extend "y" "lease_x" none)) []
      { store := { leases := Table.empty.put minuteLease } } := by
  rw [perform, returns_discard, returns_extend]
  intro h
  exact h (by decide) minuteLease (by decide) (by decide)

end ManagedStore

end HermesCluster
