import HermesCluster.Lib.Run
import HermesCluster.Lease.LeaseSpec

/-!
# One holder per task

`LeaseWorld` is a store, its `LeaseManager` and the clock; `LeaseOp` is every way
in which leases are made, ended, extended or scanned.  A call of `extend` that
does not return ends no live lease and makes none: the world stays as it was, and
what other threads do goes on from there.

`AtMostOne` says that no task has two live leases.  No operation asks whether the
task of a new lease already has one.  `atMostOne_step` says what follows: creating
a lease keeps `AtMostOne` exactly when its task has none (`HolderFree`), and every
other operation keeps it, `extend` included, though it creates before it revokes.
`one_holder_per_task` is the same along every run, for both stores.
-/

namespace HermesCluster

open Run

structure LeaseWorld (σ : Type) where
  store : σ
  manager : LeaseManager := {}
  now : Time
deriving DecidableEq

inductive LeaseOp
  /-- `store.create_lease` -/
  | create (token : String) (taskId : TaskId) (nodeId : NodeId) (ttl : Duration)
  /-- `POST /leases` -/
  | post (token : String) (taskId : TaskId) (nodeId : NodeId) (ttlSeconds : Int)
  /-- `LeaseManager.create` -/
  | managerCreate (token : String) (taskId : TaskId) (nodeId : NodeId) (ttl : Option Duration)
  /-- `store.revoke_lease`, also `DELETE /leases/{lease_id}` -/
  | revoke (leaseId : LeaseId)
  /-- `LeaseManager.revoke` -/
  | managerRevoke (leaseId : LeaseId)
  /-- `LeaseManager.extend` -/
  | extend (token : String) (leaseId : LeaseId) (additionalTtl : Option Duration)
  /-- `get_active_leases`, which the scanner thread and `GET /leases` call -/
  | scan
  /-- The clock goes on. -/
  | tick (elapsed : Nat)
deriving DecidableEq, Repr

namespace LeaseWorld

variable {σ : Type} [LeaseStore σ]

/-- The store after `create_lease`; when it raises, nothing has changed. -/
def create (w : LeaseWorld σ) (token : String) (taskId : TaskId) (nodeId : NodeId)
    (ttl : Duration) : LeaseWorld σ :=
  match LeaseStore.createLease w.store w.now token taskId nodeId ttl with
  | .ok (_, store) => { w with store := store }
  | .error _ => w

/-- The handler of `POST /leases`.  Its 409 answer is for a store that returns no
lease, which neither store does. -/
def post (w : LeaseWorld σ) (token : String) (taskId : TaskId) (nodeId : NodeId)
    (ttlSeconds : Int) : LeaseWorld σ :=
  w.create token taskId nodeId (seconds ttlSeconds)

def step (w : LeaseWorld σ) : LeaseOp → LeaseWorld σ
  | .create token taskId nodeId ttl => w.create token taskId nodeId ttl
  | .post token taskId nodeId ttlSeconds => w.post token taskId nodeId ttlSeconds
  | .managerCreate token taskId nodeId ttl =>
    let (_, manager, store) := w.manager.create w.store w.now token taskId nodeId ttl
    { w with manager := manager, store := store }
  | .revoke leaseId => { w with store := (LeaseStore.revokeLease w.store leaseId).2 }
  | .managerRevoke leaseId =>
    let (_, manager, store) := w.manager.revoke w.store leaseId
    { w with manager := manager, store := store }
  | .extend token leaseId additionalTtl =>
    match w.manager.extend w.store w.now token leaseId additionalTtl with
    | some (_, store) => { w with store := store }
    | none => w
  | .scan => { w with store := (LeaseStore.getActiveLeases w.store w.now).2 }
  | .tick elapsed => { w with now := w.now + elapsed }

/-- No task has two live leases. -/
def AtMostOne (w : LeaseWorld σ) : Prop :=
  ∀ t k k', Holds w.store w.now k t → Holds w.store w.now k' t → k = k'

/-- The lease an operation asks the store to create: its token, task and TTL. -/
def newLease (w : LeaseWorld σ) : LeaseOp → Option (String × TaskId × Duration)
  | .create token taskId _ ttl => some (token, taskId, ttl)
  | .post token taskId _ ttlSeconds => some (token, taskId, seconds ttlSeconds)
  | .managerCreate token taskId nodeId ttl =>
    if taskId ≠ "" ∧ nodeId ≠ "" then some (token, taskId, w.manager.effectiveTtl ttl) else none
  | _ => none

/-- No other lease holds the task of the lease about to be created, unless the new
one is refused or born expired. -/
def FreeFor [LawfulLeaseStore σ] (w : LeaseWorld σ) (token : String) (t : TaskId)
    (ttl : Duration) : Prop :=
  0 < ttl → (addTtl w.now ttl).isOk →
    LawfulLeaseStore.accepts w.store (generateId "lease" token) →
    ∀ k, Holds w.store w.now k t → k = generateId "lease" token

/-- A lease that the operation creates is for a free task. -/
def HolderFree [LawfulLeaseStore σ] (w : LeaseWorld σ) (op : LeaseOp) : Prop :=
  match w.newLease op with
  | some (token, t, ttl) => w.FreeFor token t ttl
  | none => True

/-! ### One operation -/

variable {w : LeaseWorld σ}

/-- The operations that create no lease only take live leases away. -/
theorem AtMostOne.of_holds {w' : LeaseWorld σ} (h : w.AtMostOne)
    (hsub : ∀ k t, Holds w'.store w'.now k t → Holds w.store w.now k t) : w'.AtMostOne :=
  fun t k k' hk hk' => h t k k' (hsub k t hk) (hsub k' t hk')

variable [LawfulLeaseStore σ]

/-- **Creating a lease** keeps one holder per task exactly when its task is free. -/
theorem atMostOne_create (h : w.AtMostOne) (token : String) (t : TaskId) (n : NodeId)
    (ttl : Duration) :
    (w.create token t n ttl).AtMostOne ↔ w.FreeFor token t ttl := by
  cases hc : LeaseStore.createLease w.store w.now token t n ttl with
  | error e =>
    have hw : w.create token t n ttl = w := by rw [create, hc]
    rw [hw]
    exact ⟨fun _ _ hok hacc => absurd hacc (refused_of_error hc hok), fun _ => h⟩
  | ok r =>
    obtain ⟨l, s'⟩ := r
    have hw : w.create token t n ttl = { w with store := s' } := by rw [create, hc]
    have hok := accepted_of_ok hc
    rw [hw]
    have hafter : ∀ k t', Holds s' w.now k t' ↔
        if k = generateId "lease" token then 0 < ttl ∧ t = t' else Holds w.store w.now k t' :=
      fun k t' => holds_createLease hc
    refine ⟨?_, ?_⟩
    · intro hone hpos _ _ k hk
      by_contra hne
      -- the new lease and `k` are two holders of `t`
      refine hne (hone t k (generateId "lease" token) ?_ ?_)
      · rw [hafter, if_neg hne]; exact hk
      · rw [hafter, if_pos rfl]; exact ⟨hpos, rfl⟩
    · intro hfree t' k k' hk hk'
      rw [hafter] at hk hk'
      by_cases hn : k = generateId "lease" token
      · rw [if_pos hn] at hk
        obtain ⟨hpos, rfl⟩ := hk
        by_cases hn' : k' = generateId "lease" token
        · rw [hn, hn']
        · rw [if_neg hn'] at hk'
          exact absurd (hfree hpos hok.1 hok.2 k' hk') hn'
      · rw [if_neg hn] at hk
        by_cases hn' : k' = generateId "lease" token
        · rw [if_pos hn'] at hk'
          obtain ⟨hpos, rfl⟩ := hk'
          exact absurd (hfree hpos hok.1 hok.2 k hk) hn
        · rw [if_neg hn'] at hk'
          exact h t' k k' hk hk'

omit [LawfulLeaseStore σ] in
/-- `LeaseManager.create` is the store's, once the ids are not empty. -/
theorem step_managerCreate (token : String) (t : TaskId) (n : NodeId) (ttl : Option Duration) :
    (w.step (.managerCreate token t n ttl)).now = w.now ∧
      (w.step (.managerCreate token t n ttl)).store =
        if t ≠ "" ∧ n ≠ "" then (w.create token t n (w.manager.effectiveTtl ttl)).store
        else w.store := by
  simp only [step, LeaseManager.create, create]
  by_cases ht : t = ""
  · simp [ht]
  · by_cases hn : n = ""
    · simp [ht, hn]
    · simp only [ht, hn, if_false, ne_eq, not_false_eq_true, and_self, if_true]
      cases LeaseStore.createLease w.store w.now token t n (w.manager.effectiveTtl ttl) <;> simp

/-- After `extend` the new lease holds the task of the old one, which it replaces. -/
theorem holds_extend {token : String} {id : LeaseId} {ttl : Option Duration}
    {r : Except PyError (Option Lease)} {s' : σ}
    (h : w.manager.extend w.store w.now token id ttl = some (r, s')) :
    (∀ k t, Holds s' w.now k t → Holds w.store w.now k t) ∨
      ∃ t, Holds w.store w.now id t ∧ ∀ k t', Holds s' w.now k t' →
        k ≠ id ∧ if k = generateId "lease" token then t = t' else Holds w.store w.now k t' := by
  unfold LeaseManager.extend at h
  by_cases hid : id = ""
  · rw [if_pos hid] at h
    cases h
    exact Or.inl fun k t hk => hk
  rw [if_neg hid] at h
  simp only at h
  split at h
  · cases h
  split at h
  · cases h
    exact Or.inl fun k t hk => holds_getActiveLeases.mp hk
  · rename_i lease hfind
    have hmem := List.mem_of_find?_eq_some hfind
    have hkey : lease.id = id := by simpa using List.find?_some hfind
    split at h
    · cases h
      exact Or.inl fun k t hk => holds_getActiveLeases.mp hk
    · rename_i newLease store₂ hc
      cases h
      refine Or.inr ⟨lease.taskId, hkey ▸ holds_of_mem_getActiveLeases hmem, fun k t' hk => ?_⟩
      rw [holds_revokeLease, holds_createLease hc, holds_getActiveLeases] at hk
      refine ⟨hk.1, ?_⟩
      by_cases hk' : k = generateId "lease" token
      · rw [if_pos hk'] at hk ⊢
        exact hk.2.2
      · rw [if_neg hk'] at hk ⊢
        exact hk.2

theorem atMostOne_extend (h : w.AtMostOne) (token : String) (id : LeaseId)
    (ttl : Option Duration) : (w.step (.extend token id ttl)).AtMostOne := by
  simp only [step]
  split
  · rename_i r s' he
    rcases holds_extend he with hsub | ⟨t, ht, hafter⟩
    · exact h.of_holds hsub
    · intro t' k k' hk hk'
      obtain ⟨hne, hk⟩ := hafter k t' hk
      obtain ⟨hne', hk'⟩ := hafter k' t' hk'
      by_cases hn : k = generateId "lease" token
      · rw [if_pos hn] at hk
        by_cases hn' : k' = generateId "lease" token
        · rw [hn, hn']
        · -- another lease of the task would be the extended one, now revoked
          rw [if_neg hn'] at hk'
          exact absurd (h t' k' id hk' (hk ▸ ht)) hne'
      · rw [if_neg hn] at hk
        by_cases hn' : k' = generateId "lease" token
        · rw [if_pos hn'] at hk'
          exact absurd (h t' k id hk (hk' ▸ ht)) hne
        · rw [if_neg hn'] at hk'
          exact h t' k k' hk hk'
  · exact h

/-- **Step lemma.** -/
theorem atMostOne_step (h : w.AtMostOne) (op : LeaseOp) :
    (w.step op).AtMostOne ↔ w.HolderFree op := by
  cases op with
  | create token t n ttl => exact atMostOne_create h token t n ttl
  | post token t n ttlSeconds => exact atMostOne_create h token t n (seconds ttlSeconds)
  | managerCreate token t n ttl =>
    obtain ⟨hnow, hstore⟩ := step_managerCreate (w := w) token t n ttl
    rw [AtMostOne, hnow, hstore, HolderFree]
    by_cases hids : t ≠ "" ∧ n ≠ ""
    · simp only [if_pos hids, newLease]
      have hn : (w.create token t n (w.manager.effectiveTtl ttl)).now = w.now := by
        rw [create]; split <;> rfl
      rw [← atMostOne_create h token t n, AtMostOne, hn]
    · simp only [if_neg hids, newLease]
      exact ⟨fun _ => trivial, fun _ => h⟩
  | revoke id =>
    refine ⟨fun _ => trivial, fun _ => ?_⟩
    exact h.of_holds fun k t hk => (holds_revokeLease.mp hk).2
  | managerRevoke id =>
    refine ⟨fun _ => trivial, fun _ => ?_⟩
    by_cases hid : id = ""
    · exact h.of_holds fun k t hk => by simpa [step, LeaseManager.revoke, hid] using hk
    · refine h.of_holds fun k t hk => ?_
      simp only [step, LeaseManager.revoke, if_neg hid] at hk
      exact (holds_revokeLease.mp hk).2
  | extend token id ttl => exact ⟨fun _ => trivial, fun _ => atMostOne_extend h token id ttl⟩
  | scan =>
    refine ⟨fun _ => trivial, fun _ => ?_⟩
    exact h.of_holds fun k t hk => holds_getActiveLeases.mp hk
  | tick elapsed =>
    refine ⟨fun _ => trivial, fun _ => ?_⟩
    exact h.of_holds fun k t hk => hk.earlier (le_add_of_nonneg_right (Int.natCast_nonneg elapsed))

/-! ### Runs -/

/-- From a world with one holder per task, a run keeps it so exactly when each lease
created along it is for a free task. -/
theorem atMostOne_run (h : w.AtMostOne) (run : List LeaseOp) :
    Always step AtMostOne w run ↔ EachStep step HolderFree w run :=
  always_iff_eachStep (A := fun _ _ => True) (fun _ h => h)
    (fun _ op h _ => atMostOne_step h op) (fun _ _ _ _ h => h) run w h
    (fun _ _ _ => trivial)

end LeaseWorld

/-- The world of an empty store. -/
def LeaseWorld.init {σ : Type} (store : σ) (config : LeaseConfig) (now : Time) : LeaseWorld σ :=
  { store := store, manager := { config := config }, now := now }

/-- **One holder per task.**  In `ClusterState` and in `ClusterStore`, whatever the
ids, TTLs and clock readings: a task never has two live leases exactly as long as no
lease is created for a task that has one. -/
theorem one_holder_per_task (config : LeaseConfig) (now : Time) (run : List LeaseOp) :
    (Always LeaseWorld.step LeaseWorld.AtMostOne
        (LeaseWorld.init ({} : ClusterState) config now) run ↔
      EachStep LeaseWorld.step LeaseWorld.HolderFree
        (LeaseWorld.init ({} : ClusterState) config now) run) ∧
    (Always LeaseWorld.step LeaseWorld.AtMostOne
        (LeaseWorld.init ({} : ClusterStore) config now) run ↔
      EachStep LeaseWorld.step LeaseWorld.HolderFree
        (LeaseWorld.init ({} : ClusterStore) config now) run) := by
  refine ⟨?_, ?_⟩
  · refine LeaseWorld.atMostOne_run (fun t k k' hk => ?_) run
    obtain ⟨l, hl, -⟩ := hk
    cases hl
  · refine LeaseWorld.atMostOne_run (fun t k k' hk => ?_) run
    obtain ⟨l, hl, -⟩ := hk
    cases hl

/-- Two requests for a lease of one task, by two nodes, both go through in either
store. -/
theorem two_holders :
    ¬ (LeaseWorld.AtMostOne (exec LeaseWorld.step (LeaseWorld.init ({} : ClusterState) {} 0)
        [.post "a" "t1" "n1" 60, .post "b" "t1" "n2" 60])) ∧
    ¬ (LeaseWorld.AtMostOne (exec LeaseWorld.step (LeaseWorld.init ({} : ClusterStore) {} 0)
        [.post "a" "t1" "n1" 60, .post "b" "t1" "n2" 60])) := by
  refine ⟨?_, ?_⟩
  · intro h
    have := h "t1" "lease_a" "lease_b"
      ⟨⟨"lease_a", "t1", "n1", 0, seconds 60, .active⟩, by decide, by decide, rfl⟩
      ⟨⟨"lease_b", "t1", "n2", 0, seconds 60, .active⟩, by decide, by decide, rfl⟩
    revert this; decide
  · intro h
    have := h "t1" "lease_a" "lease_b"
      ⟨⟨"lease_a", "t1", "n1", 0, seconds 60, .active⟩, by decide, by decide, rfl⟩
      ⟨⟨"lease_b", "t1", "n2", 0, seconds 60, .active⟩, by decide, by decide, rfl⟩
    revert this; decide

end HermesCluster
