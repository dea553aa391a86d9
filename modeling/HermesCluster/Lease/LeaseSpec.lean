import HermesCluster.State.ClusterStore

/-!
# What the lease methods of a store do

`LawfulLeaseStore` is what `LeaseManager` and the routers may rely on in either
store, and both stores satisfy it.  They differ in one point, the field
`accepts`: the dictionary of `ClusterState` overwrites a lease whose id is drawn
again, the primary key of `ClusterStore` refuses the second one.

`Holds store now k t` says that lease `k` holds task `t` at `now`: it is a live
lease of `t`.  Each lease method has one lemma saying which leases hold a task
afterwards.
-/

namespace HermesCluster

/-- The laws of the lease methods. -/
class LawfulLeaseStore (σ : Type) [LeaseStore σ] where
  /-- Whether the store takes a new lease with this id. -/
  accepts : σ → LeaseId → Prop
  createLease_ok {s s' : σ} {now : Time} {token : String} {t : TaskId} {n : NodeId}
    {ttl : Duration} {l : Lease} :
    LeaseStore.createLease s now token t n ttl = .ok (l, s') →
      l = { id := generateId "lease" token, taskId := t, nodeId := n, createdAt := now,
            expiresAt := now + ttl, status := .active } ∧
      ∀ k, (LeaseStore.leases s').get? k =
        if k = l.id then some l else (LeaseStore.leases s).get? k
  createLease_isOk {s : σ} {now : Time} {token : String} {t : TaskId} {n : NodeId}
    {ttl : Duration} :
    (LeaseStore.createLease s now token t n ttl).isOk ↔
      (addTtl now ttl).isOk ∧ accepts s (generateId "lease" token)
  get?_revokeLease {s : σ} {id k : LeaseId} :
    (LeaseStore.leases (LeaseStore.revokeLease s id).2).get? k =
      if k = id then ((LeaseStore.leases s).get? k).map Lease.revoked
      else (LeaseStore.leases s).get? k
  getActiveLeases_fst {s : σ} {now : Time} :
    (LeaseStore.getActiveLeases s now).1 = (LeaseStore.leases s).rows.filter (·.live now)
  get?_getActiveLeases {s : σ} {now : Time} {k : LeaseId} :
    (LeaseStore.leases (LeaseStore.getActiveLeases s now).2).get? k =
      ((LeaseStore.leases s).get? k).map (Lease.aged now)

theorem addTtl_eq_ok {now e : Time} {ttl : Duration} (h : addTtl now ttl = .ok e) :
    e = now + ttl := by
  unfold addTtl at h
  split at h
  · exact (Except.ok.inj h).symm
  · cases h

section Accepted

variable {σ : Type} [LeaseStore σ] [LawfulLeaseStore σ] {s : σ} {now : Time} {token : String}
  {t : TaskId} {n : NodeId} {ttl : Duration}

theorem accepted_of_ok {r : Lease × σ}
    (h : LeaseStore.createLease s now token t n ttl = .ok r) :
    (addTtl now ttl).isOk ∧ LawfulLeaseStore.accepts s (generateId "lease" token) :=
  LawfulLeaseStore.createLease_isOk.mp (by rw [h]; rfl)

theorem refused_of_error {e : PyError}
    (h : LeaseStore.createLease s now token t n ttl = .error e) (hok : (addTtl now ttl).isOk) :
    ¬ LawfulLeaseStore.accepts s (generateId "lease" token) := by
  intro hacc
  have hr : (LeaseStore.createLease s now token t n ttl).isOk :=
    LawfulLeaseStore.createLease_isOk.mpr ⟨hok, hacc⟩
  rw [h] at hr
  cases hr

end Accepted

/-! ### The two stores -/

namespace ClusterState

variable {s s' : ClusterState} {now : Time} {token : String} {t : TaskId} {n : NodeId}
  {ttl : Duration} {l : Lease}

theorem createLease_of_ttl {e : Time} (h : addTtl now ttl = .ok e) :
    s.createLease now token t n ttl =
      let lease : Lease := ⟨generateId "lease" token, t, n, now, e, .active⟩
      .ok (lease, { s with
        leases := s.leases.put lease
        taskLeaseIndex := s.taskLeaseIndex.put ⟨t, lease.id⟩ }) := by
  rw [createLease, h]; rfl

theorem createLease_of_overflow {e : PyError} (h : addTtl now ttl = .error e) :
    s.createLease now token t n ttl = .error e := by
  rw [createLease, h]; rfl

/-- A lease is created where its expiry is a date; it enters the table and the index. -/
theorem createLease_inv (h : s.createLease now token t n ttl = .ok (l, s')) :
    l = ⟨generateId "lease" token, t, n, now, now + ttl, .active⟩ ∧
      s' = { s with
        leases := s.leases.put l
        taskLeaseIndex := s.taskLeaseIndex.put ⟨t, l.id⟩ } := by
  cases ha : addTtl now ttl with
  | error e =>
    rw [createLease_of_overflow ha] at h
    cases h
  | ok e =>
    rw [createLease_of_ttl ha] at h
    obtain rfl := addTtl_eq_ok ha
    cases h
    exact ⟨rfl, rfl⟩

theorem get?_revokeLease {id k : LeaseId} :
    (s.revokeLease id).2.leases.get? k =
      if k = id then (s.leases.get? k).map Lease.revoked else s.leases.get? k := by
  unfold revokeLease
  cases h : s.leases.get? id with
  | none =>
    by_cases hk : k = id
    · rw [if_pos hk, hk, h]; rfl
    · rw [if_neg hk]
  | some l => exact Table.get?_modify _ _ Lease.revoked Lease.key_revoked _

end ClusterState

instance : LawfulLeaseStore ClusterState where
  accepts _ _ := True
  createLease_ok {s s' now token t n ttl l} := by
    intro h
    obtain ⟨hl, rfl⟩ := ClusterState.createLease_inv h
    exact ⟨hl, fun k => Table.get?_put _ _ _⟩
  createLease_isOk {s now token t n ttl} := by
    change (s.createLease now token t n ttl).isOk ↔ _
    cases ha : addTtl now ttl with
    | error e => rw [ClusterState.createLease_of_overflow ha]; simp [Except.isOk, Except.toBool]
    | ok e => rw [ClusterState.createLease_of_ttl ha]; simp [Except.isOk, Except.toBool]
  get?_revokeLease := ClusterState.get?_revokeLease
  getActiveLeases_fst := rfl
  get?_getActiveLeases := Table.get?_mapRows _ (Lease.aged _) (fun l => l.aged_id _) _

namespace ClusterStore

variable {s s' : ClusterStore} {now : Time} {token : String} {t : TaskId} {n : NodeId}
  {ttl : Duration} {l : Lease}

theorem createLease_of_ttl {e : Time} (h : addTtl now ttl = .ok e) :
    s.createLease now token t n ttl =
      let lease : Lease := ⟨generateId "lease" token, t, n, now, e, .active⟩
      if s.leases.get? lease.id = none then
        .ok (lease, { s with leases := s.leases.put lease })
      else .error .integrityError := by
  rw [createLease, h]; rfl

theorem createLease_of_overflow {e : PyError} (h : addTtl now ttl = .error e) :
    s.createLease now token t n ttl = .error e := by
  rw [createLease, h]; rfl

/-- A lease is created where its expiry is a date and its id is new; it enters the table. -/
theorem createLease_inv (h : s.createLease now token t n ttl = .ok (l, s')) :
    l = ⟨generateId "lease" token, t, n, now, now + ttl, .active⟩ ∧
      s' = { s with leases := s.leases.put l } := by
  cases ha : addTtl now ttl with
  | error e =>
    rw [createLease_of_overflow ha] at h
    cases h
  | ok e =>
    rw [createLease_of_ttl ha] at h
    obtain rfl := addTtl_eq_ok ha
    by_cases hid : s.leases.get? (generateId "lease" token) = none
    · simp only [hid, if_true] at h
      cases h
      exact ⟨rfl, rfl⟩
    · simp only [hid, if_false] at h
      cases h

end ClusterStore

instance : LawfulLeaseStore ClusterStore where
  accepts s id := s.leases.get? id = none
  createLease_ok {s s' now token t n ttl l} := by
    intro h
    obtain ⟨hl, rfl⟩ := ClusterStore.createLease_inv h
    exact ⟨hl, fun k => Table.get?_put _ _ _⟩
  createLease_isOk {s now token t n ttl} := by
    change (s.createLease now token t n ttl).isOk ↔ _
    cases ha : addTtl now ttl with
    | error e => rw [ClusterStore.createLease_of_overflow ha]; simp [Except.isOk, Except.toBool]
    | ok e =>
      rw [ClusterStore.createLease_of_ttl ha]
      by_cases hid : s.leases.get? (generateId "lease" token) = none <;>
        simp [hid, Except.isOk, Except.toBool]
  get?_revokeLease := Table.get?_modify _ _ Lease.revoked Lease.key_revoked _
  getActiveLeases_fst := rfl
  get?_getActiveLeases := Table.get?_mapRows _ (Lease.aged _) (fun l => l.aged_id _) _

/-! ### Which leases hold a task -/

section Holds

variable {σ : Type} [LeaseStore σ] {s s' : σ} {now : Time} {k : LeaseId} {t : TaskId}

/-- Lease `k` holds task `t`: it is a live lease of `t`. -/
def Holds (s : σ) (now : Time) (k : LeaseId) (t : TaskId) : Prop :=
  ∃ l, (LeaseStore.leases s).get? k = some l ∧ l.live now ∧ l.taskId = t

/-- A live lease stays live only while the clock is before its expiry. -/
theorem Holds.earlier {later : Time} (h : Holds s later k t) (hle : now ≤ later) :
    Holds s now k t := by
  obtain ⟨l, hk, hl, ht⟩ := h
  rw [Lease.live_iff] at hl
  exact ⟨l, hk, Lease.live_iff.mpr ⟨hl.1, lt_of_le_of_lt hle hl.2⟩, ht⟩

variable [LawfulLeaseStore σ]

theorem holds_createLease {token : String} {t' : TaskId} {n : NodeId} {ttl : Duration} {l : Lease}
    (h : LeaseStore.createLease s now token t' n ttl = .ok (l, s')) :
    Holds s' now k t ↔
      if k = generateId "lease" token then 0 < ttl ∧ t' = t else Holds s now k t := by
  obtain ⟨hl, hget⟩ := LawfulLeaseStore.createLease_ok h
  have hid : l.id = generateId "lease" token := by rw [hl]
  rw [Holds, hget, hid]
  by_cases hk : k = generateId "lease" token
  · simp only [if_pos hk, Option.some.injEq, exists_eq_left', Lease.live_iff, hl]
    simp
  · simp only [if_neg hk, Holds]

theorem holds_revokeLease {id : LeaseId} :
    Holds (LeaseStore.revokeLease s id).2 now k t ↔ k ≠ id ∧ Holds s now k t := by
  rw [Holds, LawfulLeaseStore.get?_revokeLease]
  by_cases hk : k = id
  · rw [if_pos hk]
    refine ⟨?_, ?_⟩
    · rintro ⟨l, hl, hlive, -⟩
      obtain ⟨l', -, rfl⟩ := Option.map_eq_some_iff.mp hl
      exact absurd hlive (Lease.not_live_revoked now l')
    · intro h
      exact absurd hk h.1
  · rw [if_neg hk]
    exact ⟨fun h => ⟨hk, h⟩, fun h => h.2⟩

theorem holds_getActiveLeases :
    Holds (LeaseStore.getActiveLeases s now).2 now k t ↔ Holds s now k t := by
  rw [Holds, LawfulLeaseStore.get?_getActiveLeases]
  refine ⟨?_, ?_⟩
  · rintro ⟨l, hl, hlive, ht⟩
    obtain ⟨l', hk, rfl⟩ := Option.map_eq_some_iff.mp hl
    exact ⟨l', hk, by rwa [Lease.live_aged] at hlive, by rwa [Lease.aged_taskId] at ht⟩
  · rintro ⟨l, hk, hlive, ht⟩
    exact ⟨l.aged now, by rw [hk]; rfl, by rwa [Lease.live_aged], by rwa [Lease.aged_taskId]⟩

theorem holds_of_mem_getActiveLeases {l : Lease}
    (h : l ∈ (LeaseStore.getActiveLeases s now).1) : Holds s now l.id l.taskId := by
  rw [LawfulLeaseStore.getActiveLeases_fst, List.mem_filter] at h
  exact ⟨l, Table.get?_of_mem h.1, h.2, rfl⟩

end Holds

end HermesCluster
