import HermesCluster.Lease.Final

/-!
# What the lease methods do to the lease table

`TabledLeaseStore` says of each lease method which table it leaves, as a whole, and that only
a scan calls back.  Both stores satisfy it.

`LeaseManager.extend` has one lemma for each of its paths: it finds nothing to do
(`extend_empty`, `extend_absent`), never returns (`extend_stuck`), raises (`extend_raises`),
or makes the new lease and revokes the old one (`extend_returned`).
-/

namespace HermesCluster

/-- The lease methods by the tables they leave. -/
class TabledLeaseStore (σ : Type) [LeaseStore σ] extends ScanningLeaseStore σ where
  leases_createLease {s s' : σ} {now : Time} {token : String} {t : TaskId} {n : NodeId}
    {ttl : Duration} {l : Lease} :
    LeaseStore.createLease s now token t n ttl = .ok (l, s') →
      LeaseStore.leases s' = (LeaseStore.leases s).put l ∧
        LeaseStore.leaseCallbackCalls s' = LeaseStore.leaseCallbackCalls s
  leases_revokeLease {s : σ} {id : LeaseId} :
    LeaseStore.leases (LeaseStore.revokeLease s id).2 =
        (LeaseStore.leases s).modify id Lease.revoked Lease.key_revoked ∧
      LeaseStore.leaseCallbackCalls (LeaseStore.revokeLease s id).2 =
        LeaseStore.leaseCallbackCalls s
  leases_getActiveLeases {s : σ} {now : Time} :
    LeaseStore.leases (LeaseStore.getActiveLeases s now).2 =
      (LeaseStore.leases s).mapRows (Lease.aged now) (fun l => l.aged_id now)
  getActiveLeases_idle {s : σ} {now : Time} :
    (∀ l ∈ (LeaseStore.leases s).rows, ¬ l.lapsed now) → (LeaseStore.getActiveLeases s now).2 = s

/-- A scan that expires nothing leaves the table as it is. -/
theorem mapRows_aged_idle {t : Table Lease} {now : Time} (h : ∀ l ∈ t.rows, ¬ l.lapsed now) :
    t.mapRows (Lease.aged now) (fun l => l.aged_id now) = t := by
  apply Table.ext
  rw [Table.rows_mapRows]
  conv_rhs => rw [← List.map_id t.rows]
  exact List.map_congr_left fun l hl => if_neg (h l hl)

/-- A scan that expires nothing calls nothing back. -/
theorem filter_lapsed_idle {t : Table Lease} {now : Time} (h : ∀ l ∈ t.rows, ¬ l.lapsed now) :
    t.rows.filter (·.lapsed now) = [] := List.filter_eq_nil_iff.mpr h

instance : TabledLeaseStore ClusterState where
  leases_createLease {s s' now token t n ttl l} := by
    intro h
    obtain ⟨-, rfl⟩ := ClusterState.createLease_inv h
    exact ⟨rfl, rfl⟩
  leases_revokeLease {s id} := by
    show (s.revokeLease id).2.leases = _ ∧ (s.revokeLease id).2.leaseCallbackCalls = _
    rw [ClusterState.revokeLease]
    cases h : s.leases.get? id with
    | none => exact ⟨(Table.modify_of_get?_none Lease.revoked Lease.key_revoked h).symm, rfl⟩
    | some l => exact ⟨rfl, rfl⟩
  leases_getActiveLeases := rfl
  getActiveLeases_idle {s now} := by
    intro h
    show (s.getActiveLeases now).2 = s
    change ∀ l ∈ s.leases.rows, _ at h
    rw [ClusterState.getActiveLeases]
    simp only [mapRows_aged_idle h, filter_lapsed_idle h, List.map_nil, List.append_nil]

instance : TabledLeaseStore ClusterStore where
  leases_createLease {s s' now token t n ttl l} := by
    intro h
    obtain ⟨-, rfl⟩ := ClusterStore.createLease_inv h
    exact ⟨rfl, rfl⟩
  leases_revokeLease := ⟨rfl, rfl⟩
  leases_getActiveLeases := rfl
  getActiveLeases_idle {s now} := by
    intro h
    show (s.getActiveLeases now).2 = s
    change ∀ l ∈ s.leases.rows, _ at h
    rw [ClusterStore.getActiveLeases]
    simp only [mapRows_aged_idle h, filter_lapsed_idle h, List.map_nil, List.append_nil]

section Tabled

variable {σ : Type} [LeaseStore σ]

/-- No active lease has run out. -/
def NothingDue (s : σ) (now : Time) : Prop := ∀ l ∈ (LeaseStore.leases s).rows, ¬ l.lapsed now

/-- The lease under the id is live. -/
def LiveAt (s : σ) (now : Time) (id : LeaseId) (l : Lease) : Prop :=
  (LeaseStore.leases s).get? id = some l ∧ l.live now

variable [TabledLeaseStore σ] {s : σ} {m : LeaseManager} {now : Time} {token : String}
  {id : LeaseId}

/-- The number of calls a scan makes. -/
theorem length_calls_getActiveLeases (s : σ) (now : Time) :
    (LeaseStore.leaseCallbackCalls (LeaseStore.getActiveLeases s now).2).length =
      (LeaseStore.leaseCallbackCalls s).length +
        (LeaseStore.leases s).count (Lease.lapsed now) := by
  rw [ScanningLeaseStore.leaseCallbackCalls_getActiveLeases, List.length_append, List.length_map,
    Table.count, List.countP_eq_length_filter]

omit [TabledLeaseStore σ] in
/-- What `extend` finds under its id. -/
theorem find?_live (s : σ) (now : Time) (id : LeaseId) (l : Lease) :
    ((LeaseStore.leases s).rows.filter (·.live now)).find? (fun x => x.id = id) = some l ↔
      LiveAt s now id l := by
  refine ⟨?_, ?_⟩
  · intro h
    have hmem := List.mem_filter.mp (List.mem_of_find?_eq_some h)
    have hid : l.id = id := by simpa using List.find?_some h
    exact ⟨hid ▸ Table.get?_of_mem hmem.1, hmem.2⟩
  · rintro ⟨hget, hlive⟩
    cases h : ((LeaseStore.leases s).rows.filter (·.live now)).find? (fun x => x.id = id) with
    | none =>
      have hmem := List.mem_filter.mpr ⟨Table.mem_of_get? hget, hlive⟩
      exact absurd (decide_eq_true (Table.key_of_get? hget)) (List.find?_eq_none.mp h l hmem)
    | some l' =>
      have hmem := List.mem_filter.mp (List.mem_of_find?_eq_some h)
      have hid : l'.id = id := by simpa using List.find?_some h
      have hget' := Table.get?_of_mem hmem.1
      rw [key_lease, hid, hget] at hget'
      exact hget'.symm

omit [TabledLeaseStore σ] in
theorem extend_empty (ttl : Option Duration) :
    m.extend s now token "" ttl = some (.ok none, s) := by
  rw [LeaseManager.extend, if_pos rfl]

/-- A lease that is due makes `extend` wait for its own lock. -/
theorem extend_stuck (hid : id ≠ "") (h : ¬ NothingDue s now) (ttl : Option Duration) :
    m.extend s now token id ttl = none := by
  have hpos : 0 < (LeaseStore.leases s).count (Lease.lapsed now) := by
    rw [NothingDue] at h
    push Not at h
    rw [Table.count, List.countP_pos_iff]
    exact h
  have hlen := length_calls_getActiveLeases s now
  rw [LeaseManager.extend, if_neg hid]
  simp only
  rw [if_pos (by omega)]

/-- `extend` of a lease that is not live. -/
theorem extend_absent (hid : id ≠ "") (h : NothingDue s now) (hl : ∀ l, ¬ LiveAt s now id l)
    (ttl : Option Duration) : m.extend s now token id ttl = some (.ok none, s) := by
  have hnone : ((LeaseStore.leases s).rows.filter (·.live now)).find? (fun x => x.id = id) =
      none := by
    cases hf : ((LeaseStore.leases s).rows.filter (·.live now)).find? (fun x => x.id = id) with
    | none => rfl
    | some l => exact absurd ((find?_live s now id l).mp hf) (hl l)
  rw [LeaseManager.extend, if_neg hid]
  simp only [TabledLeaseStore.getActiveLeases_idle h, LawfulLeaseStore.getActiveLeases_fst,
    lt_irrefl, if_false, hnone]

/-- `extend` of a live lease, when the new lease cannot be made. -/
theorem extend_raises (hid : id ≠ "") (h : NothingDue s now) {l : Lease}
    (hl : LiveAt s now id l) {ttl : Option Duration} {e : PyError}
    (hc : LeaseStore.createLease s now token l.taskId l.nodeId (m.effectiveTtl ttl) = .error e) :
    m.extend s now token id ttl = some (.error e, s) := by
  rw [LeaseManager.extend, if_neg hid]
  simp only [TabledLeaseStore.getActiveLeases_idle h, LawfulLeaseStore.getActiveLeases_fst,
    lt_irrefl, if_false, (find?_live s now id l).mpr hl, hc]

/-- `extend` of a live lease makes the new one and revokes the old one. -/
theorem extend_returned (hid : id ≠ "") (h : NothingDue s now) {l l' : Lease} {s' : σ}
    (hl : LiveAt s now id l) {ttl : Option Duration}
    (hc : LeaseStore.createLease s now token l.taskId l.nodeId (m.effectiveTtl ttl) =
      .ok (l', s')) :
    m.extend s now token id ttl = some (.ok (some l'), (LeaseStore.revokeLease s' id).2) := by
  rw [LeaseManager.extend, if_neg hid]
  simp only [TabledLeaseStore.getActiveLeases_idle h, LawfulLeaseStore.getActiveLeases_fst,
    lt_irrefl, if_false, (find?_live s now id l).mpr hl, hc]

end Tabled

end HermesCluster
