import HermesCluster.Lease.LeaseTable

/-!
# What `LeaseManager.extend` is for

`Extended` says what extending a lease is to do: there is a lease for the same task and node
that lasts at least as long, the old one is revoked, and nothing else changes.  `Declined` is
the answer for an id that names no live lease.

The new lease runs from the clock and not from the expiry of the old one, so an extension by
less than what was left shortens the lease; and the scan `extend` begins with never returns
when a lease is due.  `extend_extends_iff` says that there is nothing else in the way.
-/

namespace HermesCluster

section Extension

variable {σ : Type} [LeaseStore σ]

/-- The active leases of a task. -/
def activeLeases (s : σ) (t : TaskId) : Nat :=
  (LeaseStore.leases s).count fun l => l.taskId = t ∧ l.status = .active

/-- `extend` returns a lease in the place of `l` that lasts at least as long. -/
def Extended (m : LeaseManager) (s : σ) (now : Time) (token : String) (id : LeaseId)
    (ttl : Duration) (l : Lease) : Prop :=
  ∃ l' s', m.extend s now token id (some ttl) = some (.ok (some l'), s') ∧
    (LeaseStore.leases s').get? l'.id = some l' ∧ l'.status = .active ∧
    l'.taskId = l.taskId ∧ l'.nodeId = l.nodeId ∧ l.expiresAt ≤ l'.expiresAt ∧
    leaseStatus s' id = some .revoked ∧ activeLeases s' l.taskId = activeLeases s l.taskId ∧
    ∀ k x, k ≠ id → (LeaseStore.leases s).get? k = some x → now < x.expiresAt →
      (LeaseStore.leases s').get? k = some x

/-- `extend` returns nothing; no lease is created and none revoked. -/
def Declined (m : LeaseManager) (s : σ) (now : Time) (token : String) (id : LeaseId)
    (ttl : Duration) : Prop :=
  ∃ s', m.extend s now token id (some ttl) = some (.ok none, s') ∧
    (LeaseStore.leases s').keys = (LeaseStore.leases s).keys ∧
    ∀ k, leaseStatus s' k = some .revoked → leaseStatus s k = some .revoked

/-- A call of `extend` does what it is for. -/
def ExtendsRightly (m : LeaseManager) (s : σ) (now : Time) (token : String) (id : LeaseId)
    (ttl : Duration) : Prop :=
  (∀ l, LiveAt s now id l → Extended m s now token id ttl l) ∧
    ((∀ l, ¬ LiveAt s now id l) → Declined m s now token id ttl)

/-- The id is empty or no active lease is due; and if the id names a live lease, it is not
empty, and the TTL from now reaches the expiry of that lease and is within the range of
`datetime`. -/
def Extendable (s : σ) (now : Time) (id : LeaseId) (ttl : Duration) : Prop :=
  (id = "" ∨ NothingDue s now) ∧
    ∀ l, LiveAt s now id l → id ≠ "" ∧ l.expiresAt ≤ now + ttl ∧ (addTtl now ttl).isOk

variable [TabledLeaseStore σ] {s s' : σ} {m : LeaseManager} {now : Time} {token : String}
  {id : LeaseId} {ttl : Duration}

omit [TabledLeaseStore σ] in
/-- A positive TTL is used as it is. -/
theorem effectiveTtl_some (m : LeaseManager) (hpos : 0 < ttl) : m.effectiveTtl (some ttl) = ttl :=
  if_neg hpos.ne'

/-- The count after a lease has been made for the task of a live one, and that one revoked. -/
theorem activeLeases_replaced {l l' : Lease} (hl : LiveAt s now id l)
    (hfresh : (LeaseStore.leases s).get? (generateId "lease" token) = none)
    (hc : LeaseStore.createLease s now token l.taskId l.nodeId ttl = .ok (l', s')) :
    activeLeases (LeaseStore.revokeLease s' id).2 l.taskId = activeLeases s l.taskId := by
  obtain ⟨hget, hlive⟩ := hl
  obtain ⟨hnew, hafter⟩ := LawfulLeaseStore.createLease_ok hc
  have hid' : l'.id = generateId "lease" token := by rw [hnew]
  have hne : id ≠ l'.id := by
    intro e
    rw [hid'] at e
    rw [← e, hget] at hfresh
    cases hfresh
  obtain ⟨htable, -⟩ := TabledLeaseStore.leases_createLease hc
  have htable' : LeaseStore.leases (LeaseStore.revokeLease s' id).2 =
      (LeaseStore.leases s').modify id Lease.revoked Lease.key_revoked :=
    TabledLeaseStore.leases_revokeLease.1
  -- the new lease is one more, the old one then one less
  have hput := Table.count_put (fun x => decide (x.taskId = l.taskId ∧ x.status = .active))
    (LeaseStore.leases s) l'
  have hrevoke := Table.count_modify (fun x => decide (x.taskId = l.taskId ∧ x.status = .active))
    (LeaseStore.leases s') id Lease.revoked Lease.key_revoked
  rw [key_lease, hid', hfresh, Table.tally_none, Table.tally_pos (by simp [hnew]), ← htable] at hput
  rw [hafter, if_neg hne, hget, Option.map_some,
    Table.tally_pos (by simp [(Lease.live_iff.mp hlive).1]),
    Table.tally_neg (by simp [Lease.revoked]), ← htable'] at hrevoke
  rw [activeLeases, activeLeases]
  omega

/-- An extension that reaches the old expiry extends. -/
theorem extended_of {l : Lease} (hid : id ≠ "") (hdue : NothingDue s now) (hpos : 0 < ttl)
    (hfresh : (LeaseStore.leases s).get? (generateId "lease" token) = none)
    (hl : LiveAt s now id l) (hreach : l.expiresAt ≤ now + ttl)
    (hok : (LeaseStore.createLease s now token l.taskId l.nodeId ttl).isOk) :
    Extended m s now token id ttl l := by
  cases hc : LeaseStore.createLease s now token l.taskId l.nodeId ttl with
  | error e =>
    rw [hc] at hok
    cases hok
  | ok r =>
    obtain ⟨l', s'⟩ := r
    obtain ⟨hnew, hafter⟩ := LawfulLeaseStore.createLease_ok hc
    have hid' : l'.id = generateId "lease" token := by rw [hnew]
    have hne : l'.id ≠ id := by
      intro e
      rw [← hid', e, hl.1] at hfresh
      cases hfresh
    have hret : m.extend s now token id (some ttl) =
        some (.ok (some l'), (LeaseStore.revokeLease s' id).2) :=
      extend_returned hid hdue hl (by rw [effectiveTtl_some m hpos]; exact hc)
    refine ⟨l', _, hret, ?_, ?_, ?_, ?_, ?_, ?_, activeLeases_replaced hl hfresh hc, ?_⟩
    · rw [LawfulLeaseStore.get?_revokeLease, if_neg hne, hafter, if_pos rfl]
    · rw [hnew]
    · rw [hnew]
    · rw [hnew]
    · rw [hnew]
      exact hreach
    · rw [leaseStatus_revokeLease, if_pos rfl, leaseStatus, hafter, if_neg hne.symm, hl.1]
      rfl
    · intro k x hk hx _
      have hk' : k ≠ l'.id := by
        intro e
        rw [← hid', ← e, hx] at hfresh
        cases hfresh
      rw [LawfulLeaseStore.get?_revokeLease, if_neg hk, hafter, if_neg hk', hx]

/-- What an extension has to meet. -/
theorem extendable_of_extended {l : Lease} (hpos : 0 < ttl) (hl : LiveAt s now id l)
    (h : Extended m s now token id ttl l) :
    id ≠ "" ∧ NothingDue s now ∧ l.expiresAt ≤ now + ttl ∧ (addTtl now ttl).isOk := by
  obtain ⟨l', s', hret, -, -, -, -, hreach, -⟩ := h
  have hid : id ≠ "" := by
    intro e
    rw [e, extend_empty] at hret
    cases hret
  have hdue : NothingDue s now := by
    by_contra hdue
    rw [extend_stuck hid hdue] at hret
    cases hret
  have heff := effectiveTtl_some m hpos
  cases hc : LeaseStore.createLease s now token l.taskId l.nodeId ttl with
  | error e =>
    rw [extend_raises hid hdue hl (by rw [heff]; exact hc)] at hret
    cases hret
  | ok r =>
    obtain ⟨x, s₂⟩ := r
    rw [extend_returned hid hdue hl (by rw [heff]; exact hc)] at hret
    cases hret
    obtain ⟨hnew, -⟩ := LawfulLeaseStore.createLease_ok hc
    rw [hnew] at hreach
    exact ⟨hid, hdue, hreach, (accepted_of_ok hc).1⟩

/-- An id that names no live lease is declined, unless a lease is due. -/
theorem declined_iff (hl : ∀ l, ¬ LiveAt s now id l) :
    Declined m s now token id ttl ↔ id = "" ∨ NothingDue s now := by
  refine ⟨?_, ?_⟩
  · rintro ⟨s', hret, -⟩
    by_contra h
    rw [not_or] at h
    rw [extend_stuck h.1 h.2] at hret
    cases hret
  · intro h
    have hret : m.extend s now token id (some ttl) = some (.ok none, s) := by
      by_cases hid : id = ""
      · rw [hid, extend_empty]
      · exact extend_absent hid (h.resolve_left hid) hl (some ttl)
    exact ⟨s, hret, rfl, fun k hk => hk⟩

theorem extendsRightly_iff (hpos : 0 < ttl)
    (hfresh : (LeaseStore.leases s).get? (generateId "lease" token) = none)
    (hacc : LawfulLeaseStore.accepts s (generateId "lease" token)) :
    ExtendsRightly m s now token id ttl ↔ Extendable s now id ttl := by
  by_cases hlive : ∃ l, LiveAt s now id l
  · obtain ⟨l, hl⟩ := hlive
    -- the id names one lease
    have hone : ∀ x, LiveAt s now id x → x = l := fun x hx =>
      Option.some.inj (hx.1.symm.trans hl.1)
    refine ⟨?_, ?_⟩
    · intro h
      obtain ⟨hid, hdue, hreach, hok⟩ := extendable_of_extended hpos hl (h.1 l hl)
      exact ⟨.inr hdue, fun x hx => hone x hx ▸ ⟨hid, hreach, hok⟩⟩
    · rintro ⟨hdue, h⟩
      obtain ⟨hid, hreach, hok⟩ := h l hl
      refine ⟨fun x hx => ?_, fun hnone => absurd hl (hnone l)⟩
      rw [hone x hx]
      exact extended_of hid (hdue.resolve_left hid) hpos hfresh hl hreach
        (LawfulLeaseStore.createLease_isOk.mpr ⟨hok, hacc⟩)
  · have hnone : ∀ l, ¬ LiveAt s now id l := fun l hl => hlive ⟨l, hl⟩
    refine ⟨?_, ?_⟩
    · intro h
      exact ⟨(declined_iff hnone).mp (h.2 hnone), fun l hl => absurd hl (hnone l)⟩
    · intro h
      exact ⟨fun l hl => absurd hl (hnone l), fun _ => (declined_iff hnone).mpr h.1⟩

end Extension

/-- **Extending a lease extends it**, in either store and whatever the table, for a positive
TTL and a new lease id that is not in use, exactly when the call is `Extendable`. -/
theorem extend_extends_iff (m : LeaseManager) (now : Time) (token : String) (id : LeaseId)
    (ttl : Duration) (hpos : 0 < ttl) :
    (∀ s : ClusterState, s.leases.get? (generateId "lease" token) = none →
      (ExtendsRightly m s now token id ttl ↔ Extendable s now id ttl)) ∧
    ∀ s : ClusterStore, s.leases.get? (generateId "lease" token) = none →
      (ExtendsRightly m s now token id ttl ↔ Extendable s now id ttl) :=
  ⟨fun _ hfresh => extendsRightly_iff hpos hfresh trivial,
    fun _ hfresh => extendsRightly_iff hpos hfresh hfresh⟩

/-- A lease of node n1 until 100. -/
def leaseUntil100 : Lease :=
  { id := "lease_a", taskId := "task_a", nodeId := "n1", createdAt := 0, expiresAt := 100 }

theorem extend_extends_leaseUntil100 :
    (ExtendsRightly {} ({ leases := Table.empty.put leaseUntil100 } : ClusterState) 10 "b"
        "lease_a" 200 ↔
      Extendable ({ leases := Table.empty.put leaseUntil100 } : ClusterState) 10 "lease_a" 200) ∧
    (ExtendsRightly {} ({ leases := Table.empty.put leaseUntil100 } : ClusterStore) 10 "b"
        "lease_a" 200 ↔
      Extendable ({ leases := Table.empty.put leaseUntil100 } : ClusterStore) 10 "lease_a" 200) :=
  ⟨(extend_extends_iff {} 10 "b" "lease_a" 200 (by decide)).1 _ (by decide),
    (extend_extends_iff {} 10 "b" "lease_a" 200 (by decide)).2 _ (by decide)⟩

/-- At 10, extended by 20, the lease ends at 30 and no more at 100. -/
theorem extend_shortens :
    ¬ ExtendsRightly {} ({ leases := Table.empty.put leaseUntil100 } : ClusterState) 10 "b"
      "lease_a" 20 := by
  intro h
  obtain ⟨l', s', hret, -, -, -, -, hreach, -⟩ := h.1 leaseUntil100 ⟨rfl, by decide⟩
  cases hret
  revert hreach
  decide

end HermesCluster
