import HermesCluster.Lease.OneHolder

/-!
# End states of leases

A lease that is expired or revoked has ended.  `EndStatesFinal` says of a run that an
ended lease keeps its status for ever, and that `LeaseManager.revoke` of an ended lease
returns `False` and changes nothing.

`revoke_lease` does not look at the status of its lease, so neither holds of every run.
`KeepsEnded` is what an operation has to meet at the world it is done in, and
`end_states_final` says that a run is final exactly when each of its operations does.
The stores differ in one point: an id drawn again overwrites the lease in the dictionary
of `ClusterState` and is refused by the primary key of `ClusterStore`.
-/

namespace HermesCluster

open Run

/-- A store whose scan calls back for the leases that have run out and takes no id away. -/
class ScanningLeaseStore (σ : Type) [LeaseStore σ] extends LawfulLeaseStore σ where
  leaseCallbackCalls_getActiveLeases {s : σ} {now : Time} :
    LeaseStore.leaseCallbackCalls (LeaseStore.getActiveLeases s now).2 =
      LeaseStore.leaseCallbackCalls s ++
        ((LeaseStore.leases s).rows.filter (·.lapsed now)).map (fun l => (l.taskId, l.nodeId))
  accepts_getActiveLeases {s : σ} {now : Time} {id : LeaseId} :
    accepts (LeaseStore.getActiveLeases s now).2 id ↔ accepts s id
  revokeLease_fst {s : σ} {id : LeaseId} :
    (LeaseStore.revokeLease s id).1 = ((LeaseStore.leases s).get? id).isSome

instance : ScanningLeaseStore ClusterState where
  leaseCallbackCalls_getActiveLeases := rfl
  accepts_getActiveLeases := Iff.rfl
  revokeLease_fst {s id} := by
    show (s.revokeLease id).1 = (s.leases.get? id).isSome
    rw [ClusterState.revokeLease]
    cases s.leases.get? id <;> rfl

instance : ScanningLeaseStore ClusterStore where
  leaseCallbackCalls_getActiveLeases := rfl
  accepts_getActiveLeases {s now id} := by
    show (s.getActiveLeases now).2.leases.get? id = none ↔ s.leases.get? id = none
    rw [show (s.getActiveLeases now).2.leases.get? id = (s.leases.get? id).map (Lease.aged now) from
      LawfulLeaseStore.get?_getActiveLeases (σ := ClusterStore), Option.map_eq_none_iff]
  revokeLease_fst := rfl

/-! ### Ended leases -/

section Ended

variable {σ : Type} [LeaseStore σ]

/-- The status of the lease under an id. -/
def leaseStatus (s : σ) (id : LeaseId) : Option LeaseStatus :=
  ((LeaseStore.leases s).get? id).map Lease.status

/-- The lease under the id is expired or revoked. -/
def Ended (s : σ) (id : LeaseId) : Prop :=
  leaseStatus s id = some .expired ∨ leaseStatus s id = some .revoked

instance (s : σ) (id : LeaseId) : Decidable (Ended s id) := by
  unfold Ended; infer_instance

/-- What has ended in the first store has the same status in the second. -/
def SameEnds (s s' : σ) : Prop := ∀ id, Ended s id → leaseStatus s' id = leaseStatus s id

theorem SameEnds.refl (s : σ) : SameEnds s s := fun _ _ => rfl

theorem SameEnds.trans {s s' s'' : σ} (h : SameEnds s s') (h' : SameEnds s' s'') :
    SameEnds s s'' := by
  intro id he
  have hs := h id he
  rw [h' id (by rwa [Ended, hs]), hs]

theorem ended_iff {s : σ} {id : LeaseId} :
    Ended s id ↔ ∃ l, (LeaseStore.leases s).get? id = some l ∧ l.status ≠ .active := by
  rw [Ended, leaseStatus]
  cases h : (LeaseStore.leases s).get? id with
  | none => simp
  | some l => cases hl : l.status <;> simp [hl]

variable [ScanningLeaseStore σ] {s s' : σ} {now : Time} {id : LeaseId}

/-- A scan ends leases and leaves the ended ones alone. -/
theorem sameEnds_getActiveLeases : SameEnds s (LeaseStore.getActiveLeases s now).2 := by
  intro id he
  obtain ⟨l, hl, hne⟩ := ended_iff.mp he
  have haged : l.aged now = l := by
    rw [Lease.aged, if_neg]
    rw [Lease.lapsed_iff]
    exact fun h => hne h.1
  rw [leaseStatus, LawfulLeaseStore.get?_getActiveLeases, leaseStatus, hl, Option.map_some, haged]

/-- A scan that finds no lease to expire changes no status. -/
theorem leaseStatus_getActiveLeases (h : ∀ l ∈ (LeaseStore.leases s).rows, ¬ l.lapsed now) :
    leaseStatus (LeaseStore.getActiveLeases s now).2 id = leaseStatus s id := by
  rw [leaseStatus, LawfulLeaseStore.get?_getActiveLeases, leaseStatus]
  cases hl : (LeaseStore.leases s).get? id with
  | none => rfl
  | some l => rw [Option.map_some, Lease.aged, if_neg (h l (Table.mem_of_get? hl))]

theorem leaseStatus_revokeLease {k : LeaseId} :
    leaseStatus (LeaseStore.revokeLease s id).2 k =
      if k = id then (leaseStatus s k).map (fun _ => .revoked) else leaseStatus s k := by
  rw [leaseStatus, LawfulLeaseStore.get?_revokeLease]
  by_cases hk : k = id
  · rw [if_pos hk, if_pos hk, leaseStatus, Option.map_map, Option.map_map]
    rfl
  · rw [if_neg hk, if_neg hk, leaseStatus]

/-- `revoke_lease` overwrites an expired status. -/
theorem sameEnds_revokeLease :
    SameEnds s (LeaseStore.revokeLease s id).2 ↔ leaseStatus s id ≠ some .expired := by
  refine ⟨?_, ?_⟩
  · intro h hexp
    have hsame := h id (Or.inl hexp)
    rw [leaseStatus_revokeLease, if_pos rfl, hexp] at hsame
    cases hsame
  · intro hne k he
    rw [leaseStatus_revokeLease]
    by_cases hk : k = id
    · rw [if_pos hk]
      rcases he with he | he
      · exact absurd (hk ▸ he) hne
      · rw [he]; rfl
    · rw [if_neg hk]

theorem leaseStatus_createLease {token : String} {t : TaskId} {n : NodeId} {ttl : Duration}
    {l : Lease} (h : LeaseStore.createLease s now token t n ttl = .ok (l, s')) :
    leaseStatus s' id =
      if id = generateId "lease" token then some .active else leaseStatus s id := by
  obtain ⟨hl, hget⟩ := LawfulLeaseStore.createLease_ok h
  have hid : l.id = generateId "lease" token := by rw [hl]
  rw [leaseStatus, hget, hid]
  by_cases hk : id = generateId "lease" token
  · rw [if_pos hk, if_pos hk, Option.map_some, hl]
  · rw [if_neg hk, if_neg hk, leaseStatus]

/-- A new lease overwrites the one under its id. -/
theorem sameEnds_createLease {token : String} {t : TaskId} {n : NodeId} {ttl : Duration} {l : Lease}
    (h : LeaseStore.createLease s now token t n ttl = .ok (l, s')) :
    SameEnds s s' ↔ ¬ Ended s (generateId "lease" token) := by
  refine ⟨?_, ?_⟩
  · intro hsame he
    have hnew := hsame _ he
    rw [leaseStatus_createLease h, if_pos rfl] at hnew
    rcases he with he | he
    · rw [he] at hnew; cases hnew
    · rw [he] at hnew; cases hnew
  · intro hne k he
    have hk : k ≠ generateId "lease" token := fun e => hne (e ▸ he)
    rw [leaseStatus_createLease h, if_neg hk]

end Ended

namespace LeaseWorld

variable {σ : Type} [LeaseStore σ]

/-- `LeaseManager.revoke` of an ended lease is refused. -/
def RefusesEnded (w : LeaseWorld σ) (op : LeaseOp) : Prop :=
  ∀ id, op = .managerRevoke id → Ended w.store id →
    w.manager.revoke w.store id = (false, w.manager, w.store)

/-- An ended lease keeps its status in all later worlds of the run, and the manager
refuses to revoke it. -/
def EndStatesFinal (w : LeaseWorld σ) (run : List LeaseOp) : Prop :=
  (∀ l m, l ++ m <+: run → SameEnds (exec step w l).store (exec step w (l ++ m)).store) ∧
  EachStep step RefusesEnded w run

/-- `extend` gets as far as creating a lease: its id names a live lease, and its scan
finds no lease to call back for. -/
def Extends (w : LeaseWorld σ) (id : LeaseId) : Prop :=
  id ≠ "" ∧ (∀ l ∈ (LeaseStore.leases w.store).rows, ¬ l.lapsed w.now) ∧
    ∃ l, (LeaseStore.leases w.store).get? id = some l ∧ l.live w.now

/-- The operation asks the store for a lease with this token and TTL. -/
def Creates (w : LeaseWorld σ) (token : String) (ttl : Duration) (op : LeaseOp) : Prop :=
  (∃ t, w.newLease op = some (token, t, ttl)) ∨
    ∃ id ttl', op = .extend token id ttl' ∧ ttl = w.manager.effectiveTtl ttl' ∧ w.Extends id

variable [ScanningLeaseStore σ]

/-- What an operation has to meet to leave the ended leases as they are. -/
def KeepsEnded (w : LeaseWorld σ) (op : LeaseOp) : Prop :=
  (∀ id, op = .revoke id → leaseStatus w.store id ≠ some .expired) ∧
  (∀ id, op = .managerRevoke id → id = "" ∨ ¬ Ended w.store id) ∧
  ∀ token ttl, w.Creates token ttl op → (addTtl w.now ttl).isOk →
    LawfulLeaseStore.accepts w.store (generateId "lease" token) →
    ¬ Ended w.store (generateId "lease" token)

variable {w : LeaseWorld σ}

theorem sameEnds_create (token : String) (t : TaskId) (n : NodeId) (ttl : Duration) :
    SameEnds w.store (w.create token t n ttl).store ↔
      ((addTtl w.now ttl).isOk → LawfulLeaseStore.accepts w.store (generateId "lease" token) →
        ¬ Ended w.store (generateId "lease" token)) := by
  cases hc : LeaseStore.createLease w.store w.now token t n ttl with
  | error e =>
    have hw : w.create token t n ttl = w := by rw [create, hc]
    rw [hw]
    exact ⟨fun _ hok hacc => absurd hacc (refused_of_error hc hok), fun _ => SameEnds.refl _⟩
  | ok r =>
    obtain ⟨l, s'⟩ := r
    have hw : (w.create token t n ttl).store = s' := by rw [create, hc]
    have hok := accepted_of_ok hc
    rw [hw, sameEnds_createLease hc]
    exact ⟨fun h _ _ => h, fun h => h hok.1 hok.2⟩

/-- After a scan that expires nothing, creating a lease and then revoking a live one
overwrites exactly what creating it overwrites. -/
theorem sameEnds_replace {s₂ : σ} {token : String} {id : LeaseId} {t : TaskId} {n : NodeId}
    {ttl : Duration} {l : Lease} (hx : w.Extends id)
    (hc : LeaseStore.createLease (LeaseStore.getActiveLeases w.store w.now).2 w.now token t n ttl =
      .ok (l, s₂)) :
    SameEnds w.store (LeaseStore.revokeLease s₂ id).2 ↔
      ¬ Ended w.store (generateId "lease" token) := by
  obtain ⟨-, hnone, x, hx, hlive⟩ := hx
  have hactive : leaseStatus w.store id = some .active := by
    rw [leaseStatus, hx, Option.map_some, (Lease.live_iff.mp hlive).1]
  have hafter : ∀ k, leaseStatus s₂ k =
      if k = generateId "lease" token then some .active else leaseStatus w.store k := by
    intro k
    rw [leaseStatus_createLease hc, leaseStatus_getActiveLeases hnone]
  refine ⟨?_, ?_⟩
  · intro hsame he
    have hne : generateId "lease" token ≠ id := by
      intro e
      rw [e, Ended, hactive] at he
      rcases he with he | he <;> cases he
    have hnew := hsame _ he
    rw [leaseStatus_revokeLease, if_neg hne, hafter, if_pos rfl] at hnew
    rcases he with he | he
    · rw [he] at hnew; cases hnew
    · rw [he] at hnew; cases hnew
  · intro hne k he
    have hk : k ≠ id := by
      intro e
      rw [e, Ended, hactive] at he
      rcases he with he | he <;> cases he
    have hk' : k ≠ generateId "lease" token := fun e => hne (e ▸ he)
    rw [leaseStatus_revokeLease, if_neg hk, hafter, if_neg hk']

/-- What `extend` does to the store. -/
theorem step_extend (token : String) (id : LeaseId) (ttl : Option Duration) :
    (¬ w.Extends id ∧ SameEnds w.store (w.step (.extend token id ttl)).store) ∨
    (w.Extends id ∧ ∃ lease : Lease,
      (w.step (.extend token id ttl)).store =
        match LeaseStore.createLease (LeaseStore.getActiveLeases w.store w.now).2 w.now token
            lease.taskId lease.nodeId (w.manager.effectiveTtl ttl) with
        | .error _ => (LeaseStore.getActiveLeases w.store w.now).2
        | .ok (_, store₂) => (LeaseStore.revokeLease store₂ id).2) := by
  simp only [step, LeaseManager.extend]
  by_cases hid : id = ""
  · left
    rw [if_pos hid]
    exact ⟨fun h => h.1 hid, SameEnds.refl _⟩
  rw [if_neg hid]
  by_cases hnone : ∀ l ∈ (LeaseStore.leases w.store).rows, ¬ l.lapsed w.now
  · have hcalls : ¬ (LeaseStore.leaseCallbackCalls w.store).length <
        (LeaseStore.leaseCallbackCalls (LeaseStore.getActiveLeases w.store w.now).2).length := by
      have hempty : (LeaseStore.leases w.store).rows.filter (·.lapsed w.now) = [] :=
        List.filter_eq_nil_iff.mpr hnone
      rw [ScanningLeaseStore.leaseCallbackCalls_getActiveLeases, hempty]
      simp
    rw [if_neg hcalls, LawfulLeaseStore.getActiveLeases_fst]
    cases hf : ((LeaseStore.leases w.store).rows.filter (·.live w.now)).find? (·.id = id) with
    | none =>
      left
      refine ⟨?_, sameEnds_getActiveLeases⟩
      rintro ⟨-, -, l, hl, hlive⟩
      have hmem := List.mem_filter.mpr ⟨Table.mem_of_get? hl, hlive⟩
      exact List.find?_eq_none.mp hf l hmem (decide_eq_true (Table.key_of_get? hl))
    | some lease =>
      right
      have hmem := List.mem_filter.mp (List.mem_of_find?_eq_some hf)
      have hkey : lease.id = id := by simpa using List.find?_some hf
      refine ⟨⟨hid, hnone, lease, hkey ▸ Table.get?_of_mem hmem.1, hmem.2⟩, lease, ?_⟩
      simp only
      cases LeaseStore.createLease (LeaseStore.getActiveLeases w.store w.now).2 w.now token
        lease.taskId lease.nodeId (w.manager.effectiveTtl ttl) <;> rfl
  · left
    refine ⟨fun h => hnone h.2.1, ?_⟩
    have hcalls : (LeaseStore.leaseCallbackCalls w.store).length <
        (LeaseStore.leaseCallbackCalls (LeaseStore.getActiveLeases w.store w.now).2).length := by
      have hne : (LeaseStore.leases w.store).rows.filter (·.lapsed w.now) ≠ [] := fun h =>
        hnone (List.filter_eq_nil_iff.mp h)
      have := List.length_pos_iff.mpr hne
      rw [ScanningLeaseStore.leaseCallbackCalls_getActiveLeases, List.length_append,
        List.length_map]
      omega
    rw [if_pos hcalls]
    exact SameEnds.refl _

/-- `extend` leaves the ended leases alone unless the lease it creates has the id of one. -/
theorem sameEnds_extend (token : String) (id : LeaseId) (ttl : Option Duration) :
    SameEnds w.store (w.step (.extend token id ttl)).store ↔
      (w.Extends id → (addTtl w.now (w.manager.effectiveTtl ttl)).isOk →
        LawfulLeaseStore.accepts w.store (generateId "lease" token) →
        ¬ Ended w.store (generateId "lease" token)) := by
  rcases step_extend (w := w) token id ttl with ⟨hx, hsame⟩ | ⟨hx, lease, heq⟩
  · exact ⟨fun _ h => absurd h hx, fun _ => hsame⟩
  · have hiff : (LeaseStore.createLease (LeaseStore.getActiveLeases w.store w.now).2 w.now token
        lease.taskId lease.nodeId (w.manager.effectiveTtl ttl)).isOk ↔ _ :=
      LawfulLeaseStore.createLease_isOk
    rw [ScanningLeaseStore.accepts_getActiveLeases] at hiff
    rw [heq]
    cases hc : LeaseStore.createLease (LeaseStore.getActiveLeases w.store w.now).2 w.now token
        lease.taskId lease.nodeId (w.manager.effectiveTtl ttl) with
    | error e =>
      rw [hc] at hiff
      refine ⟨fun _ _ hok hacc => ?_, fun _ => sameEnds_getActiveLeases⟩
      cases hiff.mpr ⟨hok, hacc⟩
    | ok r =>
      rw [hc] at hiff
      obtain ⟨hok, hacc⟩ := hiff.mp rfl
      rw [sameEnds_replace hx hc]
      exact ⟨fun h _ _ _ => h, fun h => h hx hok hacc⟩

/-- `LeaseManager.revoke` refuses an ended lease only if its id is empty. -/
theorem refusesEnded_managerRevoke (id : LeaseId) :
    w.RefusesEnded (.managerRevoke id) ↔ id = "" ∨ ¬ Ended w.store id := by
  refine ⟨?_, ?_⟩
  · intro h
    by_cases hid : id = ""
    · exact Or.inl hid
    refine Or.inr fun he => ?_
    have hres := congrArg Prod.fst (h id rfl he)
    obtain ⟨l, hl, -⟩ := ended_iff.mp he
    simp only [LeaseManager.revoke, if_neg hid, ScanningLeaseStore.revokeLease_fst, hl] at hres
    cases hres
  · intro h id' hop he
    cases hop
    rcases h with hid | h
    · rw [LeaseManager.revoke, if_pos hid]
    · exact absurd he h

theorem sameEnds_managerRevoke (id : LeaseId) (h : id = "" ∨ ¬ Ended w.store id) :
    SameEnds w.store (w.step (.managerRevoke id)).store := by
  by_cases hid : id = ""
  · simp only [step, LeaseManager.revoke, if_pos hid]
    exact SameEnds.refl _
  · simp only [step, LeaseManager.revoke, if_neg hid]
    refine sameEnds_revokeLease.mpr fun hexp => ?_
    rcases h with h | h
    · exact hid h
    · exact h (Or.inl hexp)

omit [ScanningLeaseStore σ] in
theorem refusesEnded_of_ne {op : LeaseOp} (h : ∀ id, op ≠ .managerRevoke id) :
    w.RefusesEnded op := fun id hop _ => absurd hop (h id)

/-- An operation that is no revocation and no `extend` keeps the ended leases if it does not
create one over them. -/
theorem keepsEnded_of_newLease {op : LeaseOp} (hr : ∀ id, op ≠ .revoke id)
    (hm : ∀ id, op ≠ .managerRevoke id) (hx : ∀ token id ttl, op ≠ .extend token id ttl) :
    w.KeepsEnded op ↔ ∀ token t ttl, w.newLease op = some (token, t, ttl) →
      (addTtl w.now ttl).isOk → LawfulLeaseStore.accepts w.store (generateId "lease" token) →
      ¬ Ended w.store (generateId "lease" token) := by
  refine ⟨?_, ?_⟩
  · intro h token t ttl hn
    exact h.2.2 token ttl (Or.inl ⟨t, hn⟩)
  · intro h
    refine ⟨fun id hop => absurd hop (hr id), fun id hop => absurd hop (hm id), ?_⟩
    rintro token ttl (⟨t, hn⟩ | ⟨id, ttl', hop, -, -⟩)
    · exact h token t ttl hn
    · exact absurd hop (hx token id ttl')

/-- An operation that creates a lease in the store and does nothing else. -/
theorem keepsEnded_of_create {op : LeaseOp} (hr : ∀ id, op ≠ .revoke id)
    (hm : ∀ id, op ≠ .managerRevoke id) (hx : ∀ token id ttl, op ≠ .extend token id ttl)
    {token : String} {t : TaskId} (n : NodeId) {ttl : Duration}
    (hnew : w.newLease op = some (token, t, ttl))
    (hstep : (w.step op).store = (w.create token t n ttl).store) :
    SameEnds w.store (w.step op).store ∧ w.RefusesEnded op ↔ w.KeepsEnded op := by
  rw [and_iff_left (refusesEnded_of_ne hm), keepsEnded_of_newLease hr hm hx, hstep, hnew,
    sameEnds_create]
  refine ⟨fun h token' t' ttl' heq => ?_, fun h => h token t ttl rfl⟩
  cases heq
  exact h

/-- An operation that neither creates a lease nor touches an ended one. -/
theorem keepsEnded_of_same {op : LeaseOp} (hr : ∀ id, op ≠ .revoke id)
    (hm : ∀ id, op ≠ .managerRevoke id) (hx : ∀ token id ttl, op ≠ .extend token id ttl)
    (hnew : w.newLease op = none) (hsame : SameEnds w.store (w.step op).store) :
    SameEnds w.store (w.step op).store ∧ w.RefusesEnded op ↔ w.KeepsEnded op := by
  rw [and_iff_left (refusesEnded_of_ne hm), keepsEnded_of_newLease hr hm hx, hnew]
  refine iff_of_true hsame fun token t ttl heq => ?_
  cases heq

/-- **Step lemma.** -/
theorem keepsEnded_iff (op : LeaseOp) :
    SameEnds w.store (w.step op).store ∧ w.RefusesEnded op ↔ w.KeepsEnded op := by
  cases op with
  | create token t n ttl =>
    exact keepsEnded_of_create (by simp) (by simp) (by simp) n rfl rfl
  | post token t n ttlSeconds =>
    exact keepsEnded_of_create (by simp) (by simp) (by simp) n rfl rfl
  | managerCreate token t n ttl =>
    have hstep := (step_managerCreate (w := w) token t n ttl).2
    by_cases hids : t ≠ "" ∧ n ≠ ""
    · rw [if_pos hids] at hstep
      exact keepsEnded_of_create (by simp) (by simp) (by simp) n (if_pos hids) hstep
    · rw [if_neg hids] at hstep
      refine keepsEnded_of_same (by simp) (by simp) (by simp) (if_neg hids) ?_
      rw [hstep]
      exact SameEnds.refl _
  | revoke id =>
    rw [and_iff_left (refusesEnded_of_ne (by simp))]
    refine sameEnds_revokeLease.trans ⟨?_, fun h => h.1 id rfl⟩
    intro hne
    refine ⟨fun id' hop => ?_, fun id' hop => ?_, ?_⟩
    · cases hop; exact hne
    · cases hop
    · rintro token ttl (⟨t, hn⟩ | ⟨id', ttl', hop, -, -⟩)
      · cases hn
      · cases hop
  | managerRevoke id =>
    rw [refusesEnded_managerRevoke]
    refine ⟨fun h => ⟨fun id' hop => ?_, fun id' hop => ?_, ?_⟩, fun h => ?_⟩
    · cases hop
    · cases hop; exact h.2
    · rintro token ttl (⟨t, hn⟩ | ⟨id', ttl', hop, -, -⟩)
      · cases hn
      · cases hop
    · have hid := h.2.1 id rfl
      exact ⟨sameEnds_managerRevoke id hid, hid⟩
  | extend token id ttl =>
    rw [and_iff_left (refusesEnded_of_ne (by simp))]
    refine (sameEnds_extend token id ttl).trans
      ⟨fun h => ⟨fun id' hop => ?_, fun id' hop => ?_, ?_⟩,
        fun h hx => h.2.2 token _ (Or.inr ⟨id, ttl, rfl, rfl, hx⟩)⟩
    · cases hop
    · cases hop
    · rintro token' ttl' (⟨t, hn⟩ | ⟨id', ttl'', hop, rfl, hx⟩)
      · cases hn
      · cases hop
        exact h hx
  | scan =>
    exact keepsEnded_of_same (by simp) (by simp) (by simp) rfl sameEnds_getActiveLeases
  | tick elapsed =>
    exact keepsEnded_of_same (by simp) (by simp) (by simp) rfl (SameEnds.refl _)

/-- **Run lemma.** -/
theorem endStatesFinal_iff (run : List LeaseOp) :
    w.EndStatesFinal run ↔ EachStep step KeepsEnded w run := by
  have hrel : (∀ l m, l ++ m <+: run →
      SameEnds (exec step w l).store (exec step w (l ++ m)).store) ↔
      EachStep step (fun w op => SameEnds w.store (w.step op).store) w run :=
    related_iff_eachStep (R := fun w w' => SameEnds w.store w'.store)
      (fun w => SameEnds.refl w.store) (fun _ _ _ => SameEnds.trans) w run
  rw [EndStatesFinal, hrel, ← eachStep_and]
  exact eachStep_congr (fun w op => keepsEnded_iff op) w run

end LeaseWorld

/-- **End states are final** in a run on either store, from any table of leases, exactly as
long as nobody revokes an expired lease, the manager is not asked to revoke an ended one, and
no new lease takes the id of an ended one. -/
theorem end_states_final (run : List LeaseOp) :
    (∀ w : LeaseWorld ClusterState,
      w.EndStatesFinal run ↔ EachStep LeaseWorld.step LeaseWorld.KeepsEnded w run) ∧
    ∀ w : LeaseWorld ClusterStore,
      w.EndStatesFinal run ↔ EachStep LeaseWorld.step LeaseWorld.KeepsEnded w run :=
  ⟨fun _ => LeaseWorld.endStatesFinal_iff run, fun _ => LeaseWorld.endStatesFinal_iff run⟩

/-- A lease runs out, a scan marks it expired, and `DELETE /leases/{lease_id}` makes it
revoked; a lease revoked twice is reported revoked both times. -/
theorem ended_lease_revoked :
    (¬ (LeaseWorld.init ({} : ClusterState) {} 0).EndStatesFinal
      [.create "a" "t1" "n1" 60, .tick 60, .scan, .revoke "lease_a"]) ∧
    (¬ (LeaseWorld.init ({} : ClusterStore) {} 0).EndStatesFinal
      [.create "a" "t1" "n1" 60, .tick 60, .scan, .revoke "lease_a"]) ∧
    (¬ (LeaseWorld.init ({} : ClusterState) {} 0).EndStatesFinal
      [.create "a" "t1" "n1" 60, .managerRevoke "lease_a", .managerRevoke "lease_a"]) ∧
    ¬ (LeaseWorld.init ({} : ClusterStore) {} 0).EndStatesFinal
      [.create "a" "t1" "n1" 60, .managerRevoke "lease_a", .managerRevoke "lease_a"] := by
  refine ⟨?_, ?_, ?_, ?_⟩
  · intro h
    have hsame := h.1 [.create "a" "t1" "n1" 60, .tick 60, .scan] [.revoke "lease_a"] (by decide)
      "lease_a" (by decide)
    revert hsame; decide
  · intro h
    have hsame := h.1 [.create "a" "t1" "n1" 60, .tick 60, .scan] [.revoke "lease_a"] (by decide)
      "lease_a" (by decide)
    revert hsame; decide
  · intro h
    have href := h.2 [.create "a" "t1" "n1" 60, .managerRevoke "lease_a"]
      (.managerRevoke "lease_a") (by decide) "lease_a" rfl (by decide)
    revert href; decide
  · intro h
    have href := h.2 [.create "a" "t1" "n1" 60, .managerRevoke "lease_a"]
      (.managerRevoke "lease_a") (by decide) "lease_a" rfl (by decide)
    revert href; decide

end HermesCluster
