import HermesCluster.Lease.LeaseTable
import HermesCluster.Lease.Locks

/-!
# The figures of `LeaseManager.stats`

A run of the manager's operations; one that never returns ends the run, and nobody reads the
figures after it.  `Balanced` is the balance of what `stats` reports: every lease created is
active, has been revoked or has expired.

* `balanced_iff_tallied`: the scan of `stats` moves the leases that are due from the active
  to the expired ones, so the balance is one of the table before it.
* `tallied_performed`: `revoke` counts its lease whatever the status, so an operation keeps
  the balance exactly when it is `CountsOnce`.
-/

namespace HermesCluster

open Run

/-- The operations of a `LeaseManager`, and the clock. -/
inductive ManagerOp
  | create (token : String) (taskId : TaskId) (nodeId : NodeId) (ttl : Option Duration)
  | revoke (leaseId : LeaseId)
  | extend (token : String) (leaseId : LeaseId) (additionalTtl : Option Duration)
  | listActive
  /-- A pass of the scanner thread. -/
  | scanOnce
  | stats
  | tick (elapsed : Nat)
deriving DecidableEq, Repr

/-- `lease.status == active` -/
def Lease.isActive (l : Lease) : Bool := l.status = .active

namespace LeaseWorld

variable {σ : Type} [LeaseStore σ]

/-- An operation; `none` if it never returns. -/
def performed (w : LeaseWorld σ) : ManagerOp → Option (LeaseWorld σ)
  | .create token taskId nodeId ttl => some (w.step (.managerCreate token taskId nodeId ttl))
  | .revoke leaseId => some (w.step (.managerRevoke leaseId))
  | .extend token leaseId additionalTtl =>
    (w.manager.extend w.store w.now token leaseId additionalTtl).map
      fun r => { w with store := r.2 }
  | .listActive => some (w.step .scan)
  | .scanOnce => some (w.step .scan)
  | .stats => some (w.step .scan)
  | .tick elapsed => some (w.step (.tick elapsed))

/-- The step of a run: nothing follows an operation that never returns. -/
def managed (o : Option (LeaseWorld σ)) (op : ManagerOp) : Option (LeaseWorld σ) :=
  o.bind fun w => w.performed op

/-- What `stats` reports; it scans first. -/
def stats (w : LeaseWorld σ) : LeaseStats where
  activeCount := (LeaseStore.getActiveLeases w.store w.now).1.length
  totalCreated := w.manager.totalCreated
  totalRevoked := w.manager.totalRevoked
  totalExpired :=
    (LeaseStore.leaseCallbackCalls (LeaseStore.getActiveLeases w.store w.now).2).length

/-- What `stats` would report balances. -/
def Balanced (w : LeaseWorld σ) : Prop :=
  w.stats.totalCreated = w.stats.activeCount + w.stats.totalRevoked + w.stats.totalExpired

/-- The balance before the scan of `stats`. -/
def Tallied (w : LeaseWorld σ) : Prop :=
  w.manager.totalCreated = (LeaseStore.leases w.store).count Lease.isActive +
    w.manager.totalRevoked + (LeaseStore.leaseCallbackCalls w.store).length

/-- A new lease does not overwrite an active one. -/
def OverwritesNone [LawfulLeaseStore σ] (w : LeaseWorld σ) (token : String) (ttl : Duration) :
    Prop :=
  (addTtl w.now ttl).isOk → LawfulLeaseStore.accepts w.store (generateId "lease" token) →
    leaseStatus w.store (generateId "lease" token) ≠ some .active

/-- An operation counts a lease once: no ended lease is revoked, and no new lease takes the
id of an active one. -/
def CountsOnce [LawfulLeaseStore σ] (w : LeaseWorld σ) : ManagerOp → Prop
  | .create token taskId nodeId ttl =>
    taskId ≠ "" ∧ nodeId ≠ "" → w.OverwritesNone token (w.manager.effectiveTtl ttl)
  | .revoke leaseId => leaseId = "" ∨ ¬ Ended w.store leaseId
  | .extend token leaseId additionalTtl =>
    leaseId ≠ "" → NothingDue w.store w.now → (∃ l, LiveAt w.store w.now leaseId l) →
      w.OverwritesNone token (w.manager.effectiveTtl additionalTtl)
  | _ => True

/-! ### One operation -/

/-- An active lease is live or due. -/
theorem countP_active (now : Time) (l : List Lease) :
    l.countP Lease.isActive = l.countP (Lease.live now) + l.countP (Lease.lapsed now) := by
  induction l with
  | nil => rfl
  | cons x l ih =>
    have hone : (if x.isActive = true then 1 else 0) =
        (if x.live now = true then 1 else 0) + if x.lapsed now = true then 1 else 0 := by
      simp only [Lease.isActive, Lease.live_iff, Lease.lapsed_iff, decide_eq_true_eq]
      by_cases hs : x.status = .active
      · rcases lt_or_ge now x.expiresAt with hlt | hle
        · simp [hs, hlt, not_le.mpr hlt]
        · simp [hs, hle, not_lt.mpr hle]
      · simp [hs]
    rw [List.countP_cons, List.countP_cons, List.countP_cons, ih, hone]
    omega

theorem tally_active (s : σ) (id : LeaseId) :
    Table.tally Lease.isActive ((LeaseStore.leases s).get? id) =
      if leaseStatus s id = some .active then 1 else 0 := by
  rw [leaseStatus]
  cases (LeaseStore.leases s).get? id with
  | none => rfl
  | some l =>
    rw [Option.map_some, Table.tally]
    simp only [Option.any_some, Lease.isActive, decide_eq_true_eq, Option.some.injEq]

variable [TabledLeaseStore σ] {w : LeaseWorld σ}

theorem balanced_iff_tallied : w.Balanced ↔ w.Tallied := by
  have hactive := countP_active w.now (LeaseStore.leases w.store).rows
  have hcalls := length_calls_getActiveLeases w.store w.now
  have hlist : (LeaseStore.getActiveLeases w.store w.now).1.length =
      (LeaseStore.leases w.store).rows.countP (Lease.live w.now) := by
    rw [LawfulLeaseStore.getActiveLeases_fst, ← List.countP_eq_length_filter]
  simp only [Balanced, Tallied, stats, Table.count] at hcalls ⊢
  omega

/-- A scan keeps the balance. -/
theorem tallied_scan (h : w.Tallied) : (w.step .scan).Tallied := by
  have hafter : (LeaseStore.leases (w.step .scan).store).count Lease.isActive =
      (LeaseStore.leases w.store).rows.countP (Lease.live w.now) := by
    rw [Table.count]
    simp only [step]
    rw [TabledLeaseStore.leases_getActiveLeases, Table.rows_mapRows, List.countP_map]
    refine List.countP_congr fun l _ => ?_
    rw [Function.comp_apply, Lease.isActive, decide_eq_true_eq, Lease.aged_status_active]
  have hactive := countP_active w.now (LeaseStore.leases w.store).rows
  have hcalls := length_calls_getActiveLeases w.store w.now
  simp only [Tallied, Table.count] at h hafter hcalls ⊢
  simp only [step] at hafter ⊢
  omega

/-- The active leases after a new one has been made. -/
theorem count_createLease {s s' : σ} {now : Time} {token : String} {t : TaskId} {n : NodeId}
    {ttl : Duration} {l : Lease}
    (h : LeaseStore.createLease s now token t n ttl = .ok (l, s')) :
    (LeaseStore.leases s').count Lease.isActive +
        (if leaseStatus s (generateId "lease" token) = some .active then 1 else 0) =
      (LeaseStore.leases s).count Lease.isActive + 1 := by
  obtain ⟨hl, -⟩ := LawfulLeaseStore.createLease_ok h
  have hcount := Table.count_put Lease.isActive (LeaseStore.leases s) l
  have hid : Keyed.key l = generateId "lease" token := by rw [hl]; rfl
  rw [hid, tally_active, Table.tally_pos (by rw [hl]; rfl)] at hcount
  rw [(TabledLeaseStore.leases_createLease h).1]
  exact hcount

/-- The active leases after a revocation. -/
theorem count_revokeLease (s : σ) (id : LeaseId) :
    (LeaseStore.leases (LeaseStore.revokeLease s id).2).count Lease.isActive +
        (if leaseStatus s id = some .active then 1 else 0) =
      (LeaseStore.leases s).count Lease.isActive := by
  have hcount := Table.count_modify Lease.isActive (LeaseStore.leases s) id Lease.revoked
    Lease.key_revoked
  have hnone : Table.tally Lease.isActive
      (((LeaseStore.leases s).get? id).map Lease.revoked) = 0 := by
    cases (LeaseStore.leases s).get? id with
    | none => rfl
    | some l => exact Table.tally_neg (by simp [Lease.isActive, Lease.revoked])
  rw [tally_active, hnone, Nat.add_zero] at hcount
  rw [TabledLeaseStore.leases_revokeLease.1]
  exact hcount

theorem tallied_create (h : w.Tallied) (token : String) (t : TaskId) (n : NodeId)
    (ttl : Option Duration) :
    (w.step (.managerCreate token t n ttl)).Tallied ↔ w.CountsOnce (.create token t n ttl) := by
  by_cases hids : t ≠ "" ∧ n ≠ ""
  · have hw : w.step (.managerCreate token t n ttl) = { w with
        manager := (w.manager.create w.store w.now token t n ttl).2.1
        store := (w.manager.create w.store w.now token t n ttl).2.2 } := rfl
    rw [hw, CountsOnce, imp_iff_right hids]
    cases hc : LeaseStore.createLease w.store w.now token t n (w.manager.effectiveTtl ttl) with
    | error e =>
      have hcreate : w.manager.create w.store w.now token t n ttl =
          (.error e, w.manager, w.store) := by
        simp only [LeaseManager.create, if_neg hids.1, if_neg hids.2, hc]
      rw [hcreate]
      exact iff_of_true h fun hok hacc => absurd hacc (refused_of_error hc hok)
    | ok r =>
      obtain ⟨l, s'⟩ := r
      have hcreate : w.manager.create w.store w.now token t n ttl =
          (.ok l, { w.manager with totalCreated := w.manager.totalCreated + 1 }, s') := by
        simp only [LeaseManager.create, if_neg hids.1, if_neg hids.2, hc]
      have hcount := count_createLease hc
      have hok := accepted_of_ok hc
      rw [hcreate, OverwritesNone, imp_iff_right hok.1, imp_iff_right hok.2]
      simp only [Tallied, (TabledLeaseStore.leases_createLease hc).2] at h ⊢
      by_cases hactive : leaseStatus w.store (generateId "lease" token) = some .active
      · rw [if_pos hactive] at hcount
        exact iff_of_false (by omega) fun hne => hne hactive
      · rw [if_neg hactive] at hcount
        exact iff_of_true (by omega) hactive
  · have hw : w.step (.managerCreate token t n ttl) = w := by
      simp only [step, LeaseManager.create]
      by_cases ht : t = ""
      · rw [if_pos ht]
      · rw [if_neg ht, if_pos (not_not.mp fun hn => hids ⟨ht, hn⟩)]
    rw [hw]
    exact iff_of_true h fun hboth => absurd hboth hids

omit [TabledLeaseStore σ] in
/-- A lease that has not ended is active or not there. -/
theorem not_ended_iff {s : σ} {id : LeaseId} :
    ¬ Ended s id ↔ leaseStatus s id = none ∨ leaseStatus s id = some .active := by
  rw [Ended]
  cases leaseStatus s id with
  | none => simp
  | some status => cases status <;> simp

theorem tallied_revoke (h : w.Tallied) (id : LeaseId) :
    (w.step (.managerRevoke id)).Tallied ↔ w.CountsOnce (.revoke id) := by
  rw [CountsOnce]
  by_cases hid : id = ""
  · have hw : w.step (.managerRevoke id) = w := by
      simp only [step, LeaseManager.revoke, if_pos hid]
    rw [hw]
    exact iff_of_true h (.inl hid)
  · have hw : w.step (.managerRevoke id) = { w with
        manager := if (LeaseStore.revokeLease w.store id).1 then
            { w.manager with totalRevoked := w.manager.totalRevoked + 1 } else w.manager
        store := (LeaseStore.revokeLease w.store id).2 } := by
      simp only [step, LeaseManager.revoke, if_neg hid]
    have hcount := count_revokeLease w.store id
    rw [hw, or_iff_right hid, not_ended_iff, ScanningLeaseStore.revokeLease_fst]
    simp only [Tallied, TabledLeaseStore.leases_revokeLease.2] at h ⊢
    cases hget : (LeaseStore.leases w.store).get? id with
    | none =>
      have hnone : leaseStatus w.store id = none := by rw [leaseStatus, hget]; rfl
      rw [hnone, if_neg (by simp)] at hcount
      simp only [Option.isSome_none, Bool.false_eq_true, if_false]
      exact iff_of_true (by omega) (.inl hnone)
    | some l =>
      have hne : leaseStatus w.store id ≠ none := by rw [leaseStatus, hget]; simp
      simp only [Option.isSome_some, if_true]
      rw [or_iff_right hne]
      by_cases hactive : leaseStatus w.store id = some .active
      · rw [if_pos hactive] at hcount
        exact iff_of_true (by omega) hactive
      · rw [if_neg hactive] at hcount
        exact iff_of_false (by omega) hactive

/-- `extend` counts neither the lease it makes nor the one it revokes. -/
theorem tallied_extend (h : w.Tallied) (token : String) (id : LeaseId) (ttl : Option Duration) :
    (∀ w', w.performed (.extend token id ttl) = some w' → w'.Tallied) ↔
      w.CountsOnce (.extend token id ttl) := by
  have hperf : ∀ {r}, w.manager.extend w.store w.now token id ttl = r →
      w.performed (.extend token id ttl) = r.map fun r => { w with store := r.2 } := by
    rintro r rfl
    rfl
  have hsame : ∀ w', some ({ w with store := w.store } : LeaseWorld σ) = some w' → w'.Tallied := by
    rintro w' hw'
    rw [← Option.some.inj hw']
    exact h
  rw [CountsOnce]
  by_cases hid : id = ""
  · subst hid
    rw [hperf (extend_empty ttl)]
    exact iff_of_true hsame fun hne => absurd rfl hne
  rw [imp_iff_right hid]
  by_cases hdue : NothingDue w.store w.now
  · rw [imp_iff_right hdue]
    by_cases hlive : ∃ l, LiveAt w.store w.now id l
    · rw [imp_iff_right hlive]
      obtain ⟨l, hl⟩ := hlive
      cases hc : LeaseStore.createLease w.store w.now token l.taskId l.nodeId
          (w.manager.effectiveTtl ttl) with
      | error e =>
        rw [hperf (extend_raises hid hdue hl hc)]
        exact iff_of_true hsame fun hok hacc => absurd hacc (refused_of_error hc hok)
      | ok r =>
        obtain ⟨l', s'⟩ := r
        have hok := accepted_of_ok hc
        have hcount := count_createLease hc
        have hrevoke := count_revokeLease s' id
        -- the old lease is active up to its revocation, overwritten or not
        have hactive : leaseStatus s' id = some .active := by
          rw [leaseStatus_createLease hc]
          split
          · rfl
          · rw [leaseStatus, hl.1, Option.map_some, (Lease.live_iff.mp hl.2).1]
        rw [if_pos hactive] at hrevoke
        rw [hperf (extend_returned hid hdue hl hc), OverwritesNone, imp_iff_right hok.1,
          imp_iff_right hok.2]
        simp only [Option.map_some, Option.some.injEq, forall_eq', Tallied,
          TabledLeaseStore.leases_revokeLease.2, (TabledLeaseStore.leases_createLease hc).2] at h ⊢
        by_cases hover : leaseStatus w.store (generateId "lease" token) = some .active
        · rw [if_pos hover] at hcount
          exact iff_of_false (by omega) fun hne => hne hover
        · rw [if_neg hover] at hcount
          exact iff_of_true (by omega) hover
    · rw [hperf (extend_absent hid hdue (fun l hl => hlive ⟨l, hl⟩) ttl)]
      exact iff_of_true hsame fun hl => absurd hl hlive
  · rw [hperf (extend_stuck hid hdue ttl)]
    refine iff_of_true (fun w' hw' => ?_) fun hnone => absurd hnone hdue
    cases hw'

/-- **Step lemma.** -/
theorem tallied_performed (h : w.Tallied) (op : ManagerOp) :
    (∀ w', w.performed op = some w' → w'.Tallied) ↔ w.CountsOnce op := by
  have hone : ∀ {w'}, w.performed op = some w' →
      ((∀ x, w.performed op = some x → x.Tallied) ↔ w'.Tallied) := by
    intro w' hw'
    rw [hw']
    simp only [Option.some.injEq, forall_eq']
  cases op with
  | create token t n ttl => exact (hone rfl).trans (tallied_create h token t n ttl)
  | revoke id => exact (hone rfl).trans (tallied_revoke h id)
  | extend token id ttl => exact tallied_extend h token id ttl
  | listActive => exact (hone rfl).trans (iff_of_true (tallied_scan h) trivial)
  | scanOnce => exact (hone rfl).trans (iff_of_true (tallied_scan h) trivial)
  | stats => exact (hone rfl).trans (iff_of_true (tallied_scan h) trivial)
  | tick elapsed => exact (hone rfl).trans (iff_of_true h trivial)

/-! ### Runs -/

/-- From a balanced world, the figures balance all along a run exactly when each operation of
it counts once. -/
theorem balanced_run (h : w.Tallied) (run : List ManagerOp) :
    Always managed (fun o : Option (LeaseWorld σ) => ∀ w', o = some w' → w'.Balanced) (some w)
        run ↔
      EachStep managed (fun o op => ∀ w', o = some w' → w'.CountsOnce op) (some w) run := by
  have htally : ∀ o : Option (LeaseWorld σ), (∀ w', o = some w' → w'.Balanced) ↔
      ∀ w', o = some w' → w'.Tallied := fun o =>
    forall₂_congr fun w' _ => balanced_iff_tallied
  refine always_iff_eachStep (I := fun o => ∀ w', o = some w' → w'.Tallied)
    (A := fun _ _ => True) (fun o ho => (htally o).mpr ho) (fun o op ho _ => ?_)
    (fun o op _ _ hp => (htally _).mp hp) run (some w) (fun w' hw' => ?_) (fun _ _ _ => trivial)
  · rw [htally]
    cases o with
    | none =>
      refine iff_of_true (fun w' hw' => ?_) fun w' hw' => ?_
      · cases hw'
      · cases hw'
    | some w =>
      simp only [Option.some.injEq, forall_eq']
      exact tallied_performed (ho w rfl) op
  · rw [← Option.some.inj hw']
    exact h

omit [TabledLeaseStore σ] in
theorem tallied_init {s : σ} (config : LeaseConfig) (now : Time)
    (hleases : LeaseStore.leases s = Table.empty) (hcalls : LeaseStore.leaseCallbackCalls s = []) :
    (LeaseWorld.init s config now).Tallied := by
  simp only [Tallied, LeaseWorld.init, hleases, hcalls]
  rfl

end LeaseWorld

/-- **Lease accounting.**  From an empty store, in a run of `LeaseManager` operations over
either store, what `stats` reports balances in every state exactly when the manager revokes no
ended lease and no new lease takes the id of an active one. -/
theorem accounting_balances_iff (config : LeaseConfig) (now : Time) (run : List ManagerOp) :
    (Always LeaseWorld.managed (fun o => ∀ w, o = some w → w.Balanced)
        (some (LeaseWorld.init ({} : ClusterState) config now)) run ↔
      EachStep LeaseWorld.managed (fun o op => ∀ w, o = some w → w.CountsOnce op)
        (some (LeaseWorld.init ({} : ClusterState) config now)) run) ∧
    (Always LeaseWorld.managed (fun o => ∀ w, o = some w → w.Balanced)
        (some (LeaseWorld.init ({} : ClusterStore) config now)) run ↔
      EachStep LeaseWorld.managed (fun o op => ∀ w, o = some w → w.CountsOnce op)
        (some (LeaseWorld.init ({} : ClusterStore) config now)) run) :=
  ⟨LeaseWorld.balanced_run (LeaseWorld.tallied_init config now rfl rfl) run,
    LeaseWorld.balanced_run (LeaseWorld.tallied_init config now rfl rfl) run⟩

/-- A lease revoked twice is counted twice. -/
theorem revoked_twice_unbalanced :
    ¬ Always LeaseWorld.managed (fun o => ∀ w, o = some w → w.Balanced)
      (some (LeaseWorld.init ({} : ClusterState) {} 0))
      [.create "a" "t1" "n1" (some 60), .revoke "lease_a", .revoke "lease_a"] := by
  intro h
  have hend := h _ (List.prefix_refl _) _ rfl
  revert hend
  simp only [LeaseWorld.balanced_iff_tallied]
  simp only [LeaseWorld.Tallied]
  decide

end HermesCluster
