import HermesCluster.Lease.LeaseTable

/-!
# The lease index of `ClusterState`

`_task_lease_index` keeps one lease id a task: the last one created.  It loses the entry when
any lease of the task is revoked, and keeps it when its lease runs out.  So the index need not
name an active lease, nor every task with one have an entry; `get_lease_by_task` falls back on
the table.

`IndexNames` is what does hold: the lease an entry names is one of its task.  It takes that a
new lease has a new id, as `DrawsFresh` says; `secrets.token_hex` draws it.
-/

namespace HermesCluster

open Run

namespace ClusterState

variable {s s' : ClusterState} {now : Time} {t : TaskId}

/-- An entry of the index names a lease of its task. -/
def IndexNames (s : ClusterState) : Prop :=
  ∀ t e, s.taskLeaseIndex.get? t = some e → ∃ l, s.leases.get? e.leaseId = some l ∧ l.taskId = t

/-- `get_lease_by_task` finds a lease exactly when the table has an active one of the task,
and what it finds is one. -/
def FindsLease (s : ClusterState) (t : TaskId) : Prop :=
  ((∃ l, s.getLeaseByTask t = some l) ↔
    ∃ l ∈ s.leases.rows, l.taskId = t ∧ l.status = .active) ∧
  ∀ l, s.getLeaseByTask t = some l → l ∈ s.leases.rows ∧ l.taskId = t ∧ l.status = .active

/-- What the index finds is an active lease of the task. -/
theorem indexed_lease (h : s.IndexNames) {l : Lease}
    (hl : (((s.taskLeaseIndex.get? t).bind fun e =>
      if e.leaseId ≠ "" then s.leases.get? e.leaseId else none).filter (·.status = .active)) =
        some l) : l ∈ s.leases.rows ∧ l.taskId = t ∧ l.status = .active := by
  obtain ⟨hl, hactive⟩ := Option.filter_eq_some_iff.mp hl
  obtain ⟨e, he, hl⟩ := Option.bind_eq_some_iff.mp hl
  by_cases hid : e.leaseId ≠ ""
  · rw [if_pos hid] at hl
    obtain ⟨x, hx, htask⟩ := h t e he
    rw [hl] at hx
    obtain rfl := Option.some.inj hx
    exact ⟨Table.mem_of_get? hl, htask, of_decide_eq_true hactive⟩
  · rw [if_neg hid] at hl
    cases hl

/-- What the scan of the table finds is an active lease of the task. -/
theorem scanned_lease {l : Lease}
    (hl : s.leases.rows.find? (fun l => l.taskId = t ∧ l.status = .active) = some l) :
    l ∈ s.leases.rows ∧ l.taskId = t ∧ l.status = .active := by
  refine ⟨List.mem_of_find?_eq_some hl, ?_⟩
  simpa using List.find?_some hl

theorem findsLease (h : s.IndexNames) (ht : t ≠ "") : s.FindsLease t := by
  have hfound : ∀ l, s.getLeaseByTask t = some l →
      l ∈ s.leases.rows ∧ l.taskId = t ∧ l.status = .active := by
    intro l hl
    rw [getLeaseByTask, if_neg ht] at hl
    rcases Option.or_eq_some_iff.mp hl with hl | ⟨-, hl⟩
    · exact indexed_lease h hl
    · exact scanned_lease hl
  refine ⟨⟨?_, ?_⟩, hfound⟩
  · rintro ⟨l, hl⟩
    exact ⟨l, hfound l hl⟩
  · rintro ⟨l, hl, htask, hactive⟩
    rw [← Option.isSome_iff_exists, getLeaseByTask, if_neg ht, Option.isSome_or, Bool.or_eq_true]
    right
    rw [List.find?_isSome]
    exact ⟨l, hl, decide_eq_true ⟨htask, hactive⟩⟩

/-! ### One operation -/

/-- Updates of the leases that leave their tasks alone, and entries that go. -/
theorem IndexNames.of_map (h : s.IndexNames) {f : LeaseId → Lease → Lease}
    (hleases : ∀ k, s'.leases.get? k = (s.leases.get? k).map (f k))
    (hf : ∀ k l, (f k l).taskId = l.taskId)
    (hindex : ∀ t e, s'.taskLeaseIndex.get? t = some e → s.taskLeaseIndex.get? t = some e) :
    s'.IndexNames := by
  intro t e he
  obtain ⟨l, hl, htask⟩ := h t e (hindex t e he)
  exact ⟨f e.leaseId l, by rw [hleases, hl]; rfl, (hf _ l).trans htask⟩

theorem indexNames_createLease (h : s.IndexNames) {token : String} {n : NodeId} {ttl : Duration}
    {l : Lease} (hfresh : s.leases.get? (generateId "lease" token) = none)
    (hc : s.createLease now token t n ttl = .ok (l, s')) : s'.IndexNames := by
  obtain ⟨rfl, rfl⟩ := createLease_inv hc
  intro t' e he
  have hentry : (s.taskLeaseIndex.put ⟨t, generateId "lease" token⟩).get? t' =
      if t' = t then some ⟨t, generateId "lease" token⟩ else s.taskLeaseIndex.get? t' :=
    Table.get?_put _ _ _
  have he := hentry.symm.trans he
  by_cases ht : t' = t
  · rw [if_pos ht] at he
    obtain rfl := Option.some.inj he
    exact ⟨_, (Table.get?_put _ _ _).trans (if_pos rfl), ht.symm⟩
  · rw [if_neg ht] at he
    obtain ⟨x, hx, htask⟩ := h t' e he
    have hne : e.leaseId ≠ generateId "lease" token := by
      intro heq
      rw [heq, hfresh] at hx
      cases hx
    exact ⟨x, (Table.get?_put _ _ _).trans ((if_neg hne).trans hx), htask⟩

theorem indexNames_revokeLease (h : s.IndexNames) (id : LeaseId) :
    (s.revokeLease id).2.IndexNames := by
  refine h.of_map (f := fun k l => if k = id then l.revoked else l) (fun k => ?_) (fun k l => ?_)
    fun t e he => ?_
  · rw [get?_revokeLease]
    by_cases hk : k = id
    · simp only [if_pos hk]
    · simp only [if_neg hk, Option.map_id_fun', id_eq]
  · split <;> rfl
  · rw [revokeLease] at he
    cases hget : s.leases.get? id with
    | none =>
      rw [hget] at he
      exact he
    | some l =>
      rw [hget] at he
      simp only [Table.get?_erase] at he
      by_cases ht : t = l.taskId
      · rw [if_pos ht] at he
        cases he
      · rwa [if_neg ht] at he

theorem indexNames_getActiveLeases (h : s.IndexNames) (now : Time) :
    (s.getActiveLeases now).2.IndexNames :=
  h.of_map (f := fun _ => Lease.aged now)
    (fun _ => Table.get?_mapRows _ (Lease.aged now) (fun l => l.aged_id now) _)
    (fun _ l => l.aged_taskId now) fun _ _ he => he

end ClusterState

namespace LeaseWorld

variable {w : LeaseWorld ClusterState}

/-- A lease the operation creates has an id that is not in use. -/
def DrawsFresh (w : LeaseWorld ClusterState) (op : LeaseOp) : Prop :=
  ∀ token ttl, w.Creates token ttl op → w.store.leases.get? (generateId "lease" token) = none

theorem indexNames_create (h : w.store.IndexNames) {token : String} (t : TaskId) (n : NodeId)
    (ttl : Duration) (hfresh : w.store.leases.get? (generateId "lease" token) = none) :
    (w.create token t n ttl).store.IndexNames := by
  rw [create]
  cases hc : w.store.createLease w.now token t n ttl with
  | error e =>
    have hstore : LeaseStore.createLease w.store w.now token t n ttl = .error e := hc
    rw [hstore]
    exact h
  | ok r =>
    have hstore : LeaseStore.createLease w.store w.now token t n ttl = .ok r := hc
    rw [hstore]
    exact ClusterState.indexNames_createLease h hfresh hc

theorem indexNames_extend (h : w.store.IndexNames) (token : String) (id : LeaseId)
    (ttl : Option Duration) (hfresh : w.DrawsFresh (.extend token id ttl)) :
    (w.step (.extend token id ttl)).store.IndexNames := by
  simp only [step]
  by_cases hid : id = ""
  · subst hid
    rw [extend_empty]
    exact h
  by_cases hdue : NothingDue w.store w.now
  · by_cases hlive : ∃ l, LiveAt w.store w.now id l
    · obtain ⟨l, hl⟩ := hlive
      have hnew := hfresh token _ (.inr ⟨id, ttl, rfl, rfl, hid, hdue, l, hl⟩)
      cases hc : LeaseStore.createLease w.store w.now token l.taskId l.nodeId
          (w.manager.effectiveTtl ttl) with
      | error e =>
        rw [extend_raises hid hdue hl hc]
        exact h
      | ok r =>
        rw [extend_returned hid hdue hl hc]
        exact ClusterState.indexNames_revokeLease
          (ClusterState.indexNames_createLease h hnew hc) id
    · rw [extend_absent hid hdue fun l hl => hlive ⟨l, hl⟩]
      exact h
  · rw [extend_stuck hid hdue]
    exact h

/-- **Step lemma.** -/
theorem indexNames_step (h : w.store.IndexNames) (op : LeaseOp) (hfresh : w.DrawsFresh op) :
    (w.step op).store.IndexNames := by
  cases op with
  | create token t n ttl => exact indexNames_create h t n ttl (hfresh token _ (.inl ⟨t, rfl⟩))
  | post token t n ttlSeconds =>
    exact indexNames_create h t n _ (hfresh token _ (.inl ⟨t, rfl⟩))
  | managerCreate token t n ttl =>
    rw [(step_managerCreate token t n ttl).2]
    by_cases hids : t ≠ "" ∧ n ≠ ""
    · rw [if_pos hids]
      exact indexNames_create h t n _ (hfresh token _ (.inl ⟨t, if_pos hids⟩))
    · rw [if_neg hids]
      exact h
  | revoke id => exact ClusterState.indexNames_revokeLease h id
  | managerRevoke id =>
    simp only [step, LeaseManager.revoke]
    by_cases hid : id = ""
    · rw [if_pos hid]
      exact h
    · rw [if_neg hid]
      exact ClusterState.indexNames_revokeLease h id
  | extend token id ttl => exact indexNames_extend h token id ttl hfresh
  | scan => exact ClusterState.indexNames_getActiveLeases h w.now
  | tick elapsed => exact h

end LeaseWorld

/-- **The lease index agrees with the table** in every `ClusterState` a run of lease
operations reaches from the empty one, each new lease having a new id. -/
theorem index_agrees (config : LeaseConfig) (now : Time) (run : List LeaseOp)
    (hfresh : EachStep LeaseWorld.step LeaseWorld.DrawsFresh
      (LeaseWorld.init ({} : ClusterState) config now) run) :
    Always LeaseWorld.step (fun w => ∀ t, t ≠ "" → w.store.FindsLease t)
      (LeaseWorld.init ({} : ClusterState) config now) run := by
  have hinit : (LeaseWorld.init ({} : ClusterState) config now).store.IndexNames := by
    intro t e he
    cases he
  have hrun := always_of_eachStep (I := fun w : LeaseWorld ClusterState => w.store.IndexNames)
    (fun _ op h hop => LeaseWorld.indexNames_step h op hop) run _ hinit hfresh
  exact hrun.imp fun _ h _ ht => ClusterState.findsLease h ht

/-- Two leases of a task; the older one is revoked, and the younger one runs out. -/
theorem index_agrees_example :
    Always LeaseWorld.step (fun w => ∀ t, t ≠ "" → w.store.FindsLease t)
      (LeaseWorld.init ({} : ClusterState) {} 0)
      [.create "a" "t1" "n1" 60, .create "b" "t1" "n2" 90, .revoke "lease_a", .tick 90, .scan] := by
  refine index_agrees {} 0 _ ?_
  simp only [eachStep_cons, eachStep_nil, and_true]
  refine ⟨?_, ?_, ?_, ?_, ?_⟩
  · rintro token ttl (⟨t, ht⟩ | ⟨id, ttl', hop, -⟩)
    · cases ht
      decide
    · cases hop
  · rintro token ttl (⟨t, ht⟩ | ⟨id, ttl', hop, -⟩)
    · cases ht
      decide
    · cases hop
  · rintro token ttl (⟨t, ht⟩ | ⟨id, ttl', hop, -⟩)
    · cases ht
    · cases hop
  · rintro token ttl (⟨t, ht⟩ | ⟨id, ttl', hop, -⟩)
    · cases ht
    · cases hop
  · rintro token ttl (⟨t, ht⟩ | ⟨id, ttl', hop, -⟩)
    · cases ht
    · cases hop

end HermesCluster
