import HermesCluster.Lease.LeaseSpec
import HermesCluster.Routers.Spec

/-!
# The lease of a task

`get_lease_by_task` looks into the index of task ids first and then through the
table.  With an index that names leases of the right task (`IndexOk`) it finds an
active lease of the task if there is one.  `activeLease_revokeLeaseOf` draws the
consequence for the lease step of `complete` and `release`: where a task has at most
one active lease, no active lease of it is left, and the others are untouched.

`LeasesOk` collects what that needs, and is kept by the three things a handler does to
leases: nothing, the lease step, and the grant of a lease to a task without one.
-/

namespace HermesCluster.ClusterState

variable {s : ClusterState} {t t' : TaskId} {n : NodeId} {k : LeaseId} {now : Time}

/-- Lease `k` has status active; it is for task `t` on node `n`. -/
def ActiveLease (s : ClusterState) (k : LeaseId) (t : TaskId) (n : NodeId) : Prop :=
  ∃ l, s.leases.get? k = some l ∧ l.status = .active ∧ l.taskId = t ∧ l.nodeId = n

/-- An entry of `_task_lease_index` names a lease of its task. -/
def IndexOk (s : ClusterState) : Prop :=
  ∀ t e, s.taskLeaseIndex.get? t = some e → ∃ l, s.leases.get? e.leaseId = some l ∧ l.taskId = t

/-- A task has at most one active lease. -/
def SingleLease (s : ClusterState) : Prop :=
  ∀ t k k' n n', ActiveLease s k t n → ActiveLease s k' t n' → k = k'

theorem getLeaseByTask_some {l : Lease} (hidx : IndexOk s) (h : s.getLeaseByTask t = some l) :
    s.leases.get? l.id = some l ∧ l.status = .active ∧ l.taskId = t := by
  unfold getLeaseByTask at h
  split at h
  · cases h
  · rcases Option.or_eq_some_iff.mp h with hi | ⟨-, hf⟩
    · obtain ⟨hb, hact⟩ := Option.filter_eq_some_iff.mp hi
      obtain ⟨e, he, hl⟩ := Option.bind_eq_some_iff.mp hb
      split at hl
      · obtain ⟨l', hl', ht⟩ := hidx t e he
        rw [hl] at hl'
        obtain rfl := Option.some.inj hl'
        have hid : l.id = e.leaseId := Table.key_of_get? hl
        exact ⟨hid ▸ hl, by simpa using hact, ht⟩
      · cases hl
    · have hp := List.find?_some hf
      simp only [decide_eq_true_eq] at hp
      exact ⟨Table.get?_of_mem (List.mem_of_find?_eq_some hf), hp.2, hp.1⟩

theorem getLeaseByTask_none (ht : t ≠ "") (h : s.getLeaseByTask t = none) :
    ¬ ActiveLease s k t n := by
  rintro ⟨l, hl, hact, hlt, -⟩
  rw [getLeaseByTask, if_neg ht, Option.or_eq_none_iff] at h
  have := List.find?_eq_none.mp h.2 l (Table.mem_of_get? hl)
  simp [hact, hlt] at this

theorem activeLease_revokeLease {id : LeaseId} :
    ActiveLease (s.revokeLease id).2 k t n ↔ k ≠ id ∧ ActiveLease s k t n := by
  rw [ActiveLease, get?_revokeLease]
  by_cases hk : k = id
  · rw [if_pos hk]
    refine iff_of_false ?_ fun h => h.1 hk
    rintro ⟨l, hl, hact, -⟩
    obtain ⟨l', -, rfl⟩ := Option.map_eq_some_iff.mp hl
    cases hact
  · rw [if_neg hk]
    exact ⟨fun h => ⟨hk, h⟩, fun h => h.2⟩

/-- A revoked lease takes the index entry of its task with it. -/
theorem indexOk_revokeLease (hidx : IndexOk s) (id : LeaseId) :
    IndexOk (s.revokeLease id).2 := by
  have hkeep : ∀ {k : LeaseId} {l : Lease}, s.leases.get? k = some l →
      ∃ l', (s.revokeLease id).2.leases.get? k = some l' ∧ l'.taskId = l.taskId := by
    intro k l hl
    rw [get?_revokeLease, hl]
    by_cases hk : k = id
    · exact ⟨l.revoked, by rw [if_pos hk]; rfl, rfl⟩
    · exact ⟨l, by rw [if_neg hk], rfl⟩
  intro t e he
  have he' : s.taskLeaseIndex.get? t = some e := by
    unfold revokeLease at he
    cases hid : s.leases.get? id with
    | none => rw [hid] at he; exact he
    | some l =>
      rw [hid] at he
      simp only [Table.get?_erase] at he
      split at he
      · cases he
      · exact he
  obtain ⟨l, hl, ht⟩ := hidx t e he'
  obtain ⟨l', hl', ht'⟩ := hkeep hl
  exact ⟨l', hl', ht'.trans ht⟩

theorem leaseIds_revokeLease (h : s.leases.get? "" = none) (id : LeaseId) :
    (s.revokeLease id).2.leases.get? "" = none := by
  rw [get?_revokeLease, h]
  exact ite_self _

variable {r : TaskRouter}

theorem indexOk_revokeLeaseOf (hidx : IndexOk r.state) (t : TaskId) :
    IndexOk (r.revokeLeaseOf t).state := by
  rw [TaskRouter.revokeLeaseOf_state]
  split
  · exact indexOk_revokeLease hidx _
  · exact hidx

theorem leaseIds_revokeLeaseOf (h : r.state.leases.get? "" = none) (t : TaskId) :
    (r.revokeLeaseOf t).state.leases.get? "" = none := by
  rw [TaskRouter.revokeLeaseOf_state]
  split
  · exact leaseIds_revokeLease h _
  · exact h

/-- **The lease step of `complete` and `release`.** -/
theorem activeLease_revokeLeaseOf (hm : r.leaseManager.isSome) (hidx : IndexOk r.state)
    (hsingle : SingleLease r.state) (hids : r.state.leases.get? "" = none) (ht : t ≠ "") :
    ActiveLease (r.revokeLeaseOf t).state k t' n ↔ t' ≠ t ∧ ActiveLease r.state k t' n := by
  obtain ⟨m, hm⟩ := Option.isSome_iff_exists.mp hm
  have hget : m.getByTask r.state t = r.state.getLeaseByTask t := if_neg ht
  rw [TaskRouter.revokeLeaseOf_state, hm, Option.bind_some, hget]
  cases hl : r.state.getLeaseByTask t with
  | none =>
    rw [Option.filter_none]
    refine ⟨fun h => ⟨?_, h⟩, fun h => h.2⟩
    rintro rfl
    exact getLeaseByTask_none ht hl h
  | some l =>
    obtain ⟨hlk, hact, hlt⟩ := getLeaseByTask_some hidx hl
    have hid : l.id ≠ "" := fun e => by rw [e, hids] at hlk; cases hlk
    rw [Option.filter_some, if_pos (by simpa using hid)]
    simp only [activeLease_revokeLease]
    refine ⟨?_, ?_⟩
    · rintro ⟨hk, h⟩
      refine ⟨?_, h⟩
      rintro rfl
      exact hk (hsingle t' k l.id n l.nodeId h ⟨l, hlk, hact, hlt, rfl⟩)
    · rintro ⟨hne, h⟩
      refine ⟨?_, h⟩
      rintro rfl
      obtain ⟨l', hl', -, hlt', -⟩ := h
      rw [hlk] at hl'
      obtain rfl := Option.some.inj hl'
      exact hne (hlt'.symm.trans hlt)

theorem activeLease_congr {s' : ClusterState} (h : s'.leases = s.leases) :
    ActiveLease s' k t n ↔ ActiveLease s k t n := by
  rw [ActiveLease, ActiveLease, h]

/-- With a new active lease `l`, the active leases are the old ones and `l`. -/
theorem activeLease_new {s' : ClusterState} {l : Lease} (hfresh : s.leases.get? l.id = none)
    (hactive : l.status = .active)
    (hl : ∀ k, s'.leases.get? k = if k = l.id then some l else s.leases.get? k) :
    ActiveLease s' k t n ↔ (k = l.id ∧ t = l.taskId ∧ n = l.nodeId) ∨ ActiveLease s k t n := by
  rw [ActiveLease, hl]
  by_cases hk : k = l.id
  · have hold : ¬ ActiveLease s k t n := by
      rintro ⟨l', hl', -⟩
      rw [hk, hfresh] at hl'
      cases hl'
    rw [if_pos hk]
    refine ⟨?_, ?_⟩
    · rintro ⟨l', hl', -, ht, hn⟩
      obtain rfl := Option.some.inj hl'
      exact Or.inl ⟨hk, ht.symm, hn.symm⟩
    · rintro (⟨-, ht, hn⟩ | hact)
      · exact ⟨l, rfl, hactive, ht.symm, hn.symm⟩
      · exact absurd hact hold
  · rw [if_neg hk]
    refine ⟨?_, ?_⟩
    · exact fun hact => Or.inr hact
    · rintro (⟨he, -⟩ | hact)
      · exact absurd he hk
      · exact hact

/-! ### The lease table of a router -/

/-- What the lease step of a handler relies on: a manager, one active lease a task, an
index that can be trusted, and leases with ids. -/
structure LeasesOk (r : TaskRouter) : Prop where
  manager : r.leaseManager.isSome
  single : SingleLease r.state
  index : IndexOk r.state
  ids : r.state.leases.get? "" = none

namespace LeasesOk

variable {r' : TaskRouter}

/-- A step that leaves the lease table alone. -/
theorem congr (h : LeasesOk r) (hm : r'.leaseManager.isSome)
    (hl : r'.state.leases = r.state.leases)
    (hi : r'.state.taskLeaseIndex = r.state.taskLeaseIndex) : LeasesOk r' where
  manager := hm
  single t k k' n n' hk hk' :=
    h.single t k k' n n' ((activeLease_congr hl).mp hk) ((activeLease_congr hl).mp hk')
  index t e he := by
    rw [hi] at he
    rw [hl]
    exact h.index t e he
  ids := by rw [hl]; exact h.ids

theorem activeLease_revoked (h : LeasesOk r) (ht : t ≠ "")
    (hl : r'.state.leases = (r.revokeLeaseOf t).state.leases) :
    ActiveLease r'.state k t' n ↔ t' ≠ t ∧ ActiveLease r.state k t' n :=
  (activeLease_congr hl).trans (activeLease_revokeLeaseOf h.manager h.index h.single h.ids ht)

/-- A step that revokes the lease of `t`. -/
theorem revoked (h : LeasesOk r) (ht : t ≠ "") (hm : r'.leaseManager.isSome)
    (hl : r'.state.leases = (r.revokeLeaseOf t).state.leases)
    (hi : r'.state.taskLeaseIndex = (r.revokeLeaseOf t).state.taskLeaseIndex) : LeasesOk r' where
  manager := hm
  single k id id' n n' hk hk' := h.single k id id' n n'
    ((h.activeLease_revoked ht hl).mp hk).2 ((h.activeLease_revoked ht hl).mp hk').2
  index k e he := by
    rw [hi] at he
    rw [hl]
    exact indexOk_revokeLeaseOf h.index t k e he
  ids := by rw [hl]; exact leaseIds_revokeLeaseOf h.ids t

/-- A step that creates the lease `l` for a task without an active one. -/
theorem granted (h : LeasesOk r) {l : Lease} (hid : l.id ≠ "")
    (hfresh : r.state.leases.get? l.id = none) (hactive : l.status = .active)
    (hfree : ∀ k n, ¬ ActiveLease r.state k l.taskId n) (hm : r'.leaseManager.isSome)
    (hl : ∀ k, r'.state.leases.get? k = if k = l.id then some l else r.state.leases.get? k)
    (hi : ∀ k, r'.state.taskLeaseIndex.get? k =
      if k = l.taskId then some ⟨l.taskId, l.id⟩ else r.state.taskLeaseIndex.get? k) :
    LeasesOk r' := by
  have hact : ∀ {id k n}, ActiveLease r'.state id k n ↔
      (id = l.id ∧ k = l.taskId ∧ n = l.nodeId) ∨ ActiveLease r.state id k n :=
    activeLease_new hfresh hactive hl
  refine ⟨hm, fun k id id' n n' hk hk' => ?_, fun k e he => ?_, ?_⟩
  · rcases hact.mp hk with ⟨hid₁, hkt, -⟩ | hold
    · rcases hact.mp hk' with ⟨hid₂, -⟩ | hold'
      · rw [hid₁, hid₂]
      · exact absurd (hkt ▸ hold') (hfree id' n')
    · rcases hact.mp hk' with ⟨-, hkt, -⟩ | hold'
      · exact absurd (hkt ▸ hold) (hfree id n)
      · exact h.single k id id' n n' hold hold'
  · rw [hi] at he
    by_cases hk : k = l.taskId
    · rw [if_pos hk] at he
      obtain rfl := Option.some.inj he
      exact ⟨l, by rw [hl, if_pos rfl], hk.symm⟩
    · rw [if_neg hk] at he
      obtain ⟨l', hl', ht'⟩ := h.index k e he
      refine ⟨l', ?_, ht'⟩
      rw [hl, if_neg, hl']
      intro hne
      rw [hne, hfresh] at hl'
      cases hl'
  · rw [hl, if_neg hid.symm]
    exact h.ids

end LeasesOk

end HermesCluster.ClusterState
