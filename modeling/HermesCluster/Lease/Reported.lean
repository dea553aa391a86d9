import HermesCluster.Lease.LeaseTable
import HermesCluster.Lease.ScanRace

/-!
# Each expiry is reported once

`ReportWorld` is a store and what its scans have found: the active leases that had run out,
oldest first.  A lease is known by its id and by how many leases had been created under that
id; the dictionary of `ClusterState` would take an id drawn again.

* `reported_step`: the leases found are those called back for, each once; a lease that has
  been found has ended, until a new one takes its id.
* `getActiveLeases_again`: a second scan at the same time returns the same leases and changes
  nothing.
-/

namespace HermesCluster

open Run

/-- A lease a scan has found run out, with the number of leases created under its id so far. -/
structure FoundLease where
  lease : Lease
  birth : Nat
deriving DecidableEq, Repr

structure ReportWorld (σ : Type) where
  store : σ
  now : Time
  /-- The ids of the leases created, oldest first. -/
  created : List LeaseId := []
  /-- What the scans have found, oldest first. -/
  found : List FoundLease := []
deriving DecidableEq

inductive ReportOp
  | createLease (token : String) (taskId : TaskId) (nodeId : NodeId) (ttl : Duration)
  | revokeLease (leaseId : LeaseId)
  | getActiveLeases
  | tick (elapsed : Nat)
deriving DecidableEq, Repr

namespace ReportWorld

variable {σ : Type} [LeaseStore σ]

/-- The leases a scan finds run out. -/
def due (w : ReportWorld σ) : List FoundLease :=
  ((LeaseStore.leases w.store).rows.filter (·.lapsed w.now)).map
    fun l => ⟨l, w.created.count l.id⟩

def step (w : ReportWorld σ) : ReportOp → ReportWorld σ
  | .createLease token taskId nodeId ttl =>
    match LeaseStore.createLease w.store w.now token taskId nodeId ttl with
    | .ok (lease, store) => { w with store := store, created := w.created ++ [lease.id] }
    | .error _ => w
  | .revokeLease leaseId => { w with store := (LeaseStore.revokeLease w.store leaseId).2 }
  | .getActiveLeases =>
    { w with store := (LeaseStore.getActiveLeases w.store w.now).2, found := w.found ++ w.due }
  | .tick elapsed => { w with now := w.now + elapsed }

/-- What identifies a lease that has been found. -/
def name (f : FoundLease) : LeaseId × Nat := (f.lease.id, f.birth)

/-- The call made for a lease that has been found. -/
def call (f : FoundLease) : TaskId × NodeId := (f.lease.taskId, f.lease.nodeId)

/-- Since the calls were `before`, there has been one for each lease found, and no lease has
been found twice. -/
def ReportedOnce (before : List (TaskId × NodeId)) (w : ReportWorld σ) : Prop :=
  LeaseStore.leaseCallbackCalls w.store = before ++ w.found.map call ∧
    (w.found.map name).Nodup

/-- What carries `ReportedOnce` through a run: the leases found have ended, but for those
whose id a later one has. -/
structure Inv (before : List (TaskId × NodeId)) (w : ReportWorld σ) : Prop where
  reported : ReportedOnce before w
  born : ∀ f ∈ w.found, f.birth ≤ w.created.count f.lease.id
  ended : ∀ f ∈ w.found, f.birth = w.created.count f.lease.id → Ended w.store f.lease.id

variable {w : ReportWorld σ} {before : List (TaskId × NodeId)}

theorem mem_due {f : FoundLease} : f ∈ w.due ↔
    (LeaseStore.leases w.store).get? f.lease.id = some f.lease ∧ f.lease.lapsed w.now ∧
      f.birth = w.created.count f.lease.id := by
  rw [due, List.mem_map]
  refine ⟨?_, ?_⟩
  · rintro ⟨l, hl, rfl⟩
    obtain ⟨hrow, hlapsed⟩ := List.mem_filter.mp hl
    exact ⟨Table.get?_of_mem hrow, hlapsed, rfl⟩
  · rintro ⟨hget, hlapsed, hbirth⟩
    refine ⟨f.lease, List.mem_filter.mpr ⟨Table.mem_of_get? hget, hlapsed⟩, ?_⟩
    rw [← hbirth]

/-- One scan finds no lease twice. -/
theorem nodup_due : (w.due.map name).Nodup := by
  have hids : (w.due.map fun f => f.lease.id).Nodup := by
    rw [due, List.map_map]
    exact (List.filter_sublist.map Lease.id).nodup (LeaseStore.leases w.store).nodup
  refine List.Nodup.of_map Prod.fst ?_
  rw [List.map_map]
  exact hids

/-- A lease that is due has not ended. -/
theorem not_ended_of_due {f : FoundLease} (h : f ∈ w.due) : ¬ Ended w.store f.lease.id := by
  obtain ⟨hget, hlapsed, -⟩ := mem_due.mp h
  rw [ended_iff]
  rintro ⟨l, hl, hne⟩
  rw [hget] at hl
  obtain rfl := Option.some.inj hl
  exact hne (Lease.lapsed_iff.mp hlapsed).1

variable [TabledLeaseStore σ]

theorem ended_revokeLease {id k : LeaseId} (h : Ended w.store k) :
    Ended (LeaseStore.revokeLease w.store id).2 k := by
  rw [Ended, leaseStatus_revokeLease]
  by_cases hk : k = id
  · rw [if_pos hk]
    right
    rcases h with h | h
    · rw [h]; rfl
    · rw [h]; rfl
  · rw [if_neg hk]
    exact h

/-- A scan ends what it finds. -/
theorem ended_scan {f : FoundLease} (h : f ∈ w.due) :
    Ended (LeaseStore.getActiveLeases w.store w.now).2 f.lease.id := by
  obtain ⟨hget, hlapsed, -⟩ := mem_due.mp h
  left
  rw [leaseStatus, LawfulLeaseStore.get?_getActiveLeases, hget, Option.map_some, Option.map_some,
    Lease.aged_status_expired.mpr (.inr hlapsed)]

theorem inv_createLease (h : Inv before w) (token : String) (t : TaskId) (n : NodeId)
    (ttl : Duration) : Inv before (w.step (.createLease token t n ttl)) := by
  simp only [step]
  split
  · rename_i l s' hc
    obtain ⟨hl, -⟩ := LawfulLeaseStore.createLease_ok hc
    have hcount : ∀ k, (w.created ++ [l.id]).count k =
        w.created.count k + if l.id = k then 1 else 0 := by
      intro k
      rw [List.count_append, List.count_singleton]
      simp only [beq_iff_eq]
    refine ⟨⟨?_, h.reported.2⟩, fun f hf => ?_, fun f hf hbirth => ?_⟩
    · exact (TabledLeaseStore.leases_createLease hc).2.trans h.reported.1
    · have hborn := h.born f hf
      simp only [hcount]
      omega
    · have hborn := h.born f hf
      simp only [hcount] at hbirth
      -- the lease found is not the new one, which is one more under its id
      have hne : l.id ≠ f.lease.id := by
        intro e
        rw [if_pos e] at hbirth
        omega
      rw [if_neg hne, Nat.add_zero] at hbirth
      have hid : f.lease.id ≠ generateId "lease" token := by
        intro e
        exact hne (by rw [hl, e])
      rw [Ended, leaseStatus_createLease hc, if_neg hid]
      exact h.ended f hf hbirth
  · exact h

theorem inv_getActiveLeases (h : Inv before w) : Inv before (w.step .getActiveLeases) := by
  refine ⟨⟨?_, ?_⟩, fun f hf => ?_, fun f hf hbirth => ?_⟩
  · show LeaseStore.leaseCallbackCalls (LeaseStore.getActiveLeases w.store w.now).2 =
      before ++ (w.found ++ w.due).map call
    rw [ScanningLeaseStore.leaseCallbackCalls_getActiveLeases, h.reported.1, List.map_append,
      List.append_assoc, due, List.map_map]
    rfl
  · show ((w.found ++ w.due).map name).Nodup
    rw [List.map_append]
    refine List.nodup_append.mpr ⟨h.reported.2, nodup_due, ?_⟩
    intro a ha b hb hab
    obtain ⟨f, hf, rfl⟩ := List.mem_map.mp ha
    obtain ⟨g, hg, rfl⟩ := List.mem_map.mp hb
    -- found before and due now, the lease would have ended and be active
    obtain ⟨hid, hbirth⟩ := Prod.ext_iff.mp hab
    have hid : f.lease.id = g.lease.id := hid
    have hbirth : f.birth = g.birth := hbirth
    refine not_ended_of_due hg (hid ▸ h.ended f hf ?_)
    rw [hbirth, hid]
    exact (mem_due.mp hg).2.2
  · rcases List.mem_append.mp hf with hf | hf
    · exact h.born f hf
    · exact ((mem_due.mp hf).2.2).le
  · rcases List.mem_append.mp hf with hf | hf
    · have he := h.ended f hf hbirth
      have hsame : leaseStatus (LeaseStore.getActiveLeases w.store w.now).2 f.lease.id =
          leaseStatus w.store f.lease.id := sameEnds_getActiveLeases f.lease.id he
      show Ended (LeaseStore.getActiveLeases w.store w.now).2 f.lease.id
      rw [Ended, hsame]
      exact he
    · exact ended_scan hf

/-- **Step lemma.** -/
theorem reported_step (h : Inv before w) (op : ReportOp) : Inv before (w.step op) := by
  cases op with
  | createLease token t n ttl => exact inv_createLease h token t n ttl
  | revokeLease id =>
    refine ⟨⟨?_, h.reported.2⟩, h.born, fun f hf hbirth => ?_⟩
    · exact TabledLeaseStore.leases_revokeLease.2.trans h.reported.1
    · exact ended_revokeLease (h.ended f hf hbirth)
  | getActiveLeases => exact inv_getActiveLeases h
  | tick elapsed => exact ⟨h.reported, h.born, h.ended⟩

theorem reported_run (s : σ) (now : Time) (run : List ReportOp) :
    Always step (ReportedOnce (LeaseStore.leaseCallbackCalls s)) ⟨s, now, [], []⟩ run := by
  have hinit : Inv (LeaseStore.leaseCallbackCalls s) (⟨s, now, [], []⟩ : ReportWorld σ) :=
    ⟨⟨(List.append_nil _).symm, List.nodup_nil⟩, fun f hf => absurd hf List.not_mem_nil,
      fun f hf => absurd hf List.not_mem_nil⟩
  have hrun := always_of_eachStep (I := Inv (LeaseStore.leaseCallbackCalls s))
    (C := fun _ _ => True) (fun w op h _ => reported_step h op) run _ hinit (fun _ _ _ => trivial)
  exact hrun.imp fun w h => h.reported

/-! ### One scan and the next -/

/-- The leases a scan returns. -/
theorem mem_getActiveLeases (s : σ) (now : Time) (l : Lease) :
    l ∈ (LeaseStore.getActiveLeases s now).1 ↔
      l ∈ (LeaseStore.leases s).rows ∧ l.status = .active ∧ now < l.expiresAt := by
  rw [LawfulLeaseStore.getActiveLeases_fst, List.mem_filter, Lease.live_iff]

/-- After a scan no lease is due at its time. -/
theorem nothingDue_getActiveLeases (s : σ) (now : Time) :
    NothingDue (LeaseStore.getActiveLeases s now).2 now := by
  intro l hl hlapsed
  rw [TabledLeaseStore.leases_getActiveLeases, Table.rows_mapRows] at hl
  obtain ⟨x, -, rfl⟩ := List.mem_map.mp hl
  have hactive := (Lease.lapsed_iff.mp hlapsed).1
  have hlive := Lease.aged_status_active.mp hactive
  exact Lease.not_lapsed_of_live (by rwa [Lease.live_aged]) hlapsed

/-- A live lease is one the scan leaves as it is. -/
theorem filter_live_aged (now : Time) (l : List Lease) :
    (l.map (Lease.aged now)).filter (Lease.live now) = l.filter (Lease.live now) := by
  induction l with
  | nil => rfl
  | cons x l ih =>
    rw [List.map_cons]
    by_cases h : x.live now = true
    · have haged : x.aged now = x := if_neg (Lease.not_lapsed_of_live h)
      rw [haged, List.filter_cons_of_pos h, List.filter_cons_of_pos h, ih]
    · rw [List.filter_cons_of_neg (by rwa [Lease.live_aged]), List.filter_cons_of_neg h, ih]

/-- A second scan at the same time returns the same leases and changes nothing. -/
theorem getActiveLeases_again (s : σ) (now : Time) :
    LeaseStore.getActiveLeases (LeaseStore.getActiveLeases s now).2 now =
      ((LeaseStore.getActiveLeases s now).1, (LeaseStore.getActiveLeases s now).2) := by
  refine Prod.ext ?_ ?_
  · show (LeaseStore.getActiveLeases (LeaseStore.getActiveLeases s now).2 now).1 =
      (LeaseStore.getActiveLeases s now).1
    rw [LawfulLeaseStore.getActiveLeases_fst, LawfulLeaseStore.getActiveLeases_fst,
      TabledLeaseStore.leases_getActiveLeases, Table.rows_mapRows]
    exact filter_live_aged now _
  · exact TabledLeaseStore.getActiveLeases_idle (nothingDue_getActiveLeases s now)

/-- A scan returns exactly the leases that are active and have not run out, and a second one
at the same time returns them again and does nothing. -/
def ScansRight (s : σ) (now : Time) : Prop :=
  (∀ l, l ∈ (LeaseStore.getActiveLeases s now).1 ↔
    l ∈ (LeaseStore.leases s).rows ∧ l.status = .active ∧ now < l.expiresAt) ∧
  LeaseStore.getActiveLeases (LeaseStore.getActiveLeases s now).2 now =
    ((LeaseStore.getActiveLeases s now).1, (LeaseStore.getActiveLeases s now).2)

theorem scansRight (s : σ) (now : Time) : ScansRight s now :=
  ⟨mem_getActiveLeases s now, getActiveLeases_again s now⟩

end ReportWorld

/-- **Each expiry is reported exactly once**, in every run over either store from any lease
table: the callback has run once for each lease a scan has found active and run out, and for no
other; and in every state of the run a scan returns what it should.  The two transactions of
`ClusterStore` are one scan of it. -/
theorem expiries_reported_once (now : Time) (run : List ReportOp) :
    (∀ s : ClusterState,
      Always ReportWorld.step (fun w => ReportWorld.ReportedOnce s.leaseCallbackCalls w ∧
        ReportWorld.ScansRight w.store w.now) ⟨s, now, [], []⟩ run) ∧
    (∀ s : ClusterStore,
      Always ReportWorld.step (fun w => ReportWorld.ReportedOnce s.leaseCallbackCalls w ∧
        ReportWorld.ScansRight w.store w.now) ⟨s, now, [], []⟩ run) ∧
    ∀ (s : ClusterStore) (now : Time),
      (s.callBack now).markExpired ((s.lapsedLeases now).map Lease.id) =
        (s.getActiveLeases now).2 :=
  ⟨fun s => (ReportWorld.reported_run s now run).imp fun _ h => ⟨h, ReportWorld.scansRight _ _⟩,
    fun s => (ReportWorld.reported_run s now run).imp fun _ h => ⟨h, ReportWorld.scansRight _ _⟩,
    fun _ _ => ClusterStore.markExpired_callBack⟩

end HermesCluster
