import HermesCluster.Lease.Final

/-!
# Scans and revocations of `ClusterStore`, interleaved

`get_active_leases` of `ClusterStore` is two transactions.  The first reads the active
leases, and the callbacks for those that have run out are made after it; the second marks
these leases expired, whatever has become of them.  `ScanWorld` is the store with the scans
that are between the two, and `ScanStep` one transaction of any party: a scan reads, a scan
marks, somebody revokes a lease.  `mark_read` says that the two steps of a scan nobody
interrupts are `ClusterStore.getActiveLeases`.

`ClusterState` does all of it under one lock.  Here two scans may read the same lease before
either marks it, and a lease revoked after a scan has read it is marked expired.
`scans_safe` says that there is no other way: a lease is called back for at most once, and a
revoked lease never becomes expired, exactly in the runs whose every step is `Safe`.
-/

namespace HermesCluster

open Run

namespace ClusterStore

/-- The active leases that have run out. -/
def lapsedLeases (s : ClusterStore) (now : Time) : List Lease :=
  s.leases.rows.filter (·.lapsed now)

/-- The first half of `get_active_leases`: one callback for each lease that has run out. -/
def callBack (s : ClusterStore) (now : Time) : ClusterStore :=
  { s with leaseCallbackCalls := s.leaseCallbackCalls ++
      (s.lapsedLeases now).map (fun l => (l.taskId, l.nodeId)) }

/-- `UPDATE leases SET status = 'expired' WHERE id IN (...)`. -/
def markedExpired (expiredIds : List LeaseId) (l : Lease) : Lease :=
  if l.id ∈ expiredIds then { l with status := .expired } else l

theorem key_markedExpired (expiredIds : List LeaseId) (l : Lease) :
    Keyed.key (markedExpired expiredIds l) = Keyed.key l := by
  unfold markedExpired; split <;> rfl

/-- The second half of `get_active_leases`. -/
def markExpired (s : ClusterStore) (expiredIds : List LeaseId) : ClusterStore :=
  { s with leases := s.leases.mapRows (markedExpired expiredIds) (key_markedExpired expiredIds) }

variable {s : ClusterStore} {now : Time}

theorem lapsedLeases_nodup : ((s.lapsedLeases now).map Lease.id).Nodup :=
  (List.filter_sublist.map Lease.id).nodup s.leases.nodup

theorem mem_lapsedLeases {l : Lease} : l ∈ s.lapsedLeases now ↔ l ∈ s.leases.rows ∧ l.lapsed now :=
  List.mem_filter

/-- A scan that nobody interrupts is `get_active_leases`. -/
theorem markExpired_callBack :
    (s.callBack now).markExpired ((s.lapsedLeases now).map Lease.id) =
      (s.getActiveLeases now).2 := by
  have hrows : ∀ l ∈ s.leases.rows,
      markedExpired ((s.lapsedLeases now).map Lease.id) l = l.aged now := by
    intro l hl
    have hmem : l.id ∈ (s.lapsedLeases now).map Lease.id ↔ l.lapsed now := by
      refine ⟨?_, fun h => List.mem_map.mpr ⟨l, mem_lapsedLeases.mpr ⟨hl, h⟩, rfl⟩⟩
      intro h
      obtain ⟨l', hl', hid⟩ := List.mem_map.mp h
      obtain ⟨hrow, hlapsed⟩ := mem_lapsedLeases.mp hl'
      have heq := Table.get?_of_mem hrow
      rw [key_lease, hid, ← key_lease, Table.get?_of_mem hl] at heq
      exact Option.some.inj heq ▸ hlapsed
    rw [markedExpired, Lease.aged]
    by_cases h : l.lapsed now
    · rw [if_pos (hmem.mpr h), if_pos h]
    · rw [if_neg fun hm => h (hmem.mp hm), if_neg h]
  have htable : s.leases.mapRows (markedExpired ((s.lapsedLeases now).map Lease.id))
      (key_markedExpired _) = s.leases.mapRows (Lease.aged now) (fun l => l.aged_id now) :=
    Table.ext (List.map_congr_left hrows)
  rw [markExpired, getActiveLeases]
  exact congrArg (fun t => { s.callBack now with leases := t }) htable

theorem leaseStatus_markExpired {expiredIds : List LeaseId} {id : LeaseId} :
    leaseStatus (s.markExpired expiredIds) id =
      if id ∈ expiredIds then (leaseStatus s id).map (fun _ => .expired)
      else leaseStatus s id := by
  have hget : (s.markExpired expiredIds).leases.get? id =
      (s.leases.get? id).map (markedExpired expiredIds) :=
    Table.get?_mapRows _ _ (key_markedExpired expiredIds) _
  have hafter : leaseStatus (s.markExpired expiredIds) id =
      ((s.markExpired expiredIds).leases.get? id).map Lease.status := rfl
  have hbefore : leaseStatus s id = (s.leases.get? id).map Lease.status := rfl
  rw [hafter, hget, hbefore]
  cases h : s.leases.get? id with
  | none => split <;> rfl
  | some l =>
    have hid : l.id = id := Table.key_of_get? h
    rw [Option.map_some, Option.map_some, Option.map_some, markedExpired, hid]
    split <;> rfl

end ClusterStore

/-- A call of `get_active_leases` between its two transactions. -/
structure Scan where
  scanner : Nat
  expiredIds : List LeaseId
deriving DecidableEq, Repr

instance : Keyed Scan Nat := ⟨Scan.scanner⟩

@[simp] theorem key_scan (scan : Scan) : Keyed.key scan = scan.scanner := rfl

/-- The store, the scans in flight, and the leases called back for, oldest first. -/
structure ScanWorld where
  store : ClusterStore
  inFlight : Table Scan := Table.empty
  calledBack : List LeaseId := []
deriving DecidableEq

inductive ScanStep
  /-- The first transaction of a scan and its callbacks. -/
  | read (scanner : Nat) (now : Time)
  /-- The second transaction of a scan. -/
  | mark (scanner : Nat)
  /-- `revoke_lease` -/
  | revoke (leaseId : LeaseId)
deriving DecidableEq, Repr

namespace ScanWorld

/-- `if expired_ids`: a scan that finds nothing is over. -/
def launch (inFlight : Table Scan) (scanner : Nat) (expiredIds : List LeaseId) : Table Scan :=
  if expiredIds = [] then inFlight else inFlight.put ⟨scanner, expiredIds⟩

theorem get?_launch (inFlight : Table Scan) (scanner : Nat) (expiredIds : List LeaseId) (k : Nat) :
    (launch inFlight scanner expiredIds).get? k =
      if k = scanner ∧ expiredIds ≠ [] then some ⟨scanner, expiredIds⟩ else inFlight.get? k := by
  by_cases hnil : expiredIds = []
  · rw [launch, if_pos hnil, if_neg fun h => h.2 hnil]
  · rw [launch, if_neg hnil, Table.get?_put, key_scan]
    by_cases hk : k = scanner
    · rw [if_pos hk, if_pos ⟨hk, hnil⟩]
    · rw [if_neg hk, if_neg fun h => hk h.1]

/-- A scanner has one scan in flight at a time. -/
def read (w : ScanWorld) (scanner : Nat) (now : Time) : ScanWorld :=
  if w.inFlight.get? scanner = none then
    let expiredIds := (w.store.lapsedLeases now).map Lease.id
    { store := w.store.callBack now
      inFlight := launch w.inFlight scanner expiredIds
      calledBack := w.calledBack ++ expiredIds }
  else w

def mark (w : ScanWorld) (scanner : Nat) : ScanWorld :=
  match w.inFlight.get? scanner with
  | none => w
  | some scan =>
    { w with store := w.store.markExpired scan.expiredIds, inFlight := w.inFlight.erase scanner }

def step (w : ScanWorld) : ScanStep → ScanWorld
  | .read scanner now => w.read scanner now
  | .mark scanner => w.mark scanner
  | .revoke leaseId => { w with store := (w.store.revokeLease leaseId).2 }

/-- No scan is in flight and nothing was called back for. -/
def init (store : ClusterStore) : ScanWorld := { store := store }

/-- A scan in flight is about to mark the lease. -/
def Pending (w : ScanWorld) (id : LeaseId) : Prop :=
  ∃ scanner scan, w.inFlight.get? scanner = some scan ∧ id ∈ scan.expiredIds

/-- The expiry callback ran at most once for each lease. -/
def CallsOnce (w : ScanWorld) : Prop := w.calledBack.Nodup

/-- A revoked lease never becomes expired in the run. -/
def RevokedStays (w : ScanWorld) (run : List ScanStep) : Prop :=
  ∀ l m, l ++ m <+: run → ∀ id, leaseStatus (exec step w l).store id = some .revoked →
    leaseStatus (exec step w (l ++ m)).store id ≠ some .expired

/-- A scan reads no lease that another has called back for and not marked yet. -/
def ReadsFresh (w : ScanWorld) : ScanStep → Prop
  | .read scanner now => w.inFlight.get? scanner = none →
      ∀ l ∈ w.store.lapsedLeases now, ¬ w.Pending l.id
  | _ => True

/-- A scan marks no lease that was revoked since it read it. -/
def MarksUnrevoked (w : ScanWorld) : ScanStep → Prop
  | .mark scanner => ∀ scan, w.inFlight.get? scanner = some scan →
      ∀ id ∈ scan.expiredIds, leaseStatus w.store id ≠ some .revoked
  | _ => True

def Safe (w : ScanWorld) (step : ScanStep) : Prop := w.ReadsFresh step ∧ w.MarksUnrevoked step

/-! ### One transaction -/

variable {w : ScanWorld} {id : LeaseId}

theorem pending_read {scanner : Nat} {now : Time} (hfree : w.inFlight.get? scanner = none) :
    (w.read scanner now).Pending id ↔
      w.Pending id ∨ id ∈ (w.store.lapsedLeases now).map Lease.id := by
  simp only [read, if_pos hfree, Pending, get?_launch]
  refine ⟨?_, ?_⟩
  · rintro ⟨k, scan, hk, hid⟩
    split at hk
    · cases hk
      exact Or.inr hid
    · exact Or.inl ⟨k, scan, hk, hid⟩
  · rintro (⟨k, scan, hk, hid⟩ | hid)
    · have hne : k ≠ scanner := by
        intro e
        rw [e, hfree] at hk
        cases hk
      exact ⟨k, scan, by rw [if_neg fun h => hne h.1, hk], hid⟩
    · exact ⟨scanner, _, if_pos ⟨rfl, List.ne_nil_of_mem hid⟩, hid⟩

theorem mark_of_inFlight {scanner : Nat} {scan : Scan} (h : w.inFlight.get? scanner = some scan) :
    w.mark scanner = { w with store := w.store.markExpired scan.expiredIds
                              inFlight := w.inFlight.erase scanner } := by
  rw [mark, h]

/-- The two steps of a scan that nobody interrupts are `get_active_leases`. -/
theorem mark_read {scanner : Nat} {now : Time} (hfree : w.inFlight.get? scanner = none) :
    ((w.read scanner now).mark scanner).store = (w.store.getActiveLeases now).2 := by
  rw [← ClusterStore.markExpired_callBack]
  by_cases hnil : (w.store.lapsedLeases now).map Lease.id = []
  · have hsame : ∀ l ∈ (w.store.callBack now).leases.rows, ClusterStore.markedExpired [] l = l :=
      fun l _ => if_neg List.not_mem_nil
    have htable : (w.store.callBack now).leases.mapRows (ClusterStore.markedExpired [])
        (ClusterStore.key_markedExpired []) = (w.store.callBack now).leases :=
      Table.ext ((List.map_congr_left hsame).trans (List.map_id _))
    have hnone : (w.read scanner now).inFlight.get? scanner = none := by
      rw [read, if_pos hfree]
      show (launch _ _ _).get? scanner = none
      rw [get?_launch, if_neg fun h => h.2 hnil, hfree]
    rw [mark, hnone, hnil, ClusterStore.markExpired, htable, read, if_pos hfree]
  · have hsome : (w.read scanner now).inFlight.get? scanner =
        some ⟨scanner, (w.store.lapsedLeases now).map Lease.id⟩ := by
      rw [read, if_pos hfree]
      show (launch _ _ _).get? scanner = _
      rw [get?_launch, if_pos ⟨rfl, hnil⟩]
    rw [mark_of_inFlight hsome, read, if_pos hfree]

/-- What is about to be marked has been called back for; what has been called back for and
is not about to be marked is not active any more. -/
def Coherent (w : ScanWorld) : Prop :=
  (∀ id, w.Pending id → id ∈ w.calledBack) ∧
  ∀ id ∈ w.calledBack, w.Pending id ∨ leaseStatus w.store id ≠ some .active

theorem coherent_init (store : ClusterStore) : (init store).Coherent := by
  refine ⟨?_, ?_⟩
  · rintro id ⟨scanner, scan, h, -⟩
    cases h
  · intro id h
    cases h

theorem coherent_read (h : w.Coherent) (scanner : Nat) (now : Time) :
    (w.read scanner now).Coherent := by
  by_cases hfree : w.inFlight.get? scanner = none
  · have hcalled : (w.read scanner now).calledBack =
        w.calledBack ++ (w.store.lapsedLeases now).map Lease.id := by
      rw [read, if_pos hfree]
    have hstatus : ∀ id, leaseStatus (w.read scanner now).store id = leaseStatus w.store id := by
      intro id
      rw [read, if_pos hfree]
      rfl
    refine ⟨fun id hp => ?_, fun id hid => ?_⟩
    · rw [hcalled, List.mem_append]
      rcases (pending_read hfree).mp hp with hp | hid
      · exact Or.inl (h.1 id hp)
      · exact Or.inr hid
    · rw [hcalled, List.mem_append] at hid
      rw [pending_read hfree, hstatus]
      rcases hid with hid | hid
      · rcases h.2 id hid with hp | he
        · exact Or.inl (Or.inl hp)
        · exact Or.inr he
      · exact Or.inl (Or.inr hid)
  · rw [read, if_neg hfree]
    exact h

theorem pending_mark {scanner : Nat} {scan : Scan} (h : w.inFlight.get? scanner = some scan)
    (hp : w.Pending id) : (w.mark scanner).Pending id ∨ id ∈ scan.expiredIds := by
  obtain ⟨k, scan', hk, hid⟩ := hp
  by_cases heq : k = scanner
  · rw [heq, h] at hk
    cases hk
    exact Or.inr hid
  · refine Or.inl ⟨k, scan', ?_, hid⟩
    rw [mark_of_inFlight h]
    show (w.inFlight.erase scanner).get? k = some scan'
    rw [Table.get?_erase, if_neg heq, hk]

theorem pending_of_mark {scanner : Nat} (hp : (w.mark scanner).Pending id) : w.Pending id := by
  cases h : w.inFlight.get? scanner with
  | none =>
    rw [mark, h] at hp
    exact hp
  | some scan =>
    rw [mark_of_inFlight h] at hp
    obtain ⟨k, scan', hk, hid⟩ := hp
    change (w.inFlight.erase scanner).get? k = some scan' at hk
    rw [Table.get?_erase] at hk
    split at hk
    · cases hk
    · exact ⟨k, scan', hk, hid⟩

theorem coherent_mark (h : w.Coherent) (scanner : Nat) : (w.mark scanner).Coherent := by
  cases hs : w.inFlight.get? scanner with
  | none =>
    rw [mark, hs]
    exact h
  | some scan =>
    have hcalled : (w.mark scanner).calledBack = w.calledBack := by rw [mark_of_inFlight hs]
    have hstatus : ∀ id, leaseStatus (w.mark scanner).store id =
        if id ∈ scan.expiredIds then (leaseStatus w.store id).map (fun _ => .expired)
        else leaseStatus w.store id := by
      intro id
      rw [mark_of_inFlight hs]
      exact ClusterStore.leaseStatus_markExpired
    refine ⟨fun id hp => ?_, fun id hid => ?_⟩
    · rw [hcalled]
      exact h.1 id (pending_of_mark hp)
    · rw [hcalled] at hid
      rw [hstatus]
      by_cases hm : id ∈ scan.expiredIds
      · right
        rw [if_pos hm]
        cases leaseStatus w.store id <;> simp
      · rw [if_neg hm]
        rcases h.2 id hid with hp | hne
        · exact Or.inl ((pending_mark hs hp).resolve_right hm)
        · exact Or.inr hne

theorem coherent_revoke (h : w.Coherent) (leaseId : LeaseId) :
    (w.step (.revoke leaseId)).Coherent := by
  refine ⟨h.1, fun id hid => ?_⟩
  rcases h.2 id hid with hp | hne
  · exact Or.inl hp
  · right
    show leaseStatus (LeaseStore.revokeLease w.store leaseId).2 id ≠ some .active
    rw [leaseStatus_revokeLease]
    split
    · cases leaseStatus w.store id <;> simp
    · exact hne

theorem coherent_step (h : w.Coherent) (step : ScanStep) : (w.step step).Coherent := by
  cases step with
  | read scanner now => exact coherent_read h scanner now
  | mark scanner => exact coherent_mark h scanner
  | revoke leaseId => exact coherent_revoke h leaseId

/-- **Reading** calls back for no lease a second time exactly when it reads none that another
scan has read and not marked. -/
theorem callsOnce_read (h : w.Coherent) (hone : w.CallsOnce) (scanner : Nat) (now : Time) :
    (w.read scanner now).CallsOnce ↔ w.ReadsFresh (.read scanner now) := by
  by_cases hfree : w.inFlight.get? scanner = none
  · have hcalled : (w.read scanner now).calledBack =
        w.calledBack ++ (w.store.lapsedLeases now).map Lease.id := by
      rw [read, if_pos hfree]
    rw [CallsOnce, hcalled, List.nodup_append]
    refine ⟨?_, ?_⟩
    · rintro ⟨-, -, hdisj⟩ - l hl hp
      exact hdisj l.id (h.1 l.id hp) l.id (List.mem_map_of_mem hl) rfl
    · intro hfresh
      refine ⟨hone, ClusterStore.lapsedLeases_nodup, ?_⟩
      rintro id hid id' hid' rfl
      obtain ⟨l, hl, rfl⟩ := List.mem_map.mp hid'
      rcases h.2 l.id hid with hp | hne
      · exact hfresh hfree l hl hp
      · -- a lease that is read is active
        obtain ⟨hrow, hlapsed⟩ := ClusterStore.mem_lapsedLeases.mp hl
        have hget : w.store.leases.get? l.id = some l := Table.get?_of_mem hrow
        have hactive : leaseStatus w.store l.id = (w.store.leases.get? l.id).map Lease.status := rfl
        rw [hactive, hget, Option.map_some, (Lease.lapsed_iff.mp hlapsed).1] at hne
        exact hne rfl
  · rw [read, if_neg hfree]
    exact ⟨fun _ hn => absurd hn hfree, fun _ => hone⟩

theorem callsOnce_step (h : w.Coherent) (hone : w.CallsOnce) (step : ScanStep) :
    (w.step step).CallsOnce ↔ w.ReadsFresh step := by
  cases step with
  | read scanner now => exact callsOnce_read h hone scanner now
  | mark scanner =>
    refine ⟨fun _ => trivial, fun _ => ?_⟩
    have hcalled : (w.mark scanner).calledBack = w.calledBack := by
      rw [mark]
      split <;> rfl
    show (w.mark scanner).calledBack.Nodup
    rw [hcalled]
    exact hone
  | revoke leaseId => exact ⟨fun _ => trivial, fun _ => hone⟩

/-- The step marks the lease expired though it is revoked. -/
def Resurrects (id : LeaseId) (w : ScanWorld) (step : ScanStep) : Prop :=
  leaseStatus w.store id = some .revoked ∧
    ∃ scanner scan, step = .mark scanner ∧ w.inFlight.get? scanner = some scan ∧
      id ∈ scan.expiredIds

theorem marksUnrevoked_iff (step : ScanStep) :
    w.MarksUnrevoked step ↔ ∀ id, ¬ Resurrects id w step := by
  cases step with
  | mark scanner =>
    refine ⟨?_, ?_⟩
    · rintro h id ⟨hrev, k, scan, hk, hscan, hid⟩
      cases hk
      exact h scan hscan id hid hrev
    · intro h scan hscan id hid hrev
      exact h id ⟨hrev, scanner, scan, rfl, hscan, hid⟩
  | read scanner now =>
    refine ⟨fun _ id h => ?_, fun _ => trivial⟩
    obtain ⟨-, k, scan, hk, -⟩ := h
    cases hk
  | revoke leaseId =>
    refine ⟨fun _ id h => ?_, fun _ => trivial⟩
    obtain ⟨-, k, scan, hk, -⟩ := h
    cases hk

theorem revoked_step (hrev : leaseStatus w.store id = some .revoked) {step : ScanStep}
    (hb : ¬ Resurrects id w step) : leaseStatus (w.step step).store id = some .revoked := by
  cases step with
  | read scanner now =>
    show leaseStatus (w.read scanner now).store id = _
    rw [read]
    split <;> exact hrev
  | mark scanner =>
    show leaseStatus (w.mark scanner).store id = _
    cases hs : w.inFlight.get? scanner with
    | none =>
      rw [mark, hs]
      exact hrev
    | some scan =>
      have hm : id ∉ scan.expiredIds := fun hm => hb ⟨hrev, scanner, scan, rfl, hs, hm⟩
      rw [mark_of_inFlight hs]
      rw [ClusterStore.leaseStatus_markExpired, if_neg hm, hrev]
  | revoke leaseId =>
    show leaseStatus (LeaseStore.revokeLease w.store leaseId).2 id = _
    rw [leaseStatus_revokeLease, hrev]
    split <;> rfl

theorem expired_of_resurrects {step : ScanStep} (hb : Resurrects id w step) :
    leaseStatus (w.step step).store id = some .expired := by
  obtain ⟨hrev, scanner, scan, rfl, hs, hid⟩ := hb
  show leaseStatus (w.mark scanner).store id = _
  rw [mark_of_inFlight hs]
  rw [ClusterStore.leaseStatus_markExpired, if_pos hid, hrev]
  rfl

/-! ### Interleavings -/

theorem callsOnce_run (h : w.Coherent) (hone : w.CallsOnce) (run : List ScanStep) :
    Always step CallsOnce w run ↔ EachStep step ReadsFresh w run :=
  always_iff_eachStep (I := fun w : ScanWorld => w.Coherent ∧ w.CallsOnce)
    (A := fun _ _ => True) (fun _ h => h.2) (fun _ s h _ => callsOnce_step h.1 h.2 s)
    (fun _ s h _ hp => ⟨coherent_step h.1 s, hp⟩) run w ⟨h, hone⟩ (fun _ _ _ => trivial)

theorem revokedStays_run (w : ScanWorld) (run : List ScanStep) :
    w.RevokedStays run ↔ EachStep step MarksUnrevoked w run := by
  have hid : ∀ id : LeaseId,
      (∀ l m, l ++ m <+: run → leaseStatus (exec step w l).store id = some .revoked →
        ¬ leaseStatus (exec step w (l ++ m)).store id = some .expired) ↔
      ∀ l m i, l ++ m ++ [i] <+: run → leaseStatus (exec step w l).store id = some .revoked →
        ¬ Resurrects id (exec step w (l ++ m)) i := fun id =>
    never_after_iff (Q := fun w : ScanWorld => leaseStatus w.store id = some .revoked)
      (S := fun w : ScanWorld => leaseStatus w.store id = some .revoked)
      (R := fun w : ScanWorld => leaseStatus w.store id = some .expired) (fun _ h => h)
      (fun _ h he => by rw [h] at he; cases he) (fun _ _ h hb => revoked_step h hb)
      (fun _ _ hb => expired_of_resurrects hb) w run
  refine ⟨?_, ?_⟩
  · intro h l i hl
    refine (marksUnrevoked_iff i).mpr fun id hb => ?_
    refine (hid id).mp (fun l m hl hq => h l m hl id hq) l [] i ?_ hb.1 ?_
    · rwa [List.append_nil]
    · rwa [List.append_nil]
  · intro h l m hl id
    refine (hid id).mpr (fun l m i hl _ => ?_) l m hl
    exact (marksUnrevoked_iff i).mp (h (l ++ m) i hl) id

/-- **Scans and revocations**, in any order and number, from any store with no scan in flight:
no lease is called back for twice and no revoked lease becomes expired exactly when no scan
reads a lease another has read and not marked, and none marks a lease revoked since it read
it. -/
theorem scans_safe (store : ClusterStore) (run : List ScanStep) :
    Always step CallsOnce (init store) run ∧ (init store).RevokedStays run ↔
      EachStep step Safe (init store) run := by
  rw [callsOnce_run (coherent_init store) List.nodup_nil, revokedStays_run]
  exact (eachStep_and _ _).symm

/-- A store with one lease, which runs out at 60. -/
def oneLease : ClusterStore :=
  { leases := Table.empty.put ⟨"lease_a", "t1", "n1", 0, 60, .active⟩ }

/-- Two scans read the lease before either marks it; and a lease is revoked while a scan that
has read it is still to mark it. -/
theorem scans_race :
    (¬ Always step CallsOnce (init oneLease) [.read 1 60, .read 2 60]) ∧
    ¬ (init oneLease).RevokedStays [.read 1 60, .revoke "lease_a", .mark 1] := by
  refine ⟨?_, ?_⟩
  · intro h
    have hone : (exec step (init oneLease) [.read 1 60, .read 2 60]).calledBack.Nodup :=
      h [.read 1 60, .read 2 60] (by decide)
    revert hone; decide
  · intro h
    have hne := h [.read 1 60, .revoke "lease_a"] [.mark 1] (by decide) "lease_a" (by decide)
    revert hne; decide

end ScanWorld

end HermesCluster
