import HermesCluster.Core.LeasesAge

/-!
# The detector left alone

A recovery may put nodes into the queue that the detector works off: its scan calls back for each
lease that has run out.  But such a lease is active before and never again, and nothing that a
recovery does makes a lease active.

* `activeIds_recoverNode`: a recovery takes from the active leases what it calls back for.
* `ahead_recover`: so the nodes in the queue and the active leases together become fewer.
* `comes_to_rest`: with no other thread at work, the detector comes to the end of its queue,
  unless an exception stops it.
-/

namespace HermesCluster

open ClusterStore CoreState Run

namespace ClusterStore

def activeIds (s : ClusterStore) : List LeaseId :=
  (s.leases.rows.filter (·.status = .active)).map Lease.id

variable {s s' : ClusterStore} {now : Time} {id : LeaseId}

theorem mem_activeIds : id ∈ s.activeIds ↔ ∃ l, s.leases.get? id = some l ∧ l.status = .active := by
  rw [activeIds, List.mem_map]
  refine ⟨?_, ?_⟩
  · rintro ⟨l, hl, rfl⟩
    obtain ⟨hrow, hactive⟩ := List.mem_filter.mp hl
    exact ⟨l, Table.get?_of_mem hrow, of_decide_eq_true hactive⟩
  · rintro ⟨l, hl, hactive⟩
    exact ⟨l, List.mem_filter.mpr ⟨Table.mem_of_get? hl, decide_eq_true hactive⟩,
      Table.key_of_get? hl⟩

theorem nodup_activeIds (s : ClusterStore) : s.activeIds.Nodup :=
  (List.filter_sublist.map Lease.id).nodup s.leases.nodup

/-- Leases that only age do not become active. -/
theorem LeasesAge.activeIds (h : ∀ ids, LeasesAge ids s s') :
    s'.activeIds.length ≤ s.activeIds.length := by
  refine (List.subperm_of_subset s'.nodup_activeIds fun id hid => ?_).length_le
  obtain ⟨l', hl', hactive⟩ := mem_activeIds.mp hid
  obtain ⟨l, hl, -, ha⟩ := h [id] id (List.mem_singleton_self id) l' hl'
  exact mem_activeIds.mpr ⟨l, hl, ha hactive⟩

/-- **A scan** expires what has run out. -/
theorem activeIds_getActiveLeases (s : ClusterStore) (now : Time) :
    (s.getActiveLeases now).2.activeIds.length + (s.lapsedLeases now).length =
      s.activeIds.length := by
  have hrows : (s.getActiveLeases now).2.leases.rows = s.leases.rows.map (Lease.aged now) := rfl
  rw [activeIds, activeIds, lapsedLeases, hrows, List.length_map, List.length_map]
  induction s.leases.rows with
  | nil => rfl
  | cons l leases ih =>
    by_cases h : l.lapsed now
    · have hactive : l.status = .active := (Lease.lapsed_iff.mp h).1
      simp [Lease.aged, h, hactive, ← ih]
      omega
    · by_cases hactive : l.status = .active
      · simp [Lease.aged, h, hactive, ← ih]
        omega
      · simp [Lease.aged, h, hactive, ← ih]

end ClusterStore

namespace CoreSession

variable {now : Time} {n : NodeId}

/-- What a recovery calls back for is not active any more, and nothing becomes active. -/
theorem activeIds_recoverNode (l : LoggedStore) :
    ((CoreRecovery.recoverNode now n).run l).2.store.activeIds.length +
      (l.store.lapsedLeases now).length ≤ l.store.activeIds.length := by
  have hscan : (LoggedStore.onStore (Session.getActiveLeases now)).run l =
      (.ok (l.store.leases.rows.filter (·.live now)),
        l.withStore (l.store.getActiveLeases now).2) :=
    LoggedStore.run_onStore_of (Session.run_getActiveLeases now l.store)
  rw [← activeIds_getActiveLeases l.store now, CoreRecovery.recoverNode,
    CoreRecovery.revokeAllForNode, Prog.run_bind (_ >>= _), Prog.run_bind_ok _ hscan,
    ← Prog.run_bind]
  refine Nat.add_le_add_right (LeasesAge.activeIds fun ids => ?_) _
  refine Prog.Each.rel_run (R := fun l l' => LeasesAge ids l.store l'.store) (fun _ => .refl _)
    (fun _ _ _ => LeasesAge.trans _ _ _) ?_ (l.withStore (l.store.getActiveLeases now).2)
  refine (leasesAge_revokeEach n _).bind fun tasks => .ite (fun _ => ?_) fun _ => ?_
  · exact leasesAge_recoverTasks n tasks
  · exact Prog.each_pure _

end CoreSession

/-- Whether the detector takes the step. -/
def CoreStep.ofDetector : CoreStep → Bool
  | .take _ => true
  | .recover => true
  | _ => false

/-- When the detector takes a node. -/
def CoreStep.taken : CoreStep → Option Time
  | .take now => some now
  | _ => none

namespace CoreWorld

/-- What the detector may still have to do. -/
def ahead (w : CoreWorld) : Nat :=
  w.shared.eventQueue.length + w.shared.store.activeIds.length

variable {w : CoreWorld} {now : Time}

/-- **A recovery** takes one node from what is ahead, and adds none. -/
theorem ahead_recover {n : NodeId} {rest : List NodeId}
    (hqueue : w.shared.eventQueue = n :: rest) (now : Time) :
    (w.finished ((CoreSession.recoverNode now n).run
      { w.shared with eventQueue := rest })).ahead < w.ahead := by
  have hactive : ((CoreRecovery.recoverNode now n).run w.shared.tables).2.store.activeIds.length +
      (w.shared.store.lapsedLeases now).length ≤ w.shared.store.activeIds.length :=
    CoreSession.activeIds_recoverNode w.shared.tables
  have hshared : ∀ r, (w.finished r).shared = r.2 := by
    rintro ⟨e | a, c⟩ <;> rfl
  rw [ahead, ahead, hshared, CoreSession.run_recoverNode, hqueue, List.length_append,
    List.length_map, List.length_cons]
  show rest.length + (w.shared.store.lapsedLeases now).length +
    ((CoreRecovery.recoverNode now n).run w.shared.tables).2.store.activeIds.length < _
  omega

/-- The detector takes nodes at these times, or at the first of them, and then waits for a node and
there is none, or has stopped. -/
def RestsWithin (times : List Time) (w : CoreWorld) : Prop :=
  ∃ run : List CoreStep, (∀ i ∈ run, i.ofDetector = true) ∧
    run.filterMap CoreStep.taken <+: times ∧
    ((exec step w run).Rested ∨ (exec step w run).died = true)

theorem RestsWithin.of_exec (run : List CoreStep) (times : List Time)
    (hrun : ∀ i ∈ run, i.ofDetector = true) (h : RestsWithin times (exec step w run)) :
    RestsWithin (run.filterMap CoreStep.taken ++ times) w := by
  obtain ⟨rest, hrest, htimes, hend⟩ := h
  refine ⟨run ++ rest, fun i hi => ?_, ?_, ?_⟩
  · exact (List.mem_append.mp hi).elim (hrun i) (hrest i)
  · rw [List.filterMap_append]
    exact (List.prefix_append_right_inj _).mpr htimes
  · rwa [exec_append]

theorem restsWithin_of_ended {times : List Time} (h : w.Rested ∨ w.died = true) :
    RestsWithin times w :=
  ⟨[], fun _ hi => absurd hi List.not_mem_nil, List.nil_prefix, h⟩

theorem restsWithin_of_empty {times : List Time} (hidle : w.turn = none)
    (hempty : w.shared.eventQueue = []) : RestsWithin times w := by
  refine restsWithin_of_ended ?_
  by_cases hdied : w.died = true
  · exact .inr hdied
  · exact .inl ⟨Option.isNone_iff_eq_none.mpr hidle, Bool.eq_false_iff.mpr hdied, hempty⟩

theorem taken_alone (now : Time) (k : Nat) :
    (CoreStep.take now :: List.replicate k .recover).filterMap CoreStep.taken = [now] := by
  have hnone : (List.replicate k CoreStep.recover).filterMap CoreStep.taken = [] := by
    refine List.filterMap_eq_nil_iff.mpr fun i hi => ?_
    rw [List.eq_of_mem_replicate hi]
    rfl
  have htaken : (CoreStep.take now).taken = some now := rfl
  rw [List.filterMap_cons_some htaken, hnone]

/-- The detector takes the next node. -/
theorem RestsWithin.cons {times : List Time} {n : NodeId} {rest : List NodeId}
    (hidle : w.turn = none) (halive : w.died = false) (hqueue : w.shared.eventQueue = n :: rest)
    (ih : ∀ w' : CoreWorld, w'.turn = none → w'.ahead < w.ahead → RestsWithin times w') :
    RestsWithin (now :: times) w := by
  by_cases hn : n = ""
  · -- the empty id is taken from the queue and passed over
    have htake : exec step w [.take now] =
        w.withShared { w.shared with eventQueue := rest } := by
      rw [exec_cons, step_take hidle halive hqueue, recovery, if_neg (not_not.mpr hn), ← hidle]
      rfl
    refine of_exec [.take now] times (fun i hi => ?_) ?_
    · rw [List.mem_singleton.mp hi]
      rfl
    · rw [htake]
      refine ih _ hidle ?_
      rw [ahead, ahead, hqueue, List.length_cons]
      exact Nat.add_lt_add_right (Nat.lt_succ_self rest.length) _
  · obtain ⟨k, hk⟩ := recover_alone hidle halive hqueue hn now
    have hless := ahead_recover hqueue now
    have hdetector : ∀ i ∈ CoreStep.take now :: List.replicate k .recover,
        i.ofDetector = true := by
      refine List.forall_mem_cons.mpr ⟨rfl, fun i hi => ?_⟩
      rw [List.eq_of_mem_replicate hi]
      rfl
    have hafter : RestsWithin times (exec step w (.take now :: List.replicate k .recover)) := by
      rw [hk]
      generalize (CoreSession.recoverNode now n).run _ = r at hless ⊢
      rcases r with ⟨e | a, c⟩
      · exact restsWithin_of_ended (.inr rfl)
      · exact ih _ rfl hless
    have htotal := of_exec _ times hdetector hafter
    rwa [taken_alone] at htotal

/-- **At rest.**  With no other thread at work, a detector that waits for a node comes to the end
of its queue unless an exception stops it, and it takes no more nodes than there are in the
queue and leases active, whatever the clock says. -/
theorem comes_to_rest {times : List Time} (hidle : w.turn = none)
    (htimes : w.ahead ≤ times.length) : RestsWithin times w := by
  induction times generalizing w with
  | nil =>
    have hlength : w.shared.eventQueue.length = 0 :=
      (Nat.add_eq_zero_iff.mp (Nat.le_zero.mp htimes)).1
    exact restsWithin_of_empty hidle (List.length_eq_zero_iff.mp hlength)
  | cons now times ih =>
    by_cases hdied : w.died = true
    · exact restsWithin_of_ended (.inr hdied)
    cases hqueue : w.shared.eventQueue with
    | nil => exact restsWithin_of_empty hidle hqueue
    | cons n rest =>
      refine .cons hidle (Bool.eq_false_iff.mpr hdied) hqueue fun w' hidle' hless => ?_
      exact ih hidle' (Nat.le_of_lt_succ (hless.trans_le htimes))

/-- `n1` waits in the queue, and a lease of `n2` has run out. -/
def oneWaiting : CoreState where
  tables := { store :=
    { leases := Table.empty.put
        { id := "lease_a", taskId := "task_a", nodeId := "n2", createdAt := 1,
          expiresAt := seconds 2, status := .active } } }
  eventQueue := ["n1"]

theorem comes_to_rest_oneWaiting : RestsWithin [seconds 5, seconds 6] (start oneWaiting) :=
  comes_to_rest rfl (by decide +kernel)

end CoreWorld

end HermesCluster
