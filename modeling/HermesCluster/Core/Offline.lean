import HermesCluster.Core.LeasesAge

/-!
# Recovery of nodes that are reported offline

The detector recovers the nodes in its queue one after the other, while all other threads go on:
leases are created, revoked, expired and deleted between any two accesses of a recovery, and other
scans call back for the same leases.

* `ensures_recoverNode`: a recovery that does not raise leaves none of the leases active that the
  node had when it began.
* `notified_recovered`: so once the detector is at rest again, every lease that a node had when it
  was waiting in the queue is over, in every interleaving.
-/

namespace HermesCluster

open ClusterStore CoreState Prog Run

/-! ### Leases that are over -/

namespace ClusterStore

/-- The lease is not active, if it is there at all. -/
def Over (s : ClusterStore) (id : LeaseId) : Prop :=
  ∀ l, s.leases.get? id = some l → l.status ≠ .active

def AllOver (ids : List LeaseId) (s : ClusterStore) : Prop := ∀ id ∈ ids, s.Over id

/-- Those of the leases that are there are on the node. -/
def AllOn (ids : List LeaseId) (n : NodeId) (s : ClusterStore) : Prop :=
  ∀ id ∈ ids, ∀ l, s.leases.get? id = some l → l.nodeId = n

/-- Each of the leases that is not over is in the list, with the node. -/
def Listed (ids : List LeaseId) (n : NodeId) (leases : List Lease) (s : ClusterStore) : Prop :=
  ∀ id ∈ ids, s.Over id ∨ ∃ l ∈ leases, l.id = id ∧ l.nodeId = n

variable {ids : List LeaseId} {s s' : ClusterStore} {id : LeaseId} {n : NodeId}
  {leases : List Lease}

theorem LeasesAge.over (h : LeasesAge ids s s') (hid : id ∈ ids) (ho : s.Over id) :
    s'.Over id := by
  intro l' hl' hactive
  obtain ⟨l, hl, -, ha⟩ := h id hid l' hl'
  exact ho l hl (ha hactive)

theorem LeasesAge.allOver (h : LeasesAge ids s s') (ho : AllOver ids s) : AllOver ids s' :=
  fun id hid => h.over hid (ho id hid)

theorem LeasesAge.allOn (h : LeasesAge ids s s') (ho : AllOn ids n s) : AllOn ids n s' := by
  intro id hid l' hl'
  obtain ⟨l, hl, hnode, -⟩ := h id hid l' hl'
  exact hnode.symm.trans (ho id hid l hl)

theorem LeasesAge.listed (h : LeasesAge ids s s') (hl : Listed ids n leases s) :
    Listed ids n leases s' := fun id hid => (hl id hid).imp_left (h.over hid)

theorem LeasesAge.absent (h : LeasesAge ids s s') (hid : id ∈ ids)
    (hnone : s.leases.get? id = none) : s'.leases.get? id = none := by
  rw [Option.eq_none_iff_forall_ne_some]
  intro l' hl'
  obtain ⟨l, hl, -⟩ := h id hid l' hl'
  rw [hnone] at hl
  cases hl

theorem Listed.allOver (h : Listed ids n [] s) : AllOver ids s := by
  intro id hid
  rcases h id hid with ho | ⟨l, hl, -⟩
  · exact ho
  · exact absurd hl List.not_mem_nil

theorem over_revokeLease (s : ClusterStore) (id : LeaseId) : (s.revokeLease id).2.Over id := by
  intro l hl
  have hget : (s.leases.modify id Lease.revoked Lease.key_revoked).get? id = some l := hl
  rw [Table.get?_modify, if_pos rfl] at hget
  obtain ⟨l₀, -, rfl⟩ := Option.map_eq_some_iff.mp hget
  exact fun h => by cases h

theorem over_markExpired {expired : List LeaseId} (s : ClusterStore) (h : id ∈ expired) :
    (s.markExpired expired).Over id := by
  intro l hl
  have hget : (s.leases.mapRows (markedExpired expired) (key_markedExpired expired)).get? id =
      some l := hl
  rw [Table.get?_mapRows] at hget
  obtain ⟨l₀, hl₀, rfl⟩ := Option.map_eq_some_iff.mp hget
  have hid : l₀.id = id := Table.key_of_get? hl₀
  rw [markedExpired, hid, if_pos h]
  exact fun h => by cases h

/-- The active leases are listed by a scan. -/
theorem listed_active (h : AllOn ids n s) :
    Listed ids n (s.leases.rows.filter (·.status = .active)) s := by
  intro id hid
  by_cases ho : s.Over id
  · exact .inl ho
  · rw [Over] at ho
    push Not at ho
    obtain ⟨l, hl, hactive⟩ := ho
    exact .inr ⟨l, List.mem_filter.mpr ⟨Table.mem_of_get? hl, decide_eq_true hactive⟩,
      Table.key_of_get? hl, h id hid l hl⟩

/-- What has run out is over once it is marked. -/
theorem Listed.marked {now : Time} (h : Listed ids n leases s)
    (hactive : ∀ l ∈ leases, l.status = .active) :
    Listed ids n (leases.filter (·.live now))
      (s.markExpired ((leases.filter (·.lapsed now)).map Lease.id)) := by
  intro id hid
  rcases h id hid with ho | ⟨l, hl, rfl, hnode⟩
  · exact .inl ((LeasesAge.markExpired s _).over hid ho)
  · by_cases hlive : l.live now = true
    · exact .inr ⟨l, List.mem_filter.mpr ⟨hl, hlive⟩, rfl, hnode⟩
    · refine .inl (over_markExpired s (List.mem_map_of_mem (List.mem_filter.mpr ⟨hl, ?_⟩)))
      rw [Lease.live_iff, not_and, not_lt] at hlive
      exact Lease.lapsed_iff.mpr ⟨hactive l hl, hlive (hactive l hl)⟩

end ClusterStore

/-! ### One recovery -/

namespace CoreSession

variable {ids : List LeaseId} {now : Time} {n : NodeId} {c : CoreState}

/-- A transaction on the store. -/
theorem ensures_write {α : Type} {f : ClusterStore → α × ClusterStore} {post : α → CoreState → Prop}
    (h : ∀ c', Steady ids c c' → ∀ c₁,
      Steady ids (c'.withTables (c'.tables.withStore (f c'.store).2)) c₁ →
        post (f c'.store).1 c₁) :
    (onStore (.write f)).Ensures (Steady ids) post c :=
  Prog.ensures_write
    (f := fun c : CoreState => ((f c.store).1, c.withTables (c.tables.withStore (f c.store).2))) h

/-- **A scan** lists what the node still has. -/
theorem ensures_getActiveLeases (h : AllOn ids n c.store) :
    (getActiveLeases now).Ensures (Steady ids) (fun leases c => Listed ids n leases c.store) c := by
  rw [getActiveLeases]
  refine Ensures.bind .refl (M := fun rows c =>
    (∀ l ∈ rows, l.status = .active) ∧ Listed ids n rows c.store) ?_ fun rows c hrows => ?_
  · refine ensures_write fun c' hc c₁ hc₁ => ⟨fun l hl => ?_, ?_⟩
    · exact of_decide_eq_true (List.mem_filter.mp hl).2
    · exact hc₁.leases.listed (listed_active (hc.leases.allOn h))
  obtain ⟨hactive, hlisted⟩ := hrows
  refine Ensures.bind .refl (M := fun _ c => Listed ids n rows c.store) ?_ fun _ c hlisted => ?_
  · exact (steady_callBack _).ensures (fun _ _ hc => hc.leases.listed) hlisted
  split
  · refine Ensures.bind .refl (M := fun _ c =>
      Listed ids n (rows.filter (·.live now)) c.store) ?_ fun _ c hlive => ?_
    · exact ensures_write fun c' hc c₁ hc₁ =>
        hc₁.leases.listed ((hc.leases.listed hlisted).marked hactive)
    · exact fun c' hc => hc.leases.listed hlive
  · rename_i hnil
    rw [not_not] at hnil
    have hmarked : Listed ids n (rows.filter (·.live now))
        (c.store.markExpired ((rows.filter (·.lapsed now)).map Lease.id)) :=
      hlisted.marked hactive
    rw [hnil, List.map_nil, markExpired_nil] at hmarked
    exact fun c' hc => hc.leases.listed hmarked

/-- The leases that are listed are over when all of them have been revoked. -/
theorem ensures_revokeEach {leases : List Lease} {l : LoggedStore}
    (h : Listed ids n leases l.store) :
    (CoreRecovery.revokeEach now n leases).Ensures (fun l l' => LeasesAge ids l.store l'.store)
      (fun _ l => AllOver ids l.store) l := by
  induction leases generalizing l with
  | nil => exact fun l' hl => hl.allOver h.allOver
  | cons lease leases ih =>
    rw [CoreRecovery.revokeEach]
    split
    · rename_i hne
      refine ih fun id hid => (h id hid).imp_right ?_
      rintro ⟨x, hx, hxid, hxn⟩
      rcases List.mem_cons.mp hx with rfl | hx
      · exact absurd hxn hne
      · exact ⟨x, hx, hxid, hxn⟩
    refine Ensures.bind (fun _ => .refl _) (M := fun _ l => Listed ids n leases l.store) ?_
      fun _ l hl => ?_
    · refine Prog.ensures_write (f := fun l : LoggedStore =>
        ((l.store.revokeLease lease.id).1, l.withStore (l.store.revokeLease lease.id).2))
        fun l' hl' l₁ hl₁ => ?_
      refine hl₁.listed fun id hid => ?_
      rcases h id hid with ho | ⟨x, hx, rfl, hxn⟩
      · exact .inl ((LeasesAge.revokeLease _ _).over hid (hl'.over hid ho))
      · rcases List.mem_cons.mp hx with rfl | hx
        · exact .inl (over_revokeLease _ _)
        · exact .inr ⟨x, hx, rfl, hxn⟩
    refine Ensures.bind (fun _ => .refl _) (M := fun _ l => Listed ids n leases l.store) ?_
      fun _ l hl => ?_
    · exact (leasesAge_appendRecoveryEvent _).ensures (fun _ _ hl => hl.listed) hl
    · exact (ih hl).bind (fun _ => .refl _) fun _ l hl l' hl' => hl'.allOver hl

/-- **A recovery** that does not raise: nothing is left of the leases the node had. -/
theorem ensures_recoverNode (h : AllOn ids n c.store) :
    (recoverNode now n).Ensures (Steady ids) (fun _ c => AllOver ids c.store) c := by
  rw [recoverNode, revokeAllForNode]
  refine Ensures.bind .refl (M := fun _ c => AllOver ids c.store) ?_ fun tasks c hover => ?_
  · refine Ensures.bind .refl (ensures_getActiveLeases h) fun leases c hlisted => ?_
    exact (ensures_revokeEach hlisted).zoom (fun _ _ => rfl) fun _ _ hc => hc.leases
  split
  · exact (steady_onTables (leasesAge_recoverTasks n tasks)).ensures
      (fun _ _ hc => hc.leases.allOver) hover
  · exact fun c' hc => hc.leases.allOver hover

end CoreSession

/-! ### All threads -/

/-- The id of the lease a step creates. -/
def CoreStep.newId : CoreStep → Option LeaseId
  | .createLease _ token _ _ _ => some (generateId "lease" token)
  | _ => none

namespace CoreWorld

variable {ids : List LeaseId} {n : NodeId} {w w' : CoreWorld}

/-- No access that is left to take does what `Steady` does not allow. -/
structure Tame (w : CoreWorld) : Prop where
  threads : ∀ ids, w.pool.Each (Steady ids)
  turn : ∀ p, w.turn = some p → ∀ ids, p.Each (Steady ids)

theorem tame_start (c : CoreState) : (start c).Tame where
  threads _ _ ht := absurd ht List.not_mem_nil
  turn _ hp := by cases hp

theorem turn_resume {w : CoreWorld} {p q : CoreSession Unit} (h : (w.resume p).turn = some q) :
    q = p := by
  cases p with
  | ret a => cases h
  | raise e => cases h
  | query f next => exact (Option.some.inj h).symm
  | transaction f next => exact (Option.some.inj h).symm

theorem pool_resume (w : CoreWorld) (p : CoreSession Unit) : (w.resume p).pool = w.pool := by
  cases p <;> rfl

theorem shared_resume (w : CoreWorld) (p : CoreSession Unit) :
    (w.resume p).shared = w.shared := by
  cases p <;> rfl

theorem tame_step (h : w.Tame) (i : CoreStep) : (w.step i).Tame := by
  cases i with
  | call now call => exact ⟨fun ids => (h.threads ids).spawn call.steady, h.turn⟩
  | thread i => exact ⟨fun ids => ((h.threads ids).advance .refl i).1, h.turn⟩
  | createLease => exact ⟨h.threads, h.turn⟩
  | take now =>
    rw [step, takeNode]
    split
    · exact h
    split
    · exact h
    · refine ⟨h.threads, fun p hp ids => ?_⟩
      have hp' : recovery now _ = some p := hp
      rw [recovery] at hp'
      split at hp'
      · cases hp'
        exact CoreSession.steady_recoverNode _
      · cases hp'
  | recover =>
    rw [step, advance]
    split
    · exact h
    · rename_i p hp
      refine ⟨fun ids => ?_, fun q hq ids => ?_⟩
      · rw [pool_resume]
        exact h.threads ids
      · rw [turn_resume hq]
        exact (h.turn p hp ids).step _

/-- **One step** ages the leases that it does not create. -/
theorem leasesAge_step (h : w.Tame) {i : CoreStep} (hi : ∀ id ∈ i.newId, id ∉ ids) :
    LeasesAge ids w.shared.store (w.step i).shared.store := by
  cases i with
  | call => exact .refl _
  | thread i => exact ((h.threads ids).advance .refl i).2.leases
  | createLease now token t n ttl =>
    have hnew : generateId "lease" token ∉ ids := hi _ rfl
    exact ((CoreSession.steady_onStore (Session.leasesAge_createLease hnew t n ttl)).rel_run
      .refl Steady.trans w.shared).leases
  | take now =>
    rw [step, takeNode]
    split
    · exact .refl _
    split
    · exact .refl _
    · exact .refl _
  | recover =>
    rw [step, advance]
    split
    · exact .refl _
    · rename_i p hp
      rw [shared_resume]
      exact ((h.turn p hp ids).rel_step .refl _).leases

/-- The node is waiting, or being recovered, or has been, or the detector has stopped. -/
def Underway (ids : List LeaseId) (n : NodeId) (w : CoreWorld) : Prop :=
  n ∈ w.shared.eventQueue ∨
    (∃ p, w.turn = some p ∧
      p.Ensures (Steady ids) (fun _ c => AllOver ids c.store) w.shared) ∨
    AllOver ids w.shared.store ∨ w.died = true

/-- What the others do leaves it so. -/
theorem Underway.others (h : Underway ids n w) (hc : Steady ids w.shared w'.shared)
    (hturn : w'.turn = w.turn) (hdied : w'.died = w.died) : Underway ids n w' := by
  rcases h with hq | ⟨p, hp, hensures⟩ | hover | hd
  · exact .inl (hc.queue.subset hq)
  · exact .inr (.inl ⟨p, hturn.trans hp, hensures.others Steady.trans hc⟩)
  · exact .inr (.inr (.inl (hc.leases.allOver hover)))
  · exact .inr (.inr (.inr (hdied.trans hd)))

/-- The detector takes a node: this one, or another. -/
theorem Underway.take (h : Underway ids n w) (hn : n ≠ "") (hon : AllOn ids n w.shared.store)
    (now : Time) : Underway ids n (w.takeNode now) := by
  rw [takeNode]
  split
  · exact h
  rename_i hidle
  rw [not_or, Bool.not_eq_true, Option.isSome_eq_false_iff, Option.isNone_iff_eq_none] at hidle
  split
  · exact h
  rename_i m rest hqueue
  rcases h with hq | ⟨p, hp, -⟩ | hover | hd
  · rw [hqueue] at hq
    rcases List.mem_cons.mp hq with rfl | hrest
    · refine .inr (.inl ⟨CoreSession.recoverNode now n, if_pos hn, ?_⟩)
      exact CoreSession.ensures_recoverNode hon
    · exact .inl hrest
  · rw [hidle.1] at hp
    cases hp
  · exact .inr (.inr (.inl hover))
  · exact absurd hd hidle.2

/-- The detector goes on. -/
theorem Underway.advance (h : Underway ids n w) (ht : w.Tame) : Underway ids n w.advance := by
  cases hp : w.turn with
  | none =>
    rw [CoreWorld.advance, hp]
    exact h
  | some p =>
    have hstep : Steady ids w.shared (p.step w.shared).2 :=
      (ht.turn p hp ids).rel_step .refl _
    rw [CoreWorld.advance, hp]
    dsimp only
    rcases h with hq | ⟨q, hq, hensures⟩ | hover | hd
    · refine .inl ?_
      rw [shared_resume]
      exact hstep.queue.subset hq
    · rw [hp] at hq
      cases hq
      have hrest := hensures.step .refl
      cases hr : (p.step w.shared).1 with
      | ret a =>
        rw [hr] at hrest
        exact .inr (.inr (.inl (hrest _ (.refl _))))
      | raise e => exact .inr (.inr (.inr rfl))
      | query f next =>
        rw [hr] at hrest
        exact .inr (.inl ⟨_, rfl, hrest⟩)
      | transaction f next =>
        rw [hr] at hrest
        exact .inr (.inl ⟨_, rfl, hrest⟩)
    · refine .inr (.inr (.inl ?_))
      rw [shared_resume]
      exact hstep.leases.allOver hover
    · refine .inr (.inr (.inr ?_))
      cases (p.step w.shared).1 with
      | ret a => exact hd
      | raise e => rfl
      | query f next => exact hd
      | transaction f next => exact hd

/-- What holds from the moment the node is in the queue. -/
structure Followed (ids : List LeaseId) (n : NodeId) (w : CoreWorld) : Prop where
  tame : w.Tame
  on : AllOn ids n w.shared.store
  underway : Underway ids n w

theorem followed_step (hn : n ≠ "") (h : Followed ids n w) {i : CoreStep}
    (hi : ∀ id ∈ i.newId, id ∉ ids) : Followed ids n (w.step i) := by
  have hage := leasesAge_step h.tame hi
  refine ⟨tame_step h.tame i, hage.allOn h.on, ?_⟩
  cases i with
  | call => exact h.underway.others (.refl _) rfl rfl
  | thread i => exact h.underway.others ((h.tame.threads ids).advance .refl i).2 rfl rfl
  | createLease now token t n' ttl =>
    refine h.underway.others ⟨hage, ?_⟩ rfl rfl
    have hqueue : (w.step (.createLease now token t n' ttl)).shared.eventQueue =
        w.shared.eventQueue := by
      rw [step, createLease, withShared, shared, CoreSession.run_onStore]
      rfl
    rw [hqueue]
  | take now => exact h.underway.take hn h.on now
  | recover => exact h.underway.advance h.tame

theorem tame_exec (c : CoreState) (run : List CoreStep) : (exec step (start c) run).Tame := by
  induction run using List.reverseRecOn with
  | nil => exact tame_start c
  | append_singleton run i ih =>
    rw [exec_concat]
    exact tame_step ih i

/-- A lease that was neither there nor is created along a run is not there after it. -/
theorem absent_exec {c : CoreState} {run : List CoreStep} {id : LeaseId}
    (hid : id ∉ c.store.leases.keys) (hrun : id ∉ run.filterMap CoreStep.newId) :
    (exec step (start c) run).shared.store.leases.get? id = none := by
  induction run using List.reverseRecOn with
  | nil =>
    rw [Option.eq_none_iff_forall_ne_some]
    exact fun l hl => hid (Table.mem_keys.mpr ⟨l, hl⟩)
  | append_singleton run i ih =>
    rw [List.filterMap_append, List.mem_append, not_or] at hrun
    rw [exec_concat]
    have hage : LeasesAge [id] (exec step (start c) run).shared.store
        ((exec step (start c) run).step i).shared.store := by
      refine leasesAge_step (tame_exec c run) fun k hk hmem => hrun.2 ?_
      rw [List.mem_singleton.mp hmem] at hk
      exact List.mem_filterMap.mpr ⟨i, List.mem_singleton_self i, hk⟩
    exact hage.absent (List.mem_singleton_self id) (ih hrun.1)

/-- **Recovered.**  In every interleaving in which no id is drawn twice: if a node waits in the
queue after `l` and the detector is at rest after `l ++ m`, then no lease is active any more that
the node had after `l`. -/
theorem notified_recovered {c : CoreState} {l m : List CoreStep} {n : NodeId} (hn : n ≠ "")
    (hnew : (c.store.leases.keys ++ (l ++ m).filterMap CoreStep.newId).Nodup)
    (hqueue : n ∈ (exec step (start c) l).shared.eventQueue)
    (hrested : (exec step (start c) (l ++ m)).Rested) :
    ∀ x ∈ (exec step (start c) l).shared.store.leases.rows, x.nodeId = n →
      (exec step (start c) (l ++ m)).shared.store.Over x.id := by
  intro x hx hxn
  rw [List.filterMap_append, ← List.append_assoc] at hnew
  obtain ⟨-, -, hdisjoint⟩ := List.nodup_append'.mp hnew
  have hold : ∀ id ∈ m.filterMap CoreStep.newId,
      (exec step (start c) l).shared.store.leases.get? id = none := by
    intro id hid
    refine absent_exec (fun hc => ?_) fun hl => ?_
    · exact hdisjoint (List.mem_append_left _ hc) hid
    · exact hdisjoint (List.mem_append_right _ hl) hid
  have hget := Table.get?_of_mem hx
  have hfollowed : Followed [x.id] n (exec step (start c) l) := by
    refine ⟨tame_exec c l, fun id hid y hy => ?_, .inl hqueue⟩
    rw [List.mem_singleton.mp hid, ← key_lease, hget] at hy
    cases hy
    exact hxn
  have hend : Followed [x.id] n (exec step (start c) (l ++ m)) := by
    refine exec_preserves (C := fun _ i => i ∈ m) (Q := Followed [x.id] n) ?_ _ l m ?_ hfollowed
    · intro w i hw hi
      refine followed_step hn hw fun id hid hmem => ?_
      have hnone := hold id (List.mem_filterMap.mpr ⟨i, hi, hid⟩)
      rw [List.mem_singleton.mp hmem, ← key_lease, hget] at hnone
      cases hnone
    · exact fun p i hp => hp.subset (List.mem_append_right p (List.mem_singleton_self i))
  obtain ⟨hturn, halive, hempty⟩ := hrested
  rcases hend.underway with hq | ⟨p, hp, -⟩ | hover | hd
  · rw [hempty] at hq
    exact absurd hq List.not_mem_nil
  · rw [hp] at hturn
    cases hturn
  · exact hover x.id (List.mem_singleton_self _)
  · rw [halive] at hd
    cases hd

instance (w : CoreWorld) : Decidable w.Rested := inferInstanceAs (Decidable (_ ∧ _ ∧ _))

/-- A task runs on `n1` under a lease, and `n1` has sent no heartbeat for 40 seconds. -/
def silentNode : CoreState where
  tables := { store :=
    { nodes := (Table.empty.put { id := "n1", name := "worker", lastHeartbeat := ⟨0, none⟩ }).put
        { id := "n2", name := "worker", lastHeartbeat := ⟨seconds 40, none⟩ }
      tasks := Table.empty.put
        { id := "task_a", title := "build", status := "running", assignedTo := some "n1",
          createdAt := 1, updatedAt := 1, version := 2 }
      leases := Table.empty.put
        { id := "lease_a", taskId := "task_a", nodeId := "n1", createdAt := 1,
          expiresAt := seconds 100, status := .active } } }

/-- The watchdog checks the nodes and reports `n1`. -/
def reported : List CoreStep :=
  .call (seconds 40) (.check {}) :: List.replicate 4 (.thread 0)

/-- The detector recovers `n1`; after its scan somebody cancels the task, and `n1` gets a lease
for another. -/
def recovering : List CoreStep :=
  [.take (seconds 41), .recover, .call (seconds 41) (.manager (.cancel "task_a")), .thread 1,
    .createLease (seconds 41) "b" "task_b" "n1" (seconds 60), .thread 1] ++
    List.replicate 7 .recover

theorem notified_recovered_silentNode :
    (exec step (start silentNode) (reported ++ recovering)).shared.store.Over "lease_a" :=
  notified_recovered (n := "n1") (by decide) (by decide +kernel) (by decide +kernel)
    (by decide +kernel)
    { id := "lease_a", taskId := "task_a", nodeId := "n1", createdAt := 1,
      expiresAt := seconds 100, status := .active } (by decide +kernel) rfl

end CoreWorld

end HermesCluster
