import HermesCluster.Routers.Spec
import HermesCluster.Routers.StoreRouter
import HermesCluster.State.Agrees

/-!
# `ClusterStore` as a drop-in replacement

The routers over a `ClusterStore` and over a `ClusterState` side by side.  From stores that
agree, a request that both handle alike (`Interchangeable`), with versions that leave room
for what it counts (`Replaceable`), has the same outcome over both and leaves them agreeing:
`handleApi_matches`.  `dropIn_run` is the same for whole runs.

A loop over the dependents of a task counts the version of each dependent at most once, and
never that of the task itself: `LoopAgrees` is what holds while the dependents `l` are still
to come.
-/

namespace HermesCluster

/-- Success, or the error. -/
def outcome {α : Type} (result : Except PyError α) : Except PyError Unit :=
  result.map fun _ => ()

/-- The same outcome, and stores that agree. -/
def Matches {α : Type} (p : Except PyError α × StoreRouter) (q : Except PyError α × TaskRouter) :
    Prop :=
  outcome p.1 = outcome q.1 ∧ Agrees (fun _ => 0) p.2.state q.2.state

theorem Matches.of_run {α : Type} {p : Raise StoreRouter PyError α} {r u : StoreRouter} {a b : α}
    {q : TaskRouter} (hrun : p r = (.ok a, u)) (h : Agrees (fun _ => 0) u.state q.state) :
    Matches (p r) (.ok b, q) := by
  rw [Matches, hrun]
  exact ⟨rfl, h⟩

namespace StoreRouter

variable {r : StoreRouter} {s : ClusterState} {q : TaskRouter} {m m' : TaskId → Nat} {now : Time}
  {t : TaskId}

/-! ### Calls of the store -/

theorem run_getTask (h : Agrees m r.state s) (t : TaskId) : getTask t r = (.ok (s.getTask t), r) :=
  Raise.run_read_of_ok (h.getTask t)

theorem run_getAllTasks (h : Agrees m r.state s) :
    (Raise.read fun r : StoreRouter => r.state.getAllTasks) r = (.ok s.tasks.rows, r) :=
  Raise.run_read_of_ok h.getAllTasks

theorem run_getDependents (h : Agrees m r.state s) (t : TaskId) :
    getDependents t r = (.ok (s.getDependents t), r) := by
  rw [getDependents, Raise.read, h.getDependents]

theorem run_allDone (h : Agrees m r.state s) (deps : List TaskId) :
    allDone deps r = (.ok (s.allDone deps), r) := by
  induction deps with
  | nil => rfl
  | cons d deps ih =>
    rw [allDone, Raise.run_bind_of_ok _ (run_getTask h d), ClusterState.allDone, List.all_cons,
      ClusterState.getTask]
    cases s.tasks.get? d with
    | none => rfl
    | some x =>
      by_cases hc : x.status = .completed
      · simp only [if_pos hc, decide_eq_true hc, Bool.true_and]
        exact ih
      · simp only [if_neg hc, decide_eq_false hc, Bool.false_and]
        rfl

theorem run_write (r : StoreRouter) (f : ClusterStore → ClusterStore) :
    write f r = (.ok (), { r with state := f r.state }) := rfl

theorem run_triggerPendingTasks (r : StoreRouter) (now : Time) : triggerPendingTasks now r =
    (.ok (r.state.triggerPendingTasks now).1,
      { r with state := (r.state.triggerPendingTasks now).2 }) := rfl

theorem run_setTaskStatus (r : StoreRouter) (now : Time) (t : TaskId) (status : TaskStatus)
    (reason : String) : setTaskStatus now t status reason r =
      (.ok (), { r with state := r.state.setTaskStatus now t status reason }) := rfl

theorem run_revokeLease (r : StoreRouter) (t : TaskId) :
    revokeLease t r = (.ok (), r.revokeLeaseOf t) := rfl

theorem run_schedulePending (now : Time) (h : Agrees m r.state s) (hn : Agrees.NodesRead s)
    (hm : ∀ k, m' k ≤ m k)
    (hready : ∀ k x, s.tasks.get? k = some x → x.status = .ready → m' k + 1 ≤ m k) :
    ∃ n r', schedulePending now r = (.ok n, r') ∧ Agrees m' r'.state (s.schedulePending now).2 := by
  obtain ⟨n, store', hok, hagrees⟩ := h.schedulePending now hn hm hready
  refine ⟨n, { r with state := store' }, Raise.run_transact_of_ok ?_, hagrees⟩
  rw [hok]
  rfl

/-! ### Loops over dependents -/

/-- The task is there neither pending nor ready. -/
def Settled (s : ClusterState) (t : TaskId) : Prop :=
  ∀ x, s.tasks.get? t = some x → x.status ≠ .pending ∧ x.status ≠ .ready

/-- What is left of `n` counts for every task and one more for the dependents to come. -/
def left (n : Nat) (t : TaskId) (l : List TaskId) (k : TaskId) : Nat :=
  if k = t then 0 else n + if k ∈ l then 1 else 0

structure LoopAgrees (n : Nat) (t : TaskId) (l : List TaskId) (r : StoreRouter)
    (s : ClusterState) : Prop where
  agrees : Agrees (left n t l) r.state s
  nodup : l.Nodup
  settled : Settled s t

theorem LoopAgrees.skip {n : Nat} {d : TaskId} {l : List TaskId}
    (h : LoopAgrees n t (d :: l) r s) : LoopAgrees n t l r s := by
  refine ⟨h.agrees.mono fun k => ?_, (List.nodup_cons.mp h.nodup).2, h.settled⟩
  rw [left, left]
  by_cases hk : k = t
  · rw [if_pos hk, if_pos hk]
  · rw [if_neg hk, if_neg hk]
    by_cases hl : k ∈ l
    · rw [if_pos hl, if_pos (List.mem_cons_of_mem d hl)]
    · rw [if_neg hl]
      omega

/-- A turn that sets the status of a pending dependent. -/
theorem LoopAgrees.set {n : Nat} {d : TaskId} {l : List TaskId} {x : Task}
    (h : LoopAgrees n t (d :: l) r s) (hx : s.tasks.get? d = some x) (hp : x.status = .pending)
    (status : TaskStatus) :
    LoopAgrees n t l { r with state := r.state.setTaskStatus now d status }
      (s.setTaskStatus now d status) := by
  obtain ⟨hd, hl⟩ := List.nodup_cons.mp h.nodup
  have hdt : d ≠ t := by
    intro he
    exact (h.settled x (he ▸ hx)).1 hp
  refine ⟨h.agrees.setTaskStatus status "" ?_ fun k hk => ?_, hl, fun y hy => ?_⟩
  · rw [left, left, if_neg hdt, if_neg hdt, if_neg hd, if_pos List.mem_cons_self]
  · rw [left, left]
    by_cases hkt : k = t
    · rw [if_pos hkt, if_pos hkt]
    · rw [if_neg hkt, if_neg hkt]
      by_cases hkl : k ∈ l
      · rw [if_pos hkl, if_pos (List.mem_cons_of_mem d hkl)]
      · rw [if_neg hkl]
        omega
  · rw [ClusterState.get?_setTaskStatus, if_neg hdt.symm] at hy
    exact h.settled y hy

theorem triggerDependent_sim (now : Time) {n : Nat} (d : TaskId) (l : List TaskId) (r : StoreRouter)
    (s : ClusterState) (h : LoopAgrees n t (d :: l) r s) :
    ∃ r', triggerDependent now d r = (.ok (), r') ∧
      LoopAgrees n t l r' (TaskRouter.triggerDependent now s d) := by
  rw [triggerDependent, Raise.run_bind_of_ok _ (run_getTask h.agrees d),
    TaskRouter.triggerDependent]
  cases hx : s.getTask d with
  | none => exact ⟨r, rfl, h.skip⟩
  | some x =>
    by_cases hp : x.status = .pending
    · have hnp : ¬ x.status ≠ .pending := not_not_intro hp
      simp only [if_neg hnp]
      rw [Raise.run_bind_of_ok _ (run_allDone h.agrees x.dependsOn)]
      by_cases hd : s.allDone x.dependsOn = true
      · rw [if_pos hd, if_pos hd]
        exact ⟨_, rfl, h.set hx hp .ready⟩
      · rw [if_neg hd, if_neg hd]
        exact ⟨r, rfl, h.skip⟩
    · simp only [if_pos hp]
      exact ⟨r, rfl, h.skip⟩

theorem blockDependent_sim (now : Time) {n : Nat} (d : TaskId) (l : List TaskId) (r : StoreRouter)
    (s : ClusterState) (h : LoopAgrees n t (d :: l) r s) :
    ∃ r', blockDependent now d r = (.ok (), r') ∧
      LoopAgrees n t l r' (TaskRouter.blockDependent now s d) := by
  rw [blockDependent, Raise.run_bind_of_ok _ (run_getTask h.agrees d), TaskRouter.blockDependent]
  cases hx : s.getTask d with
  | none => exact ⟨r, rfl, h.skip⟩
  | some x =>
    by_cases hp : x.status = .pending
    · simp only [if_pos hp]
      exact ⟨_, rfl, h.set hx hp .blocked⟩
    · simp only [if_neg hp]
      exact ⟨r, rfl, h.skip⟩

/-! ### Handlers -/

theorem Agrees.done (h : Agrees m r.state s) : Agrees (fun _ => 0) r.state s :=
  h.mono fun _ => Nat.zero_le _

theorem agrees_revokeLeaseOf (h : Agrees m r.state q.state) (t : TaskId) :
    Agrees m (r.revokeLeaseOf t).state (q.revokeLeaseOf t).state := by
  have hstate : Agrees m r.state (q.revokeLeaseOf t).state := by
    rw [TaskRouter.revokeLeaseOf_state]
    split
    · exact h.revokeLease_state _
    · exact h
  rw [revokeLeaseOf]
  cases r.leaseManager with
  | none => exact hstate
  | some manager =>
    cases hl : manager.getByTask r.state t with
    | none =>
      simp only [hl]
      exact hstate
    | some lease =>
      simp only [hl]
      rw [LeaseManager.revoke]
      split
      · exact hstate
      · exact hstate.revokeLease_store lease.id

theorem submitTask_matches (h : Agrees (fun _ => 0) r.state q.state) {token : String}
    {priority : Int} (hnew : q.state.tasks.get? (generateId "task" token) = none)
    (hp : priority > 0 → ClusterStore.fits64 priority = true) (title : String)
    (requires : List Capability) :
    Matches (submitTask now token title requires priority r)
      (q.submitTask now token title requires priority) := by
  have hfits : ClusterStore.fits64 (if priority > 0 then priority else 3) = true := by
    split
    next hpos => exact hp hpos
    · decide
  obtain ⟨store', hok, hagrees⟩ := h.createTask now hnew hfits (by decide) title requires
  have hcreate : createTask now (generateId "task" token) title requires
      (if priority > 0 then priority else 3) r = (.ok (ClusterState.madeReady now
        (ClusterState.newTask now (generateId "task" token) title requires
          (if priority > 0 then priority else 3))), { r with state := store' }) := by
    rw [createTask, Raise.run_bind_of_ok _ (Raise.run_transact_of_ok (by rw [hok]; rfl)),
      Raise.run_bind_of_ok _ (run_getTask hagrees _), ClusterState.getTask,
      ClusterState.get?_promote, if_pos rfl, ClusterState.get?_createTask, if_pos rfl]
    rfl
  rw [submitTask, Raise.run_bind_of_ok _ hcreate]
  refine ⟨rfl, hagrees.triggerPendingTasks_promoted (x := ClusterState.newTask now
    (generateId "task" token) title requires (if priority > 0 then priority else 3)) ?_ rfl rfl⟩
  rw [ClusterState.get?_createTask, if_pos rfl]

theorem settled_setTaskStatus (status : TaskStatus) (reason : String) (hp : status ≠ .pending)
    (hr : status ≠ .ready) : Settled (s.setTaskStatus now t status reason) t := by
  intro y hy
  rw [ClusterState.get?_setTaskStatus, if_pos rfl] at hy
  obtain ⟨x, -, rfl⟩ := Option.map_eq_some_iff.mp hy
  exact ⟨hp, hr⟩

/-- The loop starts once the status of the task is set. -/
theorem LoopAgrees.start (now : Time) {n : Nat} (h : Agrees m r.state s) (status : TaskStatus)
    (reason : String) (hp : status ≠ .pending) (hr : status ≠ .ready) (ht : 1 ≤ m t)
    (hm : ∀ k, k ≠ t → n + 1 ≤ m k) :
    LoopAgrees n t ((s.setTaskStatus now t status reason).getDependents t)
      { r with state := r.state.setTaskStatus now t status reason }
      (s.setTaskStatus now t status reason) := by
  refine ⟨h.setTaskStatus status reason ?_ fun k hk => ?_, ClusterState.nodup_getDependents,
    settled_setTaskStatus status reason hp hr⟩
  · rw [left, if_pos rfl]
    omega
  · rw [left, if_neg hk]
    have hone := hm k hk
    split <;> omega

theorem run_triggerDownstream (now : Time) (h : LoopAgrees 1 t (s.getDependents t) r s)
    (hn : Agrees.NodesRead s) :
    ∃ r', triggerDownstream now t r = (.ok (), r') ∧
      Agrees (fun _ => 0) r'.state (TaskRouter.triggerDownstream s now t) := by
  obtain ⟨r₁, hloop, hend⟩ := Raise.each_sim (triggerDependent_sim now) _ _ _ h
  have hn₁ : Agrees.NodesRead (TaskRouter.downstream s now t) := by
    rw [Agrees.NodesRead, TaskRouter.sameButTasks_downstream.onlineNodes]
    exact hn
  obtain ⟨n, r₂, hsched, hagrees⟩ := run_schedulePending now hend.agrees hn₁
    (fun _ => Nat.zero_le _ : ∀ k, (fun _ => 0) k ≤ left 1 t [] k) (fun k x hx hr => by
      have hk : k ≠ t := fun he => (hend.settled x (he ▸ hx)).2 hr
      rw [left, if_neg hk]
      omega)
  refine ⟨r₂, ?_, hagrees⟩
  rw [triggerDownstream, Raise.run_bind_of_ok _ (run_getDependents h.agrees t),
    Raise.run_bind_of_ok _ hloop, Raise.run_bind_of_ok _ hsched]
  rfl

theorem completeTask_matches (h : Agrees (fun k => if k = t then 1 else 2) r.state q.state)
    (hn : (q.state.tasks.get? t).isSome → Agrees.NodesRead q.state) :
    Matches (completeTask now t r) (q.completeTask now t) := by
  rw [completeTask, Raise.run_bind_of_ok _ (run_getTask h t), TaskRouter.completeTask]
  cases hx : q.state.getTask t with
  | none => exact ⟨rfl, Agrees.done h⟩
  | some x =>
    have hread : Agrees.NodesRead ((q.revokeLeaseOf t).state.setTaskStatus now t .completed) := by
      show ∀ n ∈ (q.revokeLeaseOf t).state.nodes.rows.filter _, _
      rw [TaskRouter.nodes_revokeLeaseOf]
      exact hn (by rw [ClusterState.getTask] at hx; rw [hx]; rfl)
    have hstart := LoopAgrees.start now (n := 1) (agrees_revokeLeaseOf h t) .completed ""
      (by decide) (by decide) (le_of_eq (if_pos rfl).symm)
      (fun k hk => le_of_eq (if_neg hk).symm)
    obtain ⟨r', hrun, hagrees⟩ := run_triggerDownstream now hstart hread
    refine Matches.of_run (a := .status "completed") ?_ hagrees
    show (revokeLease t >>= _) r = _
    rw [Raise.run_bind_of_ok _ (run_revokeLease r t),
      Raise.run_bind_of_ok _ (run_setTaskStatus _ now t .completed ""),
      Raise.run_bind_of_ok _ hrun]
    rfl

theorem failTask_matches (h : Agrees (fun _ => 1) r.state q.state) (reason : Option String) :
    Matches (failTask now t reason r) (q.failTask now t reason) := by
  rw [failTask, Raise.run_bind_of_ok _ (run_getTask h t), TaskRouter.failTask]
  cases hx : q.state.getTask t with
  | none => exact ⟨rfl, Agrees.done h⟩
  | some x =>
    have hstart := LoopAgrees.start now (n := 0) (t := t) h .failed (reason.getD "failed")
      (by decide) (by decide) (le_refl 1) (fun _ _ => le_refl 1)
    obtain ⟨r', hrun, hend⟩ := Raise.each_sim (blockDependent_sim now) _ _ _ hstart
    refine Matches.of_run (a := .failed ((q.state.setTaskStatus now t .failed
      (reason.getD "failed")).getDependents t)) ?_ (Agrees.done hend.agrees)
    show (setTaskStatus now t .failed (reason.getD "failed") >>= _) r = _
    rw [Raise.run_bind_of_ok _ (run_setTaskStatus r now t .failed _),
      Raise.run_bind_of_ok _ (run_getDependents hstart.agrees t), Raise.run_bind_of_ok _ hrun]
    rfl

theorem unblockTask_matches (h : Agrees (fun k => if k = t then 1 else 0) r.state q.state) :
    Matches (unblockTask now t r) (q.unblockTask now t) := by
  have hagrees : Agrees (fun _ => 0) (r.state.unblockTask now t).2 (q.state.unblockTask now t).2 :=
    h.unblockTask (le_of_eq (if_pos rfl).symm) (fun _ _ => Nat.zero_le _)
  have hfst := h.unblockTask_fst now t
  have hrun : (Raise.update fun r : StoreRouter =>
      ((r.state.unblockTask now t).1, { r with state := (r.state.unblockTask now t).2 })) r =
      ((.ok (q.state.unblockTask now t).1, { r with state := (r.state.unblockTask now t).2 }) :
        Except PyError Bool × StoreRouter) := by
    rw [← hfst]
    rfl
  have hq : q.unblockTask now t = if (q.state.unblockTask now t).1 = true then
        (.ok (.status "unblocked"), { q with state := (q.state.unblockTask now t).2 })
      else (.error (.httpException 400 "task not in blocked state"),
        { q with state := (q.state.unblockTask now t).2 }) := rfl
  rw [unblockTask, Raise.run_bind_of_ok _ hrun, hq]
  split
  · exact ⟨rfl, hagrees⟩
  · exact ⟨rfl, hagrees⟩

theorem run_dependenciesMet (h : Agrees m r.state s) (deps : List TaskId) :
    dependenciesMet deps r = (.ok (s.allDone deps), r) := by
  rw [dependenciesMet]
  by_cases hd : deps = []
  · rw [if_neg (not_not_intro hd), hd]
    rfl
  · rw [if_pos hd]
    exact run_allDone h deps

theorem manualAdvance_matches (h : Agrees (fun k => if k = t then 2 else 1) r.state q.state)
    (hn : TaskRouter.AdvanceAccepted q.state t → Agrees.NodesRead q.state) :
    Matches (manualAdvance now t r) (q.manualAdvance now t) := by
  rw [manualAdvance, Raise.run_bind_of_ok _ (run_getTask h t), TaskRouter.manualAdvance]
  cases hx : q.state.getTask t with
  | none => exact ⟨rfl, Agrees.done h⟩
  | some x =>
    show Matches ((dependenciesMet x.dependsOn >>= _) r) _
    rw [Raise.run_bind_of_ok _ (run_dependenciesMet h x.dependsOn)]
    by_cases hd : q.state.allDone x.dependsOn = true
    · have hset : Agrees (fun _ => 1) (r.state.setTaskStatus now t .ready)
          (q.state.setTaskStatus now t .ready) :=
        h.setTaskStatus .ready "" (le_of_eq (if_pos rfl).symm)
          (fun k hk => le_of_eq (if_neg hk).symm)
      obtain ⟨n, r', hrun, hagrees⟩ := run_schedulePending now
        (r := { r with state := r.state.setTaskStatus now t .ready }) hset (hn ⟨x, hx, hd⟩)
        (fun _ => Nat.zero_le 1) (fun _ _ _ _ => le_refl 1)
      have haccept : ¬ (x.dependsOn ≠ [] ∧ ¬ q.state.allDone x.dependsOn = true) :=
        fun hnot => hnot.2 hd
      simp only [if_pos hd, if_neg haccept]
      refine Matches.of_run (a := .status "advanced") ?_ hagrees
      rw [Raise.run_bind_of_ok _ (run_setTaskStatus r now t .ready ""),
        Raise.run_bind_of_ok _ hrun]
      rfl
    · have hne : x.dependsOn ≠ [] := by
        intro he
        rw [he] at hd
        exact hd rfl
      have hrefuse : x.dependsOn ≠ [] ∧ ¬ q.state.allDone x.dependsOn = true := ⟨hne, hd⟩
      simp only [if_neg hd, if_pos hrefuse]
      exact ⟨rfl, Agrees.done h⟩

theorem setDependencies_matches (h : Agrees (fun k => if k = t then 1 else 0) r.state q.state)
    {deps : List TaskId}
    (hdeps : ∀ x, q.state.tasks.get? t = some x → deps = [] ∨ x.status ≠ .ready) :
    Matches (setDependencies now t deps r) (q.setDependencies now t deps) := by
  rw [setDependencies, Raise.run_bind_of_ok _ (run_getTask h t), TaskRouter.setDependencies]
  cases hx : q.state.getTask t with
  | none => exact ⟨rfl, Agrees.done h⟩
  | some x =>
    have hagrees : Agrees (fun _ => 0) (r.state.setDependencies now t deps)
        (q.state.setDependencies now t deps) :=
      h.setDependencies hdeps (le_of_eq (if_pos rfl).symm) (fun _ _ => Nat.zero_le _)
    have hback := run_getTask (r := { r with state := r.state.setDependencies now t deps })
      hagrees t
    refine Matches.of_run (u := { r with state := r.state.setDependencies now t deps })
      (a := .task ((q.state.setDependencies now t deps).getTask t)) ?_ hagrees
    show (write _ >>= _) r = _
    rw [Raise.run_bind_of_ok _ (run_write r _), Raise.run_bind_of_ok _ hback]
    rfl

/-- A claim that is refused; the accepted one ends at the missing lock. -/
theorem claimTask_matches (h : Agrees m r.state q.state)
    (hc : ¬ TaskRouter.ClaimAccepted q.state t) (token : String) (nodeId : NodeId) :
    Matches (claimTask now t r) (q.claimTask now token t nodeId) := by
  rw [claimTask, Raise.run_bind_of_ok _ (run_getTask h t), TaskRouter.claimTask]
  cases hx : q.state.getTask t with
  | none => exact ⟨rfl, Agrees.done h⟩
  | some x =>
    by_cases hr : x.status ≠ .ready
    · simp only [if_pos hr]
      exact ⟨rfl, Agrees.done h⟩
    · have ha : x.assignedTo ≠ none := fun ha => hc ⟨x, hx, not_not.mp hr, ha⟩
      simp only [if_neg hr, if_pos ha]
      exact ⟨rfl, Agrees.done h⟩

theorem releaseTask_matches (h : Agrees m r.state q.state) {nodeId : NodeId}
    (hc : ¬ TaskRouter.ReleaseAccepted q.state t nodeId) (reason : Option String) :
    Matches (releaseTask now t nodeId r) (q.releaseTask now t nodeId reason) := by
  rw [releaseTask, Raise.run_bind_of_ok _ (run_getTask h t), TaskRouter.releaseTask]
  cases hx : q.state.getTask t with
  | none => exact ⟨rfl, Agrees.done h⟩
  | some x =>
    have ha : x.assignedTo ≠ some nodeId := fun ha => hc ⟨x, hx, ha⟩
    simp only [if_pos ha]
    exact ⟨rfl, Agrees.done h⟩

theorem scheduleTrigger_matches (h : Agrees (fun _ => 1) r.state q.state)
    (hn : Agrees.NodesRead q.state) :
    Matches (scheduleTrigger now r) (q.scheduleTrigger now) := by
  have hpromoted := h.triggerPendingTasks now
  have hn' : Agrees.NodesRead (q.state.triggerPendingTasks now).2 := by
    rw [Agrees.NodesRead, ClusterState.sameButTasks_triggerPendingTasks.onlineNodes]
    exact hn
  obtain ⟨n, r', hrun, hagrees⟩ := run_schedulePending now
    (r := { r with state := (r.state.triggerPendingTasks now).2 }) hpromoted hn'
    (fun _ => Nat.zero_le 1) (fun _ _ _ _ => le_refl 1)
  refine Matches.of_run (a := .triggered (r.state.triggerPendingTasks now).1 n
    (assignments ((q.state.triggerPendingTasks now).2.schedulePending now).2.tasks.rows)) ?_ hagrees
  rw [scheduleTrigger, Raise.run_bind_of_ok _ (run_triggerPendingTasks r now),
    Raise.run_bind_of_ok _ hrun, Raise.run_bind_of_ok _ (run_getAllTasks hagrees)]
  rfl

end StoreRouter

/-! ### Requests -/

/-- How often a request may count the version of a task. -/
def ApiRequest.counts : ApiRequest → TaskId → Nat
  | .task (.complete t) => fun k => if k = t then 1 else 2
  | .task (.advance t) => fun k => if k = t then 2 else 1
  | .task (.fail _ _) | .task .trigger => fun _ => 1
  | .task (.unblock t) | .task (.dependencies t _) => fun k => if k = t then 1 else 0
  | _ => fun _ => 0

/-- The requests both stores handle alike. -/
def Interchangeable (s : ClusterState) : ApiRequest → Prop
  | .task (.submit token _ _ priority) => s.tasks.get? (generateId "task" token) = none ∧
      (priority > 0 → ClusterStore.fits64 priority = true)
  | .task (.complete t) => (s.tasks.get? t).isSome → Agrees.NodesRead s
  | .task (.advance t) => TaskRouter.AdvanceAccepted s t → Agrees.NodesRead s
  | .task .trigger => Agrees.NodesRead s
  | .task (.dependencies t deps) => ∀ x, s.tasks.get? t = some x → deps = [] ∨ x.status ≠ .ready
  | .task (.claim _ t _) => ¬ TaskRouter.ClaimAccepted s t
  | .task (.release t nodeId _) => ¬ TaskRouter.ReleaseAccepted s t nodeId
  | .createLease token _ _ _ => s.leases.get? (generateId "lease" token) = none
  | .syncReceive msg => s.syncVersion < msg.version → Agrees.Portable s msg
  | .task (.fail _ _) | .task (.unblock _) | .revokeLease _ => True

/-- The request is handled alike, and no version it counts leaves the 64 bits. -/
def Replaceable (q : TaskRouter) (req : Time × ApiRequest) : Prop :=
  Interchangeable q.state req.2 ∧ ∀ k x, q.state.tasks.get? k = some x →
    x.version + req.2.counts k ≤ 9223372036854775807

theorem ApiRequest.counts_le (req : ApiRequest) (t : TaskId) : req.counts t ≤ 2 := by
  cases req with
  | task request =>
    cases request with
    | complete _ | advance _ | unblock _ | dependencies _ _ =>
      show (if _ then _ else _) ≤ 2
      split <;> decide
    | fail _ _ | trigger => exact Nat.le_succ 1
    | submit _ _ _ _ | claim _ _ _ | release _ _ _ => exact Nat.zero_le 2
  | createLease _ _ _ _ | revokeLease _ | syncReceive _ => exact Nat.zero_le 2

/-- Versions far from the bound. -/
theorem replaceable_of_young {q : TaskRouter} {req : Time × ApiRequest}
    (h : Interchangeable q.state req.2)
    (hyoung : ∀ x ∈ q.state.tasks.rows, x.version ≤ 9223372036854775805) : Replaceable q req := by
  refine ⟨h, fun k x hx => ?_⟩
  have hversion := hyoung x (Table.mem_of_get? hx)
  have hcounts := req.2.counts_le k
  omega

theorem Matches.map {r : Except PyError Response × StoreRouter}
    {q : Except PyError Response × TaskRouter} (h : Matches r q) :
    Matches (r.1.map ApiResponse.task, r.2) (q.1.map ApiResponse.task, q.2) := by
  have hmap : ∀ p : Except PyError Response, outcome (p.map ApiResponse.task) = outcome p := by
    intro p
    cases p <;> rfl
  refine ⟨?_, h.2⟩
  rw [hmap, hmap]
  exact h.1

open StoreRouter in
theorem handle_matches {r : StoreRouter} {q : TaskRouter} (now : Time)
    {request : TaskRouter.Request} (h : Agrees (ApiRequest.task request).counts r.state q.state)
    (hi : Interchangeable q.state (.task request)) :
    Matches (StoreRouter.handle now request r) (q.handle now request) := by
  cases request with
  | submit token title requires priority => exact submitTask_matches h hi.1 hi.2 title requires
  | complete t => exact completeTask_matches h hi
  | fail t reason => exact failTask_matches h reason
  | unblock t => exact unblockTask_matches h
  | advance t => exact manualAdvance_matches h hi
  | dependencies t deps => exact setDependencies_matches h hi
  | claim token t nodeId => exact claimTask_matches h hi token nodeId
  | release t nodeId reason => exact releaseTask_matches h hi reason
  | trigger => exact scheduleTrigger_matches h hi

/-- **One request.** -/
theorem handleApi_matches {r : StoreRouter} {q : TaskRouter}
    (h : Agrees (fun _ => 0) r.state q.state) {req : Time × ApiRequest} (hreq : Replaceable q req) :
    Matches (r.handleApi req.1 req.2) (q.handleApi req.1 req.2) := by
  obtain ⟨now, req⟩ := req
  obtain ⟨hi, hcounts⟩ := hreq
  cases req with
  | task request =>
    have hroom : Agrees (ApiRequest.task request).counts r.state q.state :=
      { h with room := fun k x hx => ⟨(h.room k x hx).1, hcounts k x hx⟩ }
    exact (handle_matches now hroom hi).map
  | createLease token taskId nodeId ttlSeconds =>
    rcases h.createLease now hi taskId nodeId (seconds ttlSeconds) with
      ⟨e, hs, ht⟩ | ⟨lease, store', state', hs, ht, hagrees⟩
    · simp only [StoreRouter.handleApi, TaskRouter.handleApi, hs, ht]
      exact ⟨rfl, h⟩
    · simp only [StoreRouter.handleApi, TaskRouter.handleApi, hs, ht]
      exact ⟨rfl, hagrees⟩
  | revokeLease leaseId =>
    refine ⟨?_, (h.revokeLease_state leaseId).revokeLease_store leaseId⟩
    show outcome (if (r.state.revokeLease leaseId).1 then _ else _) =
      outcome (if (q.state.revokeLease leaseId).1 then _ else _)
    rw [h.revokeLease_fst]
  | syncReceive msg =>
    obtain ⟨store', hs, hagrees⟩ := h.handleSyncMessage now hi
    simp only [StoreRouter.handleApi, hs]
    exact ⟨rfl, hagrees⟩

/-! ### Runs -/

/-- One request of a run, at its clock reading. -/
def StoreRouter.apiStep (r : StoreRouter) (req : Time × ApiRequest) : StoreRouter :=
  (r.handleApi req.1 req.2).2

/-- One request of a run, at its clock reading. -/
def TaskRouter.apiStep (r : TaskRouter) (req : Time × ApiRequest) : TaskRouter :=
  (r.handleApi req.1 req.2).2

/-- The task tables agree on status, assignee, dependencies, version and failure reason. -/
def TablesAgree (store : ClusterStore) (state : ClusterState) : Prop :=
  ∀ k, (store.tasks.get? k).map
      (fun r => (r.status, r.assignedTo, r.dependsOn, r.version, r.failReason)) =
    (state.tasks.get? k).map
      (fun t => (t.status.value, t.assignedTo, t.dependsOn, t.version, t.failReason))

theorem Agrees.tablesAgree {m : TaskId → Nat} {store : ClusterStore} {state : ClusterState}
    (h : Agrees m store state) : TablesAgree store state := by
  intro k
  rw [h.tasks, Option.map_map]
  rfl

/-- Over both stores each request of the run has the same outcome, and the task tables agree
after it. -/
def DropIn (nodes : Table Node) (manager : Option LeaseManager) (run : List (Time × ApiRequest)) :
    Prop :=
  (∀ l, l <+: run →
    TablesAgree (Run.exec StoreRouter.apiStep ⟨{ nodes := nodes }, manager⟩ l).state
      (Run.exec TaskRouter.apiStep ⟨{ nodes := nodes }, manager⟩ l).state) ∧
  ∀ l req, l ++ [req] <+: run →
    outcome ((Run.exec StoreRouter.apiStep ⟨{ nodes := nodes }, manager⟩ l).handleApi
        req.1 req.2).1 =
      outcome ((Run.exec TaskRouter.apiStep ⟨{ nodes := nodes }, manager⟩ l).handleApi
        req.1 req.2).1

theorem agrees_fresh (nodes : Table Node) :
    Agrees (fun _ => 0) { nodes := nodes } { nodes := nodes } :=
  ⟨rfl, rfl, fun _ => rfl, fun _ => rfl, rfl, fun k x hx => by cases hx⟩

/-- **Drop-in replacement.**  From fresh stores with the same nodes, every run of requests that
are all replaceable. -/
theorem dropIn_run (nodes : Table Node) (manager : Option LeaseManager)
    (run : List (Time × ApiRequest))
    (h : Run.EachStep TaskRouter.apiStep Replaceable ⟨{ nodes := nodes }, manager⟩ run) :
    DropIn nodes manager run := by
  obtain ⟨hstates, houtcomes⟩ := Run.simulates
    (fun (r : StoreRouter) (req : Time × ApiRequest) => outcome (r.handleApi req.1 req.2).1)
    (fun (q : TaskRouter) (req : Time × ApiRequest) => outcome (q.handleApi req.1 req.2).1)
    (fun (r q) req (hagrees : Agrees (fun _ => 0) r.state q.state) (hreq : Replaceable q req) =>
      handleApi_matches hagrees hreq)
    run ⟨{ nodes := nodes }, manager⟩ ⟨{ nodes := nodes }, manager⟩ (agrees_fresh nodes) h
  exact ⟨fun l hl => (hstates l hl).tablesAgree, houtcomes⟩

/-- Submitted, scheduled, completed. -/
theorem dropIn_run_example :
    DropIn TaskRouter.oneNode (some {}) [(1, .task (.submit "a" "build" [] 3)),
      (2, .task .trigger), (3, .task (.complete "task_a"))] := by
  refine dropIn_run TaskRouter.oneNode (some {}) [(1, .task (.submit "a" "build" [] 3)),
    (2, .task .trigger), (3, .task (.complete "task_a"))] ?_
  simp only [Run.eachStep_cons]
  refine ⟨replaceable_of_young ⟨by decide, fun _ => by decide⟩ (by decide),
    replaceable_of_young ?_ (by decide), replaceable_of_young (fun _ => ?_) (by decide),
    Run.eachStep_nil _⟩
  · show ∀ n ∈ ClusterState.onlineNodes _, n.load ≠ .nan
    decide
  · show ∀ n ∈ ClusterState.onlineNodes _, n.load ≠ .nan
    decide

/-- A ready task is claimed: over a `ClusterStore` the claim ends at the missing lock. -/
theorem claim_not_dropIn :
    ¬ DropIn TaskRouter.oneNode (some {}) [(1, .task (.submit "a" "build" [] 3)),
      (2, .task (.claim "l" "task_a" "n1"))] := by
  intro h
  have hclaim := h.2 [(1, .task (.submit "a" "build" [] 3))]
    (2, .task (.claim "l" "task_a" "n1")) (List.prefix_refl _)
  exact absurd hclaim (by decide)

end HermesCluster
