import HermesCluster.Core.Reschedule

/-!
# The recovery of `ClusterCore`

`Revoker`, `Rescheduler` and `RecoveryDetector` of `hermes_cluster/core/recovery.py`, over the
`ClusterStore` that `ClusterCore` gives them.  `reschedule_orphaned` writes the status of the
row, but the node only into the `Task` that `get_task` made for it.

`recovery_persisted_iff`: what the events of a call say of the tasks is in the table exactly if
each task the call gets to was on that very node before.

The recovery events are kept beside the tables.  Their key, a random token, is left out.
-/

namespace HermesCluster

/-- A store with its table of recovery events, oldest first. -/
structure LoggedStore where
  store : ClusterStore := {}
  recoveryEvents : List RecoveryEvent := []
deriving DecidableEq

/-- A program over both. -/
abbrev LoggedSession (α : Type) := Prog LoggedStore PyError α

namespace LoggedStore

def withStore (l : LoggedStore) (store : ClusterStore) : LoggedStore := { l with store := store }

/-- A method that uses the other tables. -/
def onStore {α : Type} (p : Session α) : LoggedSession α := p.zoom LoggedStore.store withStore

theorem run_onStore {α : Type} (p : Session α) (l : LoggedStore) :
    (onStore p).run l = ((p.run l.store).1, l.withStore (p.run l.store).2) := by
  refine Prog.run_zoom ?_ ?_ ?_ p l
  · exact fun _ _ => rfl
  · exact fun _ _ _ => rfl
  · exact fun _ => rfl

theorem run_onStore_of {α : Type} {p : Session α} {l : LoggedStore} {res : Except PyError α}
    {s' : ClusterStore} (h : p.run l.store = (res, s')) :
    (onStore p).run l = (res, l.withStore s') := by
  rw [run_onStore, h]

/-- `append_recovery_event` stamps the event with the clock. -/
def appendRecoveryEvent (now : Time) (event : RecoveryEvent) : LoggedSession Unit :=
  .write fun l => ((), { l with
    recoveryEvents := l.recoveryEvents ++ [{ event with timestamp := now }] })

end LoggedStore

def LoggedStore.logged (l : LoggedStore) (event : RecoveryEvent) : LoggedStore :=
  { l with recoveryEvents := l.recoveryEvents ++ [event] }

def Session.getAllNodes : Session (List Node) := .read fun s => s.getAllNodes

namespace CoreRecovery

open LoggedStore

/-! ### `Revoker` -/

/-- The event of a lease that was revoked. -/
def revokeEvent (now : Time) (nodeId : NodeId) (taskId : TaskId) : RecoveryEvent :=
  { taskId := taskId, nodeId := nodeId, action := "revoke_lease", status := "completed",
    timestamp := now
    message := some ("Revoked lease for task " ++ taskId ++ " on failed node " ++ nodeId) }

/-- The loop of `revoke_all_for_node` over the active leases. -/
def revokeEach (now : Time) (nodeId : NodeId) : List Lease → LoggedSession (List TaskId)
  | [] => return []
  | lease :: leases =>
    if lease.nodeId ≠ nodeId then revokeEach now nodeId leases
    else do
      let _ ← onStore (Session.revokeLease lease.id)
      appendRecoveryEvent now (revokeEvent now nodeId lease.taskId)
      let taskIds ← revokeEach now nodeId leases
      return lease.taskId :: taskIds

def revokeAllForNode (now : Time) (nodeId : NodeId) : LoggedSession (List TaskId) := do
  let activeLeases ← onStore (Session.getActiveLeases now)
  revokeEach now nodeId activeLeases

/-! ### `Rescheduler` -/

def rescheduleEvent (now : Time) (taskId : TaskId) (nodeId : NodeId) : RecoveryEvent :=
  { taskId := taskId, nodeId := nodeId, action := "reschedule", status := "completed",
    timestamp := now, message := some ("Rescheduled to node " ++ nodeId) }

def failedEvent (now : Time) (taskId : TaskId) : RecoveryEvent :=
  { taskId := taskId, action := "mark_failed", status := "completed", timestamp := now,
    message := some "No available node for reschedule" }

/-- The node the inner loop stops at. -/
def firstOnlineFit (requires : List Capability) (allNodes : List Node) : Option Node :=
  (allNodes.filter (·.status = .online)).find? (ClusterState.fits requires)

/-- The body of the loop of `reschedule_orphaned`: one more, or none, that was rescheduled.
The new `assigned_to` goes into the task read before, which nothing reads again. -/
def rescheduleOne (now : Time) (taskId : TaskId) : LoggedSession Nat := do
  match ← onStore (Session.getTask taskId) with
  | none => return 0
  | some task => do
    let allNodes ← onStore Session.getAllNodes
    match firstOnlineFit task.requires allNodes with
    | some node => do
      let _ ← onStore (Session.setTaskStatus now taskId .running)
      appendRecoveryEvent now (rescheduleEvent now taskId node.id)
      return 1
    | none => do
      let _ ← onStore
        (Session.setTaskStatus now taskId .failed "no available node for reschedule")
      appendRecoveryEvent now (failedEvent now taskId)
      return 0

def rescheduleOrphaned (now : Time) : List TaskId → LoggedSession Nat
  | [] => return 0
  | taskId :: taskIds => do
    let one ← rescheduleOne now taskId
    let rescheduled ← rescheduleOrphaned now taskIds
    return one + rescheduled

/-! ### `RecoveryDetector` -/

def recoveryEvent (now : Time) (nodeId : NodeId) (revoked rescheduled : Nat) : RecoveryEvent :=
  { nodeId := nodeId, action := "full_recovery", timestamp := now
    status := if rescheduled = revoked then "completed" else "partial"
    message := some ("Revoked " ++ toString revoked ++ " leases, rescheduled " ++
      toString rescheduled ++ " tasks") }

/-- The second step of `_recover_node`. -/
def recoverTasks (now : Time) (nodeId : NodeId) (revokedTaskIds : List TaskId) :
    LoggedSession Unit := do
  let rescheduled ← rescheduleOrphaned now revokedTaskIds
  appendRecoveryEvent now (recoveryEvent now nodeId revokedTaskIds.length rescheduled)

/-- `_recover_node` -/
def recoverNode (now : Time) (nodeId : NodeId) : LoggedSession Unit := do
  let revokedTaskIds ← revokeAllForNode now nodeId
  if revokedTaskIds ≠ [] then recoverTasks now nodeId revokedTaskIds
  else return ()

def handleOfflineSync (now : Time) (nodeId : NodeId) : LoggedSession Unit :=
  recoverNode now nodeId

open ClusterStore ClusterScheduler

variable {s s' s₁ s₂ : ClusterStore} {l l' : LoggedStore} {now : Time} {n : NodeId} {t : TaskId}
  {r : TaskRow} {p q : List TaskId}

/-! ### The revoker -/

/-- The tasks of the live leases on the node, one entry a lease. -/
def revokedTasks (s : ClusterStore) (now : Time) (n : NodeId) : List TaskId :=
  ((s.leases.rows.filter (·.live now)).filter (·.nodeId = n)).map Lease.taskId

theorem run_revokeEach (now : Time) (n : NodeId) (leases : List Lease) (l : LoggedStore) :
    ∃ l', (revokeEach now n leases).run l =
        (.ok ((leases.filter (·.nodeId = n)).map Lease.taskId), l') ∧
      SameTasks l.store l'.store ∧ l'.recoveryEvents = l.recoveryEvents ++
        ((leases.filter (·.nodeId = n)).map Lease.taskId).map (revokeEvent now n) := by
  induction leases generalizing l with
  | nil => exact ⟨l, rfl, ⟨rfl, rfl⟩, (List.append_nil _).symm⟩
  | cons lease leases ih =>
    rw [revokeEach]
    by_cases hn : lease.nodeId = n
    · have hrevoke : (onStore (Session.revokeLease lease.id)).run l =
          (.ok (l.store.revokeLease lease.id).1, l.withStore (l.store.revokeLease lease.id).2) :=
        run_onStore _ l
      have happend : ∀ l : LoggedStore,
          (appendRecoveryEvent now (revokeEvent now n lease.taskId)).run l =
            (.ok (), l.logged (revokeEvent now n lease.taskId)) := fun _ => rfl
      have hcons : (lease :: leases).filter (·.nodeId = n) =
          lease :: leases.filter (·.nodeId = n) := List.filter_cons_of_pos (decide_eq_true hn)
      obtain ⟨l', hrun, hsame, hevents⟩ :=
        ih ((l.withStore (l.store.revokeLease lease.id).2).logged (revokeEvent now n lease.taskId))
      rw [if_neg (not_not.mpr hn), Prog.run_bind_ok _ hrevoke, Prog.run_bind_ok _ (happend _),
        Prog.run_bind_ok _ hrun, hcons]
      refine ⟨l', rfl, hsame, hevents.trans ?_⟩
      exact List.append_assoc _ _ _
    · rw [if_pos hn, List.filter_cons_of_neg (by simpa using hn)]
      exact ih l

theorem run_revokeAllForNode (now : Time) (n : NodeId) (l : LoggedStore) :
    ∃ l', (revokeAllForNode now n).run l = (.ok (revokedTasks l.store now n), l') ∧
      SameTasks l.store l'.store ∧ l'.recoveryEvents = l.recoveryEvents ++
        (revokedTasks l.store now n).map (revokeEvent now n) := by
  obtain ⟨s₁, hread, htasks, hnodes⟩ := run_getActiveLeases l.store now
  have hactive : (onStore (Session.getActiveLeases now)).run l =
      (.ok (l.store.leases.rows.filter (·.live now)), l.withStore s₁) := run_onStore_of hread
  obtain ⟨l', hrun, ⟨htasks', hnodes'⟩, hevents⟩ :=
    run_revokeEach now n (l.store.leases.rows.filter (·.live now)) (l.withStore s₁)
  refine ⟨l', ?_, ⟨htasks'.trans htasks, hnodes'.trans hnodes⟩, hevents⟩
  rw [revokeAllForNode, Prog.run_bind_ok _ hactive, hrun]
  rfl

/-! ### The rescheduler, a list of tasks at a time -/

/-- Where the rescheduler leaves a task. -/
def outcomeStatus (s : ClusterStore) (requires : List Capability) : TaskStatus :=
  if (s.firstFit requires).isSome then .running else .failed

/-- The event the rescheduler appends for a task. -/
def outcome (s : ClusterStore) (now : Time) (t : TaskId) : Option RecoveryEvent :=
  (s.tasks.get? t).map fun r =>
    (s.firstFit r.requires).elim (failedEvent now t) fun node => rescheduleEvent now t node.id

/-- What `count` turns make of a row. -/
structure MovedRow (s : ClusterStore) (count : Nat) (r r' : TaskRow) : Prop where
  requires : r'.requires = r.requires
  assignedTo : r'.assignedTo = r.assignedTo
  version : r'.version = r.version + count
  status : r'.status = if count = 0 then r.status else (outcomeStatus s r.requires).value

/-- The tasks of the list had their turns, and nothing else changed. -/
structure Moved (s s' : ClusterStore) (p : List TaskId) : Prop where
  nodes : s'.nodes = s.nodes
  absent : ∀ k, s.tasks.get? k = none → s'.tasks.get? k = none
  present : ∀ k r, s.tasks.get? k = some r →
    ∃ r', s'.tasks.get? k = some r' ∧ MovedRow s (p.count k) r r'

/-- Each task of the list that is there can be read at all of its turns. -/
def GetsThrough (s : ClusterStore) (p : List TaskId) : Prop :=
  ∀ t ∈ p, ∀ r, s.tasks.get? t = some r → (∀ node ∈ s.nodes.rows, node.load ≠ .nan) ∧
    decodes r = true ∧ r.version + p.count t ≤ 9223372036854775808

theorem Moved.of_sameTasks (h : SameTasks s s') : Moved s s' [] := by
  refine ⟨h.2, fun k hk => ?_, fun k r hr => ⟨r, ?_, rfl, rfl, ?_, rfl⟩⟩
  · rw [h.1]
    exact hk
  · rw [h.1]
    exact hr
  · rw [List.count_nil]
    exact (Int.add_zero _).symm

theorem Moved.firstFit (h : Moved s s' p) (requires : List Capability) :
    s'.firstFit requires = s.firstFit requires := by
  rw [ClusterStore.firstFit, ClusterStore.firstFit, onlineRows, onlineRows, h.nodes]

theorem Moved.outcomeStatus (h : Moved s s' p) (requires : List Capability) :
    outcomeStatus s' requires = outcomeStatus s requires := by
  rw [CoreRecovery.outcomeStatus, CoreRecovery.outcomeStatus, h.firstFit]

theorem Moved.outcome (h : Moved s s' p) (now : Time) : outcome s' now = outcome s now := by
  funext t
  rw [CoreRecovery.outcome, CoreRecovery.outcome]
  cases hr : s.tasks.get? t with
  | none => rw [h.absent t hr]; rfl
  | some r =>
    obtain ⟨r', hr', hrow⟩ := h.present t r hr
    rw [hr', Option.map_some, Option.map_some, hrow.requires, h.firstFit]

/-- One list of turns after another. -/
theorem Moved.append (h : Moved s s₁ p) (h' : Moved s₁ s₂ q) : Moved s s₂ (p ++ q) := by
  refine ⟨h'.nodes.trans h.nodes, fun k hk => h'.absent k (h.absent k hk), fun k r hr => ?_⟩
  obtain ⟨r₁, hr₁, hrow⟩ := h.present k r hr
  obtain ⟨r₂, hr₂, hrow'⟩ := h'.present k r₁ hr₁
  refine ⟨r₂, hr₂, hrow'.requires.trans hrow.requires, hrow'.assignedTo.trans hrow.assignedTo,
    ?_, ?_⟩
  · rw [hrow'.version, hrow.version, List.count_append]
    omega
  · rw [hrow'.status, hrow.status, hrow.requires, h.outcomeStatus, List.count_append]
    by_cases hq : q.count k = 0
    · rw [if_pos hq, hq, Nat.add_zero]
    · rw [if_neg hq, if_neg (by omega)]

theorem GetsThrough.of_prefix (h : GetsThrough s q) (hp : p <+: q) : GetsThrough s p := by
  intro t ht r hr
  obtain ⟨hnodes, hd, hroom⟩ := h t (hp.subset ht) r hr
  have hcount : p.count t ≤ q.count t := hp.sublist.count_le t
  exact ⟨hnodes, hd, by omega⟩

/-- After turns that succeeded, the rows are read as the counts of all turns say. -/
theorem Moved.getsThrough_iff (h : Moved s s₁ p) (hp : GetsThrough s p) :
    GetsThrough s₁ q ↔ GetsThrough s (p ++ q) := by
  have hone : ∀ t ∈ q, ∀ r r₁, s.tasks.get? t = some r → MovedRow s (p.count t) r r₁ →
      r₁.version + q.count t ≤ 9223372036854775808 →
        (decodes r₁ = true ↔ decodes r = true) := by
    intro t ht r r₁ hr hrow hroom
    by_cases hc : p.count t = 0
    · have hst := hrow.status
      have hv := hrow.version
      rw [if_pos hc] at hst
      rw [hc, Nat.cast_zero, Int.add_zero] at hv
      rw [decodes, decodes, hst, hv]
    · obtain ⟨-, hd, -⟩ := hp t (List.count_pos_iff.mp (Nat.pos_of_ne_zero hc)) r hr
      have hst := hrow.status
      rw [if_neg hc] at hst
      refine iff_of_true (decodes_iff.mpr ⟨_, hst, ?_⟩) hd
      obtain ⟨-, -, hfits⟩ := decodes_iff.mp hd
      have hq : 0 < q.count t := List.count_pos_iff.mpr ht
      have hv := hrow.version
      rw [fits64_iff] at hfits ⊢
      omega
  refine ⟨fun hq t ht r hr => ?_, fun hpq t ht r₁ hr₁ => ?_⟩
  · by_cases htq : t ∈ q
    · obtain ⟨r₁, hr₁, hrow⟩ := h.present t r hr
      obtain ⟨hnodes, hd, hroom⟩ := hq t htq r₁ hr₁
      refine ⟨by rw [← h.nodes]; exact hnodes, (hone t htq r r₁ hr hrow hroom).mp hd, ?_⟩
      rw [hrow.version] at hroom
      rw [List.count_append]
      omega
    · rw [List.count_append, List.count_eq_zero_of_not_mem htq, Nat.add_zero]
      exact hp t ((List.mem_append.mp ht).resolve_right htq) r hr
  · cases hr : s.tasks.get? t with
    | none =>
      rw [h.absent t hr] at hr₁
      cases hr₁
    | some r =>
      obtain ⟨r', hr', hrow⟩ := h.present t r hr
      rw [hr₁] at hr'
      cases hr'
      obtain ⟨hnodes, hd, hroom⟩ := hpq t (List.mem_append_right p ht) r hr
      have hroom' : r₁.version + q.count t ≤ 9223372036854775808 := by
        rw [List.count_append] at hroom
        rw [hrow.version]
        omega
      exact ⟨by rw [h.nodes]; exact hnodes, (hone t ht r r₁ hr hrow hroom').mpr hd, hroom'⟩

/-! ### One turn -/

theorem getsThrough_singleton (hr : s.tasks.get? t = some r) : GetsThrough s [t] ↔
    (∀ node ∈ s.nodes.rows, node.load ≠ .nan) ∧ decodes r = true := by
  refine ⟨fun h => ?_, fun ⟨hnodes, hd⟩ k hk r' hr' => ?_⟩
  · obtain ⟨hnodes, hd, -⟩ := h t (List.mem_singleton_self t) r hr
    exact ⟨hnodes, hd⟩
  · rw [List.mem_singleton.mp hk] at hr' ⊢
    rw [hr] at hr'
    cases hr'
    obtain ⟨-, -, hfits⟩ := decodes_iff.mp hd
    rw [fits64_iff] at hfits
    refine ⟨hnodes, hd, ?_⟩
    rw [List.count_singleton_self]
    omega

/-- Writing the status that the nodes call for is a turn. -/
theorem moved_setTaskStatus (hr : s.tasks.get? t = some r) (hd : decodes r = true) (now : Time)
    (reason : String) :
    Moved s (s.setTaskStatus now t (outcomeStatus s r.requires) reason) [t] := by
  refine ⟨rfl, fun k hk => ?_, fun k r' hr' => ?_⟩
  · rw [get?_setTaskStatus, hk]
    split
    · rfl
    · rfl
  · rw [get?_setTaskStatus]
    by_cases hk : k = t
    · rw [hk] at hr' ⊢
      rw [hr] at hr'
      cases hr'
      obtain ⟨-, -, hfits⟩ := decodes_iff.mp hd
      rw [if_pos rfl, hr, List.count_singleton_self]
      exact ⟨_, rfl, rfl, rfl, bumped_of_fits hfits, rfl⟩
    · have hcount : [t].count k = 0 := List.count_eq_zero_of_not_mem
        fun hm => hk (List.mem_singleton.mp hm)
      rw [if_neg hk, hcount]
      exact ⟨r', hr', rfl, rfl, (Int.add_zero _).symm, rfl⟩

theorem run_rescheduleOne (hr : l.store.tasks.get? t = some r) (hd : decodes r = true)
    (hnodes : ∀ node ∈ l.store.nodes.rows, node.load ≠ .nan) (now : Time) :
    ∃ c l', (rescheduleOne now t).run l = (.ok c, l') ∧ Moved l.store l'.store [t] ∧
      l'.recoveryEvents = l.recoveryEvents ++ (outcome l.store now t).toList := by
  have hread : (onStore (Session.getTask t)).run l = (.ok (some (readRow r)), l) :=
    run_onStore_of (Session.run_getTask_ok (getTask_of_some hr hd))
  have hlist : (onStore Session.getAllNodes).run l = (.ok l.store.nodes.rows, l) :=
    run_onStore_of (Prog.run_read_ok (mapM_rowToNode_ok hnodes))
  have hset : ∀ (status : TaskStatus) (reason : String),
      (onStore (Session.setTaskStatus now t status reason)).run l =
        (.ok (l.store.tasks.get? t).isSome,
          l.withStore (l.store.setTaskStatus now t status reason)) :=
    fun _ _ => run_onStore _ l
  have hfirst : firstOnlineFit (readRow r).requires l.store.nodes.rows =
      l.store.firstFit r.requires := rfl
  have houtcome : outcome l.store now t = some ((l.store.firstFit r.requires).elim
      (failedEvent now t) fun node => rescheduleEvent now t node.id) := by
    rw [outcome, hr]
    rfl
  rw [rescheduleOne, Prog.run_bind_ok _ hread]
  dsimp only
  rw [Prog.run_bind_ok _ hlist, hfirst, houtcome]
  cases hf : l.store.firstFit r.requires with
  | none =>
    have hmoved := moved_setTaskStatus hr hd now "no available node for reschedule"
    rw [outcomeStatus, hf] at hmoved
    dsimp only
    rw [Prog.run_bind_ok _ (hset .failed "no available node for reschedule")]
    exact ⟨_, _, rfl, hmoved, rfl⟩
  | some node =>
    have hmoved := moved_setTaskStatus hr hd now ""
    rw [outcomeStatus, hf] at hmoved
    dsimp only
    rw [Prog.run_bind_ok _ (hset .running "")]
    exact ⟨_, _, rfl, hmoved, rfl⟩

theorem run_rescheduleOne_ok (h : GetsThrough l.store [t]) (now : Time) :
    ∃ c l', (rescheduleOne now t).run l = (.ok c, l') ∧ Moved l.store l'.store [t] ∧
      l'.recoveryEvents = l.recoveryEvents ++ (outcome l.store now t).toList := by
  cases hr : l.store.tasks.get? t with
  | some r =>
    obtain ⟨hnodes, hd⟩ := (getsThrough_singleton hr).mp h
    exact run_rescheduleOne hr hd hnodes now
  | none =>
    have hread : (onStore (Session.getTask t)).run l = (.ok none, l) :=
      run_onStore_of (Session.run_getTask_ok (getTask_of_none hr))
    have hmoved : Moved l.store l.store [t] := by
      refine ⟨rfl, fun _ hk => hk, fun k r hk => ⟨r, hk, rfl, rfl, ?_, ?_⟩⟩
      all_goals
        have hcount : [t].count k = 0 := List.count_eq_zero_of_not_mem fun hm => by
          rw [List.mem_singleton.mp hm, hr] at hk
          cases hk
        rw [hcount]
      · exact (Int.add_zero _).symm
      · rfl
    refine ⟨0, l, by rw [rescheduleOne, Prog.run_bind_ok _ hread]; rfl, hmoved, ?_⟩
    rw [outcome, hr]
    exact (List.append_nil _).symm

theorem run_rescheduleOne_raises (h : ¬ GetsThrough l.store [t]) (now : Time) :
    ∃ e, (rescheduleOne now t).run l = (.error e, l) := by
  cases hr : l.store.tasks.get? t with
  | none =>
    refine absurd (fun k hk r hk' => ?_) h
    rw [List.mem_singleton.mp hk, hr] at hk'
    cases hk'
  | some r =>
    rw [getsThrough_singleton hr] at h
    by_cases hd : decodes r = true
    · have hread : (onStore (Session.getTask t)).run l = (.ok (some (readRow r)), l) :=
        run_onStore_of (Session.run_getTask_ok (getTask_of_some hr hd))
      have hnodes : ¬ ∃ nodes, l.store.getAllNodes = .ok nodes := fun hok =>
        h ⟨mapM_rowToNode_iff.mp hok, hd⟩
      cases hlist : l.store.getAllNodes with
      | ok nodes => exact absurd ⟨nodes, hlist⟩ hnodes
      | error e =>
        have herror : (onStore Session.getAllNodes).run l = (.error e, l) :=
          run_onStore_of (Prog.run_read_error hlist)
        refine ⟨e, ?_⟩
        rw [rescheduleOne, Prog.run_bind_ok _ hread]
        dsimp only
        rw [Prog.run_bind_error _ herror]
    · obtain ⟨e, he⟩ := getTask_raises hr hd
      have herror : (onStore (Session.getTask t)).run l = (.error e, l) :=
        run_onStore_of (Session.run_getTask_error he)
      exact ⟨e, by rw [rescheduleOne, Prog.run_bind_error _ herror]⟩

/-! ### The whole list, and the call -/

/-- `q` is the part of the list that has its turns: the longest that gets through.  What the
rescheduler did from `l` to `l'` are these turns. -/
structure Progress (now : Time) (ids : List TaskId) (l l' : LoggedStore) (q : List TaskId) :
    Prop where
  turns : q <+: ids
  longest : ∀ p, p <+: ids → (p <+: q ↔ GetsThrough l.store p)
  moved : Moved l.store l'.store q
  events : l'.recoveryEvents = l.recoveryEvents ++ q.filterMap (outcome l.store now)

theorem getsThrough_nil (s : ClusterStore) : GetsThrough s [] :=
  fun _ ht => absurd ht List.not_mem_nil

theorem Progress.stopped (now : Time) {ids : List TaskId}
    (h : ∀ p, p <+: ids → GetsThrough l.store p → p = []) : Progress now ids l l [] where
  turns := List.nil_prefix
  longest := fun p hp => by
    refine ⟨fun hnil => ?_, fun hgets => ?_⟩
    · rw [List.prefix_nil.mp hnil]
      exact getsThrough_nil l.store
    · rw [h p hp hgets]
  moved := Moved.of_sameTasks ⟨rfl, rfl⟩
  events := (List.append_nil _).symm

/-- A turn that succeeds, and then those of the rest. -/
theorem Progress.cons {l₁ : LoggedStore} {ids : List TaskId} (hone : GetsThrough l.store [t])
    (hmoved : Moved l.store l₁.store [t])
    (hevents : l₁.recoveryEvents = l.recoveryEvents ++ (outcome l.store now t).toList)
    (h : Progress now ids l₁ l' q) : Progress now (t :: ids) l l' (t :: q) where
  turns := List.cons_prefix_cons.mpr ⟨rfl, h.turns⟩
  longest := by
    intro p hp
    cases p with
    | nil => exact iff_of_true List.nil_prefix (getsThrough_nil l.store)
    | cons k p =>
      obtain ⟨rfl, hp'⟩ := List.cons_prefix_cons.mp hp
      rw [List.cons_prefix_cons, and_iff_right rfl, h.longest p hp']
      exact hmoved.getsThrough_iff hone
  moved := hmoved.append h.moved
  events := by
    rw [h.events, hevents, hmoved.outcome, List.append_assoc]
    cases ho : outcome l.store now t with
    | none => rw [List.filterMap_cons_none ho]; rfl
    | some e => rw [List.filterMap_cons_some ho]; rfl

/-- **The rescheduler** gives the tasks of its list their turns, up to the first that cannot be
read. -/
theorem progress_rescheduleOrphaned (now : Time) (ids : List TaskId) (l : LoggedStore) :
    ∃ q, Progress now ids l ((rescheduleOrphaned now ids).run l).2 q := by
  induction ids generalizing l with
  | nil => exact ⟨[], .stopped now fun p hp _ => List.prefix_nil.mp hp⟩
  | cons t ids ih =>
    by_cases hone : GetsThrough l.store [t]
    · obtain ⟨c, l₁, hrun, hmoved, hevents⟩ := run_rescheduleOne_ok hone now
      obtain ⟨q, hq⟩ := ih l₁
      refine ⟨t :: q, ?_⟩
      rw [rescheduleOrphaned, Prog.run_bind_ok _ hrun, Prog.run_bind_pure_snd]
      exact .cons hone hmoved hevents hq
    · obtain ⟨e, hrun⟩ := run_rescheduleOne_raises hone now
      refine ⟨[], ?_⟩
      rw [rescheduleOrphaned, Prog.run_bind_error _ hrun]
      refine .stopped now fun p hp hgets => ?_
      cases p with
      | nil => rfl
      | cons k p =>
        obtain ⟨rfl, -⟩ := List.cons_prefix_cons.mp hp
        exact absurd (hgets.of_prefix (List.cons_prefix_cons.mpr ⟨rfl, List.nil_prefix⟩)) hone

/-- What the call does: the turns of the revoked tasks, and beside their events only others. -/
structure Handled (now : Time) (n : NodeId) (l l' : LoggedStore) (q : List TaskId) : Prop where
  turns : q <+: revokedTasks l.store now n
  longest : ∀ p, p <+: revokedTasks l.store now n → (p <+: q ↔ GetsThrough l.store p)
  moved : Moved l.store l'.store q
  events : ∃ new, l'.recoveryEvents = l.recoveryEvents ++ new ∧
    ∀ e, e.action = "reschedule" → (e ∈ new ↔ e ∈ q.filterMap (outcome l.store now))

/-- After the rescheduler, at most one event that is none of a task. -/
theorem run_recoverTasks (now : Time) (n : NodeId) (ids : List TaskId) (l : LoggedStore) :
    ∃ tail, (∀ e ∈ tail, e.action ≠ "reschedule") ∧
      ((recoverTasks now n ids).run l).2.store = ((rescheduleOrphaned now ids).run l).2.store ∧
      ((recoverTasks now n ids).run l).2.recoveryEvents =
        ((rescheduleOrphaned now ids).run l).2.recoveryEvents ++ tail := by
  rcases hrun : (rescheduleOrphaned now ids).run l with ⟨e | c, l'⟩
  · refine ⟨[], fun _ he => absurd he List.not_mem_nil, ?_, ?_⟩
    · rw [recoverTasks, Prog.run_bind_error _ hrun]
    · rw [recoverTasks, Prog.run_bind_error _ hrun, List.append_nil]
  · have hne : "full_recovery" ≠ "reschedule" := by decide
    refine ⟨[recoveryEvent now n ids.length c], fun e he => ?_, ?_, ?_⟩
    · rw [List.mem_singleton.mp he]
      exact hne
    · rw [recoverTasks, Prog.run_bind_ok _ hrun]
      rfl
    · rw [recoverTasks, Prog.run_bind_ok _ hrun]
      rfl

theorem handled_handleOfflineSync (now : Time) (n : NodeId) (l : LoggedStore) :
    ∃ q, Handled now n l ((handleOfflineSync now n).run l).2 q := by
  have hrevoked : ∀ e ∈ (revokedTasks l.store now n).map (revokeEvent now n),
      e.action ≠ "reschedule" := by
    have hne : "revoke_lease" ≠ "reschedule" := by decide
    intro e he
    obtain ⟨t, -, rfl⟩ := List.mem_map.mp he
    exact hne
  obtain ⟨l₁, hrun, hsame, hevents⟩ := run_revokeAllForNode now n l
  have hmoved := Moved.of_sameTasks hsame
  have hgets : ∀ p, GetsThrough l₁.store p ↔ GetsThrough l.store p :=
    fun p => hmoved.getsThrough_iff (getsThrough_nil l.store)
  rw [handleOfflineSync, recoverNode, Prog.run_bind_ok _ hrun]
  by_cases hids : revokedTasks l.store now n = []
  · rw [if_neg (not_not.mpr hids)]
    refine ⟨[], List.nil_prefix, fun p hp => ?_, hmoved, _, hevents, fun e he => ?_⟩
    · rw [hids, List.prefix_nil] at hp
      rw [hp]
      exact iff_of_true List.nil_prefix (getsThrough_nil l.store)
    · exact iff_of_false (fun hm => hrevoked e hm he) List.not_mem_nil
  · obtain ⟨q, hq⟩ := progress_rescheduleOrphaned now (revokedTasks l.store now n) l₁
    obtain ⟨tail, htail, hstore, hlog⟩ := run_recoverTasks now n (revokedTasks l.store now n) l₁
    rw [if_pos hids]
    refine ⟨q, hq.turns, fun p hp => (hq.longest p hp).trans (hgets p), ?_,
      (revokedTasks l.store now n).map (revokeEvent now n) ++
        (q.filterMap (outcome l₁.store now) ++ tail), ?_, fun e he => ?_⟩
    · rw [hstore]
      exact hmoved.append hq.moved
    · rw [hlog, hq.events, hevents, List.append_assoc, List.append_assoc]
    · rw [List.mem_append, List.mem_append, hmoved.outcome]
      refine ⟨fun hor => ?_, fun hm => .inr (.inl hm)⟩
      rcases hor with hm | hm | hm
      · exact absurd he (hrevoked e hm)
      · exact hm
      · exact absurd he (htail e hm)

/-! ### What is logged and what is stored -/

/-- Every task for which the call appended a `reschedule` event is stored as running on the node
of the event, and that node is not `n`. -/
def Persisted (n : NodeId) (l l' : LoggedStore) : Prop :=
  ∃ new, l'.recoveryEvents = l.recoveryEvents ++ new ∧ ∀ e ∈ new, e.action = "reschedule" →
    e.nodeId ≠ n ∧ ∃ r, l'.store.tasks.get? e.taskId = some r ∧
      r.status = TaskStatus.running.value ∧ r.assignedTo = some e.nodeId

/-- Each task the call gets to, and finds a node for, was assigned to that node before, and the
node is not `n`. -/
def AlreadyThere (s : ClusterStore) (now : Time) (n : NodeId) : Prop :=
  ∀ p t, p ++ [t] <+: revokedTasks s now n → GetsThrough s (p ++ [t]) → ∀ r node,
    s.tasks.get? t = some r → s.firstFit r.requires = some node →
      node.id ≠ n ∧ r.assignedTo = some node.id

theorem outcome_of_fit {node : Node} (hr : s.tasks.get? t = some r)
    (hf : s.firstFit r.requires = some node) :
    outcome s now t = some (rescheduleEvent now t node.id) := by
  rw [outcome, hr, Option.map_some, hf]
  rfl

theorem outcome_reschedule {e : RecoveryEvent} (h : outcome s now t = some e)
    (he : e.action = "reschedule") : ∃ r node, s.tasks.get? t = some r ∧
      s.firstFit r.requires = some node ∧ e = rescheduleEvent now t node.id := by
  obtain ⟨r, hr, hevent⟩ := Option.map_eq_some_iff.mp h
  cases hf : s.firstFit r.requires with
  | none =>
    have hne : "mark_failed" ≠ "reschedule" := by decide
    rw [hf] at hevent
    subst hevent
    exact absurd he hne
  | some node =>
    rw [hf] at hevent
    exact ⟨r, node, hr, hf, hevent.symm⟩

/-- A task that had a turn keeps its assignee, and runs if there is a node for it. -/
theorem Moved.running {node : Node} (h : Moved s s' p) (ht : t ∈ p)
    (hr : s.tasks.get? t = some r) (hf : s.firstFit r.requires = some node) :
    ∃ r', s'.tasks.get? t = some r' ∧ r'.status = TaskStatus.running.value ∧
      r'.assignedTo = r.assignedTo := by
  obtain ⟨r', hr', hrow⟩ := h.present t r hr
  have hcount : p.count t ≠ 0 := (List.count_pos_iff.mpr ht).ne'
  refine ⟨r', hr', ?_, hrow.assignedTo⟩
  rw [hrow.status, if_neg hcount, CoreRecovery.outcomeStatus, hf]
  rfl

/-- **What recovery logs is persisted** in every state, for every node, exactly if each task the
call reschedules was on its new node before. -/
theorem recovery_persisted_iff (l : LoggedStore) (now : Time) (n : NodeId) :
    Persisted n l ((handleOfflineSync now n).run l).2 ↔ AlreadyThere l.store now n := by
  obtain ⟨q, h⟩ := handled_handleOfflineSync now n l
  obtain ⟨new, hnew, hevents⟩ := h.events
  refine ⟨?_, fun hthere => ⟨new, hnew, fun e he haction => ?_⟩⟩
  · rintro ⟨new', hnew', hall⟩ p t hp hgets r node hr hf
    obtain rfl : new' = new := List.append_cancel_left (hnew'.symm.trans hnew)
    have ht : t ∈ q :=
      ((h.longest _ hp).mpr hgets).subset (List.mem_append_right p List.mem_cons_self)
    have hmem : rescheduleEvent now t node.id ∈ new' :=
      (hevents _ rfl).mpr (List.mem_filterMap.mpr ⟨t, ht, outcome_of_fit hr hf⟩)
    obtain ⟨hne, r', hr', -, hassigned⟩ := hall _ hmem rfl
    obtain ⟨r'', hr'', -, hsame⟩ := h.moved.running ht hr hf
    have hget : ((handleOfflineSync now n).run l).2.store.tasks.get? t = some r' := hr'
    rw [hr''] at hget
    cases hget
    exact ⟨hne, hsame.symm.trans hassigned⟩
  · obtain ⟨t, ht, hout⟩ := List.mem_filterMap.mp ((hevents e haction).mp he)
    obtain ⟨r, node, hr, hf, rfl⟩ := outcome_reschedule hout haction
    obtain ⟨p, rest, hsplit⟩ := List.append_of_mem ht
    have hp : p ++ [t] <+: q := ⟨rest, by rw [hsplit, List.append_assoc]; rfl⟩
    have hids := hp.trans h.turns
    obtain ⟨hne, hassigned⟩ := hthere p t hids ((h.longest _ hids).mp hp) r node hr hf
    obtain ⟨r', hr', hrunning, hsame⟩ := h.moved.running ht hr hf
    exact ⟨hne, r', hr', hrunning, hsame.trans hassigned⟩

/-- A task that runs on `n1` under a lease, and another node that is online. -/
def failingStore : LoggedStore where
  store :=
    { nodes := (Table.empty.put
        { id := "n1", name := "worker", status := .offline, lastHeartbeat := ⟨0, none⟩ }).put
        { id := "n2", name := "worker", lastHeartbeat := ⟨0, none⟩ }
      tasks := Table.empty.put
        { id := "task_a", title := "build", status := "running", assignedTo := some "n1",
          createdAt := 1, updatedAt := 1, version := 2 }
      leases := Table.empty.put
        { id := "lease_a", taskId := "task_a", nodeId := "n1", createdAt := 1, expiresAt := 100,
          status := .active } }

/-- The event says `n2`, and the row still says `n1`. -/
theorem recovery_not_persisted :
    (rescheduleEvent 2 "task_a" "n2") ∈
        ((handleOfflineSync 2 "n1").run failingStore).2.recoveryEvents ∧
      (((handleOfflineSync 2 "n1").run failingStore).2.store.tasks.get? "task_a").map
        TaskRow.assignedTo = some (some "n1") ∧
      ¬ Persisted "n1" failingStore ((handleOfflineSync 2 "n1").run failingStore).2 := by
  have hlogged : (rescheduleEvent 2 "task_a" "n2") ∈
      ((handleOfflineSync 2 "n1").run failingStore).2.recoveryEvents := by decide +kernel
  have hstored : (((handleOfflineSync 2 "n1").run failingStore).2.store.tasks.get? "task_a").map
      TaskRow.assignedTo = some (some "n1") := by decide +kernel
  refine ⟨hlogged, hstored, ?_⟩
  rintro ⟨new, hnew, hall⟩
  rw [hnew] at hlogged
  obtain ⟨-, r, hr, -, hassigned⟩ := hall _ hlogged rfl
  have hr' : ((handleOfflineSync 2 "n1").run failingStore).2.store.tasks.get? "task_a" =
      some r := hr
  rw [hr', Option.map_some, hassigned] at hstored
  exact absurd hstored (by decide)

end CoreRecovery

end HermesCluster
