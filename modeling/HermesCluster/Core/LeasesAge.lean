import HermesCluster.Core.Threads
import HermesCluster.Task.Rules

/-!
# Leases only age

A lease is created active and on a node.  After that no method of the store or of `TaskManager`
makes it active again, moves it to another node or brings it back once it is deleted:
`LeasesAge` says so of given leases, and holds of every access of a program that does not create
one of them.

* `TaskOp.leasesAge`, `CoreCall.steady`: the calls, one rule for each way to build a program.
-/

namespace HermesCluster

namespace ClusterStore

/-- None of the leases `ids` comes, moves to another node or becomes active. -/
def LeasesAge (ids : List LeaseId) (s s' : ClusterStore) : Prop :=
  ∀ id ∈ ids, ∀ l', s'.leases.get? id = some l' → ∃ l, s.leases.get? id = some l ∧
    l.nodeId = l'.nodeId ∧ (l'.status = .active → l.status = .active)

variable {ids : List LeaseId} {s s' : ClusterStore}

namespace LeasesAge

theorem refl (s : ClusterStore) : LeasesAge ids s s := fun _ _ l hl => ⟨l, hl, rfl, id⟩

theorem trans (a b c : ClusterStore) (h₁ : LeasesAge ids a b) (h₂ : LeasesAge ids b c) :
    LeasesAge ids a c := by
  intro id hid l₂ hl₂
  obtain ⟨l₁, hl₁, hnode, hactive⟩ := h₂ id hid l₂ hl₂
  obtain ⟨l, hl, hnode', hactive'⟩ := h₁ id hid l₁ hl₁
  exact ⟨l, hl, hnode'.trans hnode, hactive' ∘ hactive⟩

theorem of_leases (h : s'.leases = s.leases) : LeasesAge ids s s' := by
  intro id _ l hl
  rw [h] at hl
  exact ⟨l, hl, rfl, fun ha => ha⟩

/-- An update that leaves the node and makes nothing active. -/
theorem of_map {f : Lease → Lease} (hnode : ∀ l, (f l).nodeId = l.nodeId)
    (hactive : ∀ l, (f l).status = .active → l.status = .active)
    (h : ∀ k, s'.leases.get? k = (s.leases.get? k).map f ∨
      s'.leases.get? k = s.leases.get? k) : LeasesAge ids s s' := by
  intro id _ l' hl'
  rcases h id with hmap | hsame
  · rw [hmap] at hl'
    obtain ⟨l, hl, rfl⟩ := Option.map_eq_some_iff.mp hl'
    exact ⟨l, hl, (hnode l).symm, hactive l⟩
  · rw [hsame] at hl'
    exact ⟨l', hl', rfl, fun ha => ha⟩

theorem revokeLease (s : ClusterStore) (id : LeaseId) : LeasesAge ids s (s.revokeLease id).2 := by
  refine of_map (f := Lease.revoked) (fun _ => rfl) (fun l h => by cases h) fun k => ?_
  have hget : (s.revokeLease id).2.leases.get? k =
      if k = id then (s.leases.get? k).map Lease.revoked else s.leases.get? k :=
    Table.get?_modify _ _ _ Lease.key_revoked _
  rw [hget]
  split
  · exact .inl rfl
  · exact .inr rfl

theorem markExpired (s : ClusterStore) (expired : List LeaseId) :
    LeasesAge ids s (s.markExpired expired) := by
  refine of_map (f := markedExpired expired) (fun l => ?_) (fun l h => ?_) fun k => .inl ?_
  · rw [markedExpired]
    split <;> rfl
  · rw [markedExpired] at h
    split at h
    · cases h
    · exact h
  · exact Table.get?_mapRows _ _ (key_markedExpired expired) k

theorem deleteTasks (s : ClusterStore) (tasks : List TaskId) :
    LeasesAge ids s (s.deleteTasks tasks) := by
  intro id _ l' hl'
  have hget : (s.leases.delete (·.taskId ∈ tasks)).get? id = some l' := hl'
  rw [Table.get?_delete] at hget
  exact ⟨l', (Option.filter_eq_some_iff.mp hget).1, rfl, fun ha => ha⟩

/-- A new lease is none of those. -/
theorem createLease {now : Time} {token : String} {t : TaskId} {n : NodeId} {ttl : Duration}
    {l : Lease} (hnew : generateId "lease" token ∉ ids)
    (h : s.createLease now token t n ttl = .ok (l, s')) : LeasesAge ids s s' := by
  obtain ⟨rfl, rfl⟩ := createLease_inv h
  intro id hid l' hl'
  have hne : id ≠ generateId "lease" token := fun he => hnew (he ▸ hid)
  rw [Table.get?_put, key_lease, if_neg hne] at hl'
  exact ⟨l', hl', rfl, fun ha => ha⟩

end LeasesAge

end ClusterStore

open ClusterStore

/-! ### The methods of the store -/

variable {ids : List LeaseId} {now : Time}

/-- A transaction that writes no lease. -/
theorem Session.leasesAge_write {α : Type} {f : ClusterStore → α × ClusterStore}
    (h : ∀ s, (f s).2.leases = s.leases) : (Prog.write f : Session α).Each (LeasesAge ids) :=
  Prog.each_write fun s => .of_leases (h s)

namespace Session

open Prog

@[simp] theorem leasesAge_getTask (t : TaskId) : (getTask t).Each (LeasesAge ids) := each_read _

@[simp] theorem leasesAge_getAllTasks : getAllTasks.Each (LeasesAge ids) := each_read _

@[simp] theorem leasesAge_getNode (n : NodeId) : (getNode n).Each (LeasesAge ids) := each_read _

@[simp] theorem leasesAge_setTaskStatus (t : TaskId) (status : TaskStatus) (reason : String) :
    (setTaskStatus now t status reason).Each (LeasesAge ids) := leasesAge_write fun _ => rfl

@[simp] theorem leasesAge_setDependencies (t : TaskId) (deps : List TaskId) :
    (setDependencies now t deps).Each (LeasesAge ids) := leasesAge_write fun _ => rfl

@[simp] theorem leasesAge_triggerPendingTasks :
    (triggerPendingTasks now).Each (LeasesAge ids) :=
  leasesAge_write fun s => look_triggerPendingTasks ClusterStore.leases (fun _ _ => rfl) s

@[simp] theorem leasesAge_schedulePending : (schedulePending now).Each (LeasesAge ids) :=
  each_tx fun _ _ _ h => .of_leases
    (look_schedulePending ClusterStore.leases (fun _ _ _ _ => rfl) h)

@[simp] theorem leasesAge_revokeLease (id : LeaseId) :
    (Session.revokeLease id).Each (LeasesAge ids) := each_write fun s => .revokeLease s id

theorem leasesAge_createLease {token : String} (hnew : generateId "lease" token ∉ ids) (t : TaskId)
    (n : NodeId) (ttl : Duration) : (createLease now token t n ttl).Each (LeasesAge ids) := by
  rw [createLease]
  exact (each_read _).bind fun _ => each_tx fun _ _ _ h => .createLease hnew h

theorem leasesAge_createTask (t : TaskId) (title : String) (requires : List Capability)
    (priority : Int) : (createTask now t title requires priority).Each (LeasesAge ids) := by
  rw [createTask]
  refine (each_tx fun s _ s' h => .of_leases ?_).bind fun _ =>
    (leasesAge_getTask t).bind fun _ => each_pure _
  rw [ClusterStore.createTask] at h
  split at h
  · obtain ⟨-, rfl⟩ := Prod.mk.inj (Except.ok.inj h)
    rfl
  · cases h

theorem leasesAge_handleSyncMessage (msg : SyncMessage) :
    (handleSyncMessage now msg).Each (LeasesAge ids) := by
  rw [handleSyncMessage]
  refine (each_read _).bind fun _ => .ite (fun _ => each_pure _) fun _ => ?_
  refine each_tx fun s _ s' h => .of_leases ?_
  rcases handleSyncMessage_inv h with rfl | rfl
  · rfl
  · rw [logged]
    cases msg.taskState with
    | none => rfl
    | some ts =>
      dsimp only
      rw [applyTaskState]
      split <;> rfl

theorem leasesAge_handleBatchSync (messages : List SyncMessage) :
    (handleBatchSync now messages).Each (LeasesAge ids) := by
  induction messages with
  | nil => exact each_pure _
  | cons msg messages ih =>
    exact (leasesAge_handleSyncMessage msg).bind fun _ => ih.bind fun _ => each_pure _

end Session

/-! ### `TaskManager` -/

namespace TaskManager

open Prog Session

theorem leasesAge_assign (t : TaskId) (assignTo : Option NodeId) :
    (assign now t assignTo).Each (LeasesAge ids) := by
  rw [assign]
  split
  · exact each_pure _
  · refine (leasesAge_getNode _).bind fun _ => .ite (fun _ => each_raise _) fun _ => ?_
    exact (leasesAge_setTaskStatus t _ _).bind fun _ => leasesAge_write fun _ => rfl

theorem leasesAge_createTask (token title : String) (requires : List Capability) (priority : Int)
    (deps : List TaskId) (assignTo : Option NodeId) :
    (createTask now token title requires priority deps assignTo).Each (LeasesAge ids) := by
  rw [createTask]
  refine .ite (fun _ => each_raise _) fun _ => .ite (fun _ => each_raise _) fun _ => ?_
  refine (Session.leasesAge_createTask _ _ _ _).bind fun _ => .bind ?_ fun _ => ?_
  · rw [addDependencies]
    exact .ite (fun _ => each_pure _) fun _ =>
      (leasesAge_setDependencies _ _).bind fun _ => each_pure _
  · exact (leasesAge_assign _ _).bind fun _ => (leasesAge_getTask _).bind fun _ => each_pure _

theorem leasesAge_cancelTask (t : TaskId) : (cancelTask now t).Each (LeasesAge ids) := by
  rw [cancelTask]
  refine (leasesAge_getTask t).bind fun task => ?_
  cases task with
  | none => exact each_pure _
  | some task =>
    exact .ite (fun _ => each_pure _) fun _ =>
      (leasesAge_setTaskStatus t _ _).bind fun _ => each_pure _

theorem leasesAge_deleteTask (t : TaskId) : (deleteTask t).Each (LeasesAge ids) := by
  rw [deleteTask]
  refine (leasesAge_getTask t).bind fun task => ?_
  cases task with
  | none => exact each_pure _
  | some task =>
    exact .ite (fun _ => each_pure _) fun _ =>
      (each_write fun s => .deleteTasks s [t]).bind fun _ => each_pure _

theorem leasesAge_scheduleTaskToNode (t : TaskId) (n : NodeId) :
    (scheduleTaskToNode now t n).Each (LeasesAge ids) := by
  rw [scheduleTaskToNode]
  refine (leasesAge_getTask t).bind fun task => ?_
  cases task with
  | none => exact each_pure _
  | some task =>
    refine .ite (fun _ => each_pure _) fun _ => (leasesAge_getNode n).bind fun node => ?_
    cases node with
    | none => exact each_pure _
    | some node =>
      refine .ite (fun _ => each_pure _) fun _ => .ite (fun _ => each_pure _) fun _ => ?_
      exact (leasesAge_write fun _ => rfl).bind fun _ => each_pure _

end TaskManager

open Prog Session TaskManager in
/-- **The methods of `TaskManager`.** -/
theorem TaskOp.leasesAge (call : TaskOp) : (call.program now).Each (LeasesAge ids) := by
  cases call with
  | create token title requires priority deps assignTo =>
    exact (leasesAge_createTask token title requires priority deps assignTo).bind fun _ =>
      each_pure _
  | duplicate token t titleSuffix =>
    refine .bind ((leasesAge_getTask t).bind fun task => ?_) fun _ => each_pure _
    cases task with
    | none => exact each_pure _
    | some task => exact (leasesAge_createTask _ _ _ _ _ _).bind fun _ => each_pure _
  | update t title priority requires deps =>
    refine .bind ((leasesAge_getTask t).bind fun task => ?_) fun _ => each_pure _
    cases task with
    | none => exact each_pure _
    | some task =>
      refine (each_tx fun s _ s' h => .of_leases ?_).bind fun _ => leasesAge_getTask t
      rw [ClusterStore.updateTask] at h
      split at h
      · cases h
      split at h
      · cases h
      · obtain ⟨-, rfl⟩ := Prod.mk.inj (Except.ok.inj h)
        rfl
  | cancel t => exact (leasesAge_cancelTask t).bind fun _ => each_pure _
  | retry t =>
    refine .bind ((leasesAge_getTask t).bind fun task => ?_) fun _ => each_pure _
    cases task with
    | none => exact each_pure _
    | some task =>
      refine .ite (fun _ => each_pure _) fun _ => (leasesAge_setTaskStatus t _ _).bind fun _ => ?_
      exact leasesAge_triggerPendingTasks.bind fun _ => leasesAge_getTask t
  | delete t => exact (leasesAge_deleteTask t).bind fun _ => each_pure _
  | purge older =>
    refine .bind ((each_read _).bind fun cutoff => ?_) fun _ => each_pure _
    exact each_write fun s => .deleteTasks s _
  | autoSchedule =>
    refine .bind ?_ fun _ => each_pure _
    exact leasesAge_triggerPendingTasks.bind fun _ => leasesAge_schedulePending.bind fun _ =>
      leasesAge_getAllTasks.bind fun _ => each_pure _
  | scheduleTo t n => exact (leasesAge_scheduleTaskToNode t n).bind fun _ => each_pure _
  | bulkCreate tasks =>
    refine .bind ?_ fun _ => each_pure _
    induction tasks with
    | nil => exact each_pure _
    | cons new tasks ih =>
      rw [TaskManager.bulkCreate]
      exact .ite (fun _ => ih) fun _ =>
        (leasesAge_createTask _ _ _ _ _ _).bind fun _ => ih.bind fun _ => each_pure _
  | bulkCancel tasks =>
    refine .bind ?_ fun _ => each_pure _
    induction tasks with
    | nil => exact each_pure _
    | cons t tasks ih => exact (leasesAge_cancelTask t).bind fun _ => ih.bind fun _ => each_pure _
  | bulkDelete tasks =>
    refine .bind ?_ fun _ => each_pure _
    induction tasks with
    | nil => exact each_pure _
    | cons t tasks ih => exact (leasesAge_deleteTask t).bind fun _ => ih.bind fun _ => each_pure _

/-! ### `ClusterCore` -/

namespace WorkflowResolver

open Prog Session

theorem leasesAge_checkDependencies (deps : List TaskId) (allDone : Bool) :
    (checkDependencies deps allDone).Each (LeasesAge ids) := by
  induction deps generalizing allDone with
  | nil => exact each_pure _
  | cons d deps ih =>
    refine (leasesAge_getTask d).bind fun task => ?_
    cases task with
    | none => exact ih false
    | some task => exact .ite (fun _ => each_pure _) fun _ => ih _

theorem leasesAge_resolveDependencies (t : TaskId) :
    (resolveDependencies now t).Each (LeasesAge ids) := by
  rw [resolveDependencies]
  refine (leasesAge_getTask t).bind fun task => ?_
  cases task with
  | none => exact each_pure _
  | some task =>
    refine .ite (fun _ => each_pure _) fun _ => .ite (fun _ => ?_) fun _ => ?_
    · exact (leasesAge_setTaskStatus t _ _).bind fun _ => each_pure _
    refine (leasesAge_checkDependencies _ _).bind fun checked => .ite (fun _ => ?_) fun _ => ?_
    · exact (leasesAge_setTaskStatus t _ _).bind fun _ => each_pure _
    · exact .ite (fun _ => (leasesAge_setTaskStatus t _ _).bind fun _ => each_pure _)
        fun _ => each_pure _

theorem leasesAge_resolveAll (c : TaskId) (status : TaskStatus) (tasks : List Task) :
    (resolveAll now c status tasks).Each (LeasesAge ids) := by
  induction tasks with
  | nil => exact each_pure _
  | cons task tasks ih =>
    rw [resolveAll]
    refine .ite (fun _ => ih) fun _ => .ite (fun _ => ih) fun _ => ?_
    exact (leasesAge_resolveDependencies _).bind fun _ => ih.bind fun _ => each_pure _

theorem leasesAge_cascade {propagate : TaskId → Session (Option (List TaskId))}
    (h : ∀ t, (propagate t).Each (LeasesAge ids)) (turns : Nat) (tasks : List TaskId) :
    (cascade propagate turns tasks).Each (LeasesAge ids) := by
  induction turns generalizing tasks with
  | zero => cases tasks <;> exact each_pure _
  | succ turns ih =>
    cases tasks with
    | nil => exact each_pure _
    | cons t tasks =>
      refine (h t).bind fun inner => ?_
      cases inner with
      | none => exact each_pure _
      | some inner => exact (ih _).bind fun _ => each_pure _

theorem leasesAge_propagate (turns depth : Nat) (t : TaskId) :
    (propagate now turns depth t).Each (LeasesAge ids) := by
  induction depth generalizing t with
  | zero => exact each_pure _
  | succ depth ih =>
    exact leasesAge_getAllTasks.bind fun _ => (leasesAge_resolveAll _ _ _).bind fun _ =>
      (leasesAge_resolveAll _ _ _).bind fun _ => leasesAge_cascade ih _ _

theorem leasesAge_blockDependents (t : TaskId) (tasks : List Task) :
    (blockDependents now t tasks).Each (LeasesAge ids) := by
  induction tasks with
  | nil => exact each_pure _
  | cons task tasks ih =>
    rw [blockDependents]
    refine .ite (fun _ => ih) fun _ => .ite (fun _ => ih) fun _ => ?_
    exact (leasesAge_setTaskStatus _ _ _).bind fun _ => ih.bind fun _ => each_pure _

end WorkflowResolver

namespace ClusterCore

open Prog Session WorkflowResolver

theorem leasesAge_completeTask (turns : Nat) (t : TaskId) :
    (completeTask now turns t).Each (LeasesAge ids) := by
  rw [completeTask]
  refine (leasesAge_getTask t).bind fun task => ?_
  cases task with
  | none => exact each_pure _
  | some task =>
    refine (leasesAge_setTaskStatus t _ _).bind fun _ => .bind (leasesAge_propagate _ _ _) ?_
    rintro (_ | _)
    · exact each_pure _
    · exact leasesAge_schedulePending.bind fun _ => each_pure _

theorem leasesAge_failTask (t : TaskId) (reason : String) :
    (failTask now t reason).Each (LeasesAge ids) := by
  rw [failTask]
  refine (leasesAge_getTask t).bind fun task => ?_
  cases task with
  | none => exact each_pure _
  | some task =>
    refine (leasesAge_setTaskStatus t _ _).bind fun _ => .bind ?_ fun _ => each_pure _
    exact leasesAge_getAllTasks.bind fun _ => leasesAge_blockDependents _ _

theorem leasesAge_onNodeOnline : (onNodeOnline now).Each (LeasesAge ids) := by
  rw [onNodeOnline]
  refine leasesAge_triggerPendingTasks.bind fun _ => .ite (fun _ => ?_) fun _ => each_pure _
  exact (each_raise _).bind fun _ => leasesAge_schedulePending.bind fun _ => each_pure _

end ClusterCore

/-! ### The tables and the queue -/

namespace CoreState

/-- The leases only age, and no node is taken from the queue. -/
structure Steady (ids : List LeaseId) (c c' : CoreState) : Prop where
  leases : LeasesAge ids c.store c'.store
  queue : c.eventQueue <+: c'.eventQueue

namespace Steady

theorem refl (c : CoreState) : Steady ids c c := ⟨.refl _, List.prefix_refl _⟩

theorem trans (a b c : CoreState) (h₁ : Steady ids a b) (h₂ : Steady ids b c) :
    Steady ids a c := ⟨LeasesAge.trans _ _ _ h₁.leases h₂.leases, h₁.queue.trans h₂.queue⟩

end Steady

end CoreState

namespace CoreSession

open Prog CoreState

/-- A program over the tables. -/
theorem steady_onTables {α : Type} {p : LoggedSession α}
    (h : p.Each fun l l' => LeasesAge ids l.store l'.store) : (onTables p).Each (Steady ids) :=
  h.zoom fun _ _ hl => ⟨hl, List.prefix_refl _⟩

theorem leasesAge_onStore {α : Type} {p : Session α} (h : p.Each (LeasesAge ids)) :
    (LoggedStore.onStore p).Each fun l l' => LeasesAge ids l.store l'.store := by
  have hset : ∀ (l : LoggedStore) s, LeasesAge ids l.store s →
      LeasesAge ids l.store (l.withStore s).store := fun _ _ hl => hl
  exact h.zoom hset

theorem steady_onStore {α : Type} {p : Session α} (h : p.Each (LeasesAge ids)) :
    (onStore p).Each (Steady ids) := steady_onTables (leasesAge_onStore h)

theorem leasesAge_appendRecoveryEvent (event : RecoveryEvent) :
    (LoggedStore.appendRecoveryEvent now event).Each
      fun l l' => LeasesAge ids l.store l'.store := each_write fun _ => .refl _

theorem steady_notifyOffline (n : NodeId) : (notifyOffline n).Each (Steady ids) :=
  each_write fun _ => ⟨.refl _, List.prefix_append _ _⟩

theorem steady_callBack (leases : List Lease) : (callBack leases).Each (Steady ids) := by
  induction leases with
  | nil => exact each_pure _
  | cons l leases ih =>
    refine .bind (.bind ?_ fun _ => steady_notifyOffline _) fun _ => ih
    exact steady_onStore (each_write fun _ => .of_leases rfl)

theorem steady_getActiveLeases : (getActiveLeases now).Each (Steady ids) := by
  rw [getActiveLeases]
  refine (steady_onStore (each_write fun s => .refl s)).bind fun rows => ?_
  refine (steady_callBack _).bind fun _ => .ite (fun _ => ?_) fun _ => each_pure _
  exact (steady_onStore (each_write fun s => .markExpired s _)).bind fun _ => each_pure _

/-! ### Recovery -/

theorem leasesAge_revokeEach (n : NodeId) (leases : List Lease) :
    (CoreRecovery.revokeEach now n leases).Each fun l l' => LeasesAge ids l.store l'.store := by
  induction leases with
  | nil => exact each_pure _
  | cons lease leases ih =>
    rw [CoreRecovery.revokeEach]
    refine .ite (fun _ => ih) fun _ => .bind (leasesAge_onStore ?_) fun _ => ?_
    · exact Session.leasesAge_revokeLease lease.id
    · exact (leasesAge_appendRecoveryEvent _).bind fun _ => ih.bind fun _ => each_pure _

theorem leasesAge_rescheduleOne (t : TaskId) :
    (CoreRecovery.rescheduleOne now t).Each fun l l' => LeasesAge ids l.store l'.store := by
  rw [CoreRecovery.rescheduleOne]
  refine (leasesAge_onStore (Session.leasesAge_getTask t)).bind fun task => ?_
  cases task with
  | none => exact each_pure _
  | some task =>
    refine (leasesAge_onStore (each_read _)).bind fun nodes => ?_
    cases CoreRecovery.firstOnlineFit task.requires nodes with
    | none =>
      exact (leasesAge_onStore (Session.leasesAge_setTaskStatus t _ _)).bind fun _ =>
        (leasesAge_appendRecoveryEvent _).bind fun _ => each_pure _
    | some node =>
      exact (leasesAge_onStore (Session.leasesAge_setTaskStatus t _ _)).bind fun _ =>
        (leasesAge_appendRecoveryEvent _).bind fun _ => each_pure _

theorem leasesAge_recoverTasks (n : NodeId) (tasks : List TaskId) :
    (CoreRecovery.recoverTasks now n tasks).Each
      fun l l' => LeasesAge ids l.store l'.store := by
  rw [CoreRecovery.recoverTasks]
  refine .bind ?_ fun _ => leasesAge_appendRecoveryEvent _
  induction tasks with
  | nil => exact each_pure _
  | cons t tasks ih => exact (leasesAge_rescheduleOne t).bind fun _ => ih.bind fun _ => each_pure _

theorem steady_recoverNode (n : NodeId) : (recoverNode now n).Each (Steady ids) := by
  rw [recoverNode, revokeAllForNode]
  refine (steady_getActiveLeases.bind fun _ => ?_).bind fun tasks => .ite (fun _ => ?_) fun _ => ?_
  · exact steady_onTables (leasesAge_revokeEach n _)
  · exact steady_onTables (leasesAge_recoverTasks n tasks)
  · exact each_pure _

/-! ### The calls -/

theorem steady_checkOne (w : Watchdog) (node : HeartbeatNode) :
    (checkOne w now node).Each (Steady ids) := by
  rw [checkOne]
  refine (each_read _).bind fun elapsed => .ite (fun _ => ?_) fun _ => each_pure _
  refine .bind ?_ fun _ => .ite (fun _ => steady_notifyOffline _) fun _ => each_pure _
  rw [updateNodeStatus]
  split
  · exact steady_onStore (each_write fun _ => .of_leases rfl)
  · exact each_raise _

theorem steady_checkAll (w : Watchdog) (nodes : List HeartbeatNode) :
    (checkAll w now nodes).Each (Steady ids) := by
  induction nodes with
  | nil => exact each_pure _
  | cons node nodes ih => exact (steady_checkOne w node).bind fun _ => ih

theorem steady_rescheduleTask (t : TaskId) : (rescheduleTask now t).Each (Steady ids) := by
  have hrevoke : ∀ leases, (ClusterScheduler.revokeFirst t leases).Each (LeasesAge ids) := by
    intro leases
    induction leases with
    | nil => exact each_pure _
    | cons lease leases ih =>
      rw [ClusterScheduler.revokeFirst]
      exact .ite (fun _ => (Session.leasesAge_revokeLease _).bind fun _ => each_pure _) fun _ => ih
  rw [rescheduleTask]
  refine (steady_onStore (Session.leasesAge_getTask t)).bind fun task => ?_
  cases task with
  | none => exact each_pure _
  | some task =>
    refine .bind ?_ fun _ => ?_
    · rw [revokeExisting]
      exact .ite (fun _ => steady_getActiveLeases.bind fun _ => steady_onStore (hrevoke _))
        fun _ => each_pure _
    · exact (steady_onStore (Session.leasesAge_setTaskStatus t _ _)).bind fun _ =>
        (steady_onStore Session.leasesAge_schedulePending).bind fun _ =>
          (steady_onStore (Session.leasesAge_getTask t)).bind fun _ => each_pure _

end CoreSession

open Prog Session CoreSession in
/-- **The calls on a `ClusterCore`.** -/
theorem CoreCall.steady (call : CoreCall) : (call.program now).Each (CoreState.Steady ids) := by
  have hunit : ∀ {α : Type} {p : CoreSession α}, p.Each (CoreState.Steady ids) →
      (do let _ ← p : CoreSession Unit).Each (CoreState.Steady ids) :=
    fun hp => hp.bind fun _ => each_pure _
  cases call with
  | scan => exact hunit steady_getActiveLeases
  | check w => exact (steady_onStore (each_read _)).bind fun _ => steady_checkAll w _
  | submitTask token title requires priority =>
    refine hunit (steady_onStore ?_)
    exact (leasesAge_createTask _ _ _ _).bind fun _ =>
      leasesAge_triggerPendingTasks.bind fun _ => each_pure _
  | completeTask turns t =>
    exact hunit (steady_onStore (ClusterCore.leasesAge_completeTask turns t))
  | failTask t reason => exact hunit (steady_onStore (ClusterCore.leasesAge_failTask t reason))
  | rescheduleTask t => exact hunit (steady_rescheduleTask t)
  | registerNode node =>
    refine steady_onStore ((leasesAge_write fun _ => rfl).bind fun _ => ?_)
    exact ClusterCore.leasesAge_onNodeOnline.attempt .refl
  | updateHeartbeat n load => exact steady_onStore (leasesAge_write fun _ => rfl)
  | updateCapabilities n caps =>
    refine steady_onStore ((leasesAge_write fun _ => rfl).bind fun _ => ?_)
    exact ClusterCore.leasesAge_onNodeOnline.attempt .refl
  | setDependencies t deps => exact hunit (steady_onStore (leasesAge_setDependencies t deps))
  | unblockTask t => exact hunit (steady_onStore (leasesAge_write fun _ => rfl))
  | revokeLease id => exact hunit (steady_onStore (leasesAge_revokeLease id))
  | handleBatchSync messages => exact hunit (steady_onStore (leasesAge_handleBatchSync messages))
  | manager call => exact steady_onStore call.leasesAge

end HermesCluster
