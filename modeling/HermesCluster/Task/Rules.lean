import HermesCluster.Task.Dated

/-!
# What every call of `TaskManager` keeps

A call is a sequence of writes, some behind a check or a lookup of its own.  `WriteRules` are what
a relation between the store before and after needs: it is closed under doing one thing after
another, and each of the writes keeps it, given what is checked before the write.

* `TaskOp.keeps`: every call keeps such a relation; a call that deletes nothing keeps what the
  other writes do (`TaskOp.keeps_of_not_mayDelete`).

The methods of the store are taken one by one; `rel_onStore` and `StoreCall.rel_elsewhere` bring
them down to the tables of the store.  For a relation about the tasks alone, `TaskRules` cover
them too, and `Database.tasks_step` every step of a database.
-/

namespace HermesCluster

open ClusterStore TaskManager

/-- What the writes of `TaskManager` keep at a clock reading, those apart that delete. -/
structure KeepRules (now : Time) (R : ClusterStore → ClusterStore → Prop) : Prop where
  refl : ∀ s, R s s
  trans : ∀ a b c, R a b → R b c → R a c
  /-- The title and the priority are checked before. -/
  createTask : ∀ {s s' t title requires priority}, blank title = false → 1 ≤ priority →
    priority ≤ 5 → s.createTask now t title requires priority = .ok s' → R s s'
  setDependencies : ∀ s t deps, R s (s.setDependencies now t deps)
  setTaskStatus : ∀ s t status failReason, R s (s.setTaskStatus now t status failReason)
  /-- The node is looked up before. -/
  setAssignee : ∀ {s n} t, n ∈ s.nodes.keys → R s (s.setAssignee t n)
  updateTask : ∀ {s s' t title priority requires deps},
    s.updateTask now t title priority requires deps = .ok ((), s') → R s s'
  triggerPendingTasks : ∀ s, R s (s.triggerPendingTasks now).2
  schedulePending : ∀ {s s' m}, s.schedulePending now = .ok (m, s') → R s s'
  /-- The node is looked up before. -/
  assignTask : ∀ {s n} t, n ∈ s.nodes.keys → R s (s.assignTask now t n)

/-- What all of them keep. -/
structure WriteRules (now : Time) (R : ClusterStore → ClusterStore → Prop) : Prop
    extends KeepRules now R where
  deleteTasks : ∀ s ids, R s (s.deleteTasks ids)

/-- What no promotion changes, the loop over the pending tasks does not. -/
theorem ClusterStore.look_triggerPendingTasks {β : Type} (look : ClusterStore → β) {now : Time}
    (h : ∀ s t, look (s.promote now t) = look s) (s : ClusterStore) :
    look (s.triggerPendingTasks now).2 = look s := by
  refine Run.exec_keeps (fun acc : Nat × ClusterStore => look acc.2) (fun acc r => ?_) _ (0, s)
  rw [triggerOne_eq]
  split
  · exact h acc.2 r.id
  · rfl

/-- What no assignment with its decision changes, the loop over the ready tasks does not. -/
theorem ClusterStore.look_schedulePending {β : Type} (look : ClusterStore → β) {now : Time}
    (h : ∀ s t n d, look ((s.assignTask now t n).recordDecision d) = look s)
    {s s' : ClusterStore} {m : Nat} (hok : s.schedulePending now = .ok (m, s')) :
    look s' = look s := by
  rw [schedulePending_eq (schedulable_of_ok hok)] at hok
  have hafter := congrArg Prod.snd (Except.ok.inj hok)
  dsimp only at hafter
  rw [← hafter]
  split
  · rfl
  refine Run.exec_keeps (fun acc : Nat × ClusterStore => look acc.2) (fun acc x => ?_) _ (0, s)
  rw [scheduleOne]
  split
  · exact h acc.2 x.id _ _
  · rfl

/-- A node that was found is there. -/
theorem ClusterStore.mem_keys_of_getNode {s : ClusterStore} {n : NodeId} {node : Node}
    (h : s.getNode n = .ok (some node)) : n ∈ s.nodes.keys := by
  rw [getNode] at h
  cases hn : s.nodes.get? n with
  | none =>
    rw [hn] at h
    cases h
  | some row => exact Table.mem_keys.mpr ⟨row, hn⟩

/-- A message that does not raise leaves the store as it is, or is logged and its task state
written. -/
theorem ClusterStore.handleSyncMessage_inv {s s' : ClusterStore} {now : Time} {msg : SyncMessage}
    {b : Bool} (h : s.handleSyncMessage now msg = .ok (b, s')) :
    s' = s ∨ s' = s.logged now msg := by
  rw [handleSyncMessage] at h
  split at h
  · exact .inl (Prod.mk.inj (Except.ok.inj h)).2.symm
  split at h
  · exact .inr (Prod.mk.inj (Except.ok.inj h)).2.symm
  · cases h

/-- The method returns the stored task, which it only reads. -/
theorem Session.rel_createTask {R : ClusterStore → ClusterStore → Prop} (hrefl : ∀ s, R s s)
    {now : Time} {t : TaskId} {title : String} {requires : List Capability} {priority : Int}
    {s : ClusterStore} (h : ∀ s', s.createTask now t title requires priority = .ok s' → R s s') :
    R s ((Session.createTask now t title requires priority).run s).2 := by
  rw [Session.createTask]
  cases hc : s.createTask now t title requires priority with
  | error e =>
    have htx : (Prog.tx fun s => (s.createTask now t title requires priority).map fun s => ((), s) :
        Session Unit).run s = (.error e, s) := Prog.run_tx_error (by rw [hc]; rfl)
    rw [Prog.run_bind_error _ htx]
    exact hrefl s
  | ok s₁ =>
    have htx : (Prog.tx fun s => (s.createTask now t title requires priority).map fun s => ((), s) :
        Session Unit).run s = (.ok (), s₁) := Prog.run_tx_ok (by rw [hc]; rfl)
    rw [Prog.run_bind_ok _ htx, Prog.run_bind_pure_snd, Session.run_getTask_snd]
    exact h s₁ hc

namespace KeepRules

variable {now : Time} {R : ClusterStore → ClusterStore → Prop}

theorem addDependencies (h : KeepRules now R) (t : TaskId) (deps : List TaskId)
    (s : ClusterStore) : R s ((addDependencies now t deps).run s).2 := by
  rw [TaskManager.addDependencies]
  split
  · exact h.refl s
  · exact h.setDependencies s t deps

theorem assign (h : KeepRules now R) (t : TaskId) (assignTo : Option NodeId)
    (s : ClusterStore) : R s ((assign now t assignTo).run s).2 := by
  rw [TaskManager.assign]
  split
  · exact h.refl s
  refine Prog.rel_read_bind (h.refl s) fun node hnode => ?_
  split
  · exact h.refl s
  rename_i hne
  cases node with
  | none => exact absurd rfl hne
  | some node =>
    -- the node is still there when the task is given to it
    have hstatus : (Session.setTaskStatus now t .running).run s =
        (.ok (s.tasks.get? t).isSome, s.setTaskStatus now t .running "") := Prog.run_write _ s
    rw [Prog.run_bind_ok _ hstatus, Prog.run_write]
    exact h.trans _ _ _ (h.setTaskStatus s t .running "")
      (h.setAssignee t (mem_keys_of_getNode hnode))

theorem create (h : KeepRules now R) (token title : String) (requires : List Capability)
    (priority : Int) (deps : List TaskId) (assignTo : Option NodeId) (s : ClusterStore) :
    R s ((TaskManager.createTask now token title requires priority deps assignTo).run s).2 := by
  rw [TaskManager.createTask]
  split
  · exact h.refl s
  rename_i htitle
  split
  · exact h.refl s
  rename_i hpriority
  refine Prog.rel_bind h.trans (fun s => ?_) (fun _ s => ?_) s
  · exact Session.rel_createTask h.refl fun s' hc =>
      h.createTask (Bool.eq_false_iff.mpr htitle) (by omega) (by omega) hc
  refine Prog.rel_bind h.trans (h.addDependencies _ deps) (fun _ s => ?_) s
  refine Prog.rel_bind h.trans (h.assign _ assignTo) (fun _ s => ?_) s
  rw [Prog.run_bind_pure_snd, Session.run_getTask_snd]
  exact h.refl s

theorem duplicate (h : KeepRules now R) (token : String) (t : TaskId) (titleSuffix : String)
    (s : ClusterStore) : R s ((duplicateTask now token t titleSuffix).run s).2 := by
  rw [duplicateTask]
  refine rel_getTask (h.refl s) (h.refl s) fun task r _ _ => ?_
  rw [Prog.run_bind_pure_snd]
  exact h.create token _ _ _ _ _ s

theorem update (h : KeepRules now R) (t : TaskId) (title : Option String)
    (priority : Option Int) (requires : Option (List Capability)) (deps : Option (List TaskId))
    (s : ClusterStore) :
    R s ((TaskManager.updateTask now t title priority requires deps).run s).2 := by
  rw [TaskManager.updateTask]
  refine rel_getTask (h.refl s) (h.refl s) fun task r _ _ => ?_
  dsimp only
  refine Prog.rel_bind h.trans (fun s => ?_) (fun _ s => ?_) s
  · exact Prog.rel_tx h.refl fun _ s' htx => h.updateTask htx
  · rw [Session.run_getTask_snd]
    exact h.refl s

theorem cancel (h : KeepRules now R) (t : TaskId) (s : ClusterStore) :
    R s ((cancelTask now t).run s).2 := by
  rw [cancelTask]
  refine rel_getTask (h.refl s) (h.refl s) fun task r _ _ => ?_
  dsimp only
  split
  · exact h.refl s
  · rw [Prog.run_bind_pure_snd, Session.setTaskStatus, Prog.run_write]
    exact h.setTaskStatus s t .failed "cancelled"

theorem retry (h : KeepRules now R) (t : TaskId) (s : ClusterStore) :
    R s ((retryTask now t).run s).2 := by
  rw [retryTask]
  refine rel_getTask (h.refl s) (h.refl s) fun task r _ _ => ?_
  dsimp only
  split
  · exact h.refl s
  · refine Prog.rel_bind h.trans (fun s => ?_) (fun _ s => ?_) s
    · exact h.setTaskStatus s t .pending ""
    refine Prog.rel_bind h.trans (fun s => ?_) (fun _ s => ?_) s
    · exact h.triggerPendingTasks s
    rw [Session.run_getTask_snd]
    exact h.refl s

theorem autoSchedule (h : KeepRules now R) (s : ClusterStore) :
    R s ((autoSchedule now).run s).2 := by
  rw [TaskManager.autoSchedule]
  refine Prog.rel_bind h.trans (fun s => ?_) (fun promoted s => ?_) s
  · exact h.triggerPendingTasks s
  refine Prog.rel_bind h.trans (fun s => ?_) (fun n s => ?_) s
  · exact Prog.rel_tx h.refl fun n s' htx => h.schedulePending htx
  · rw [Prog.run_bind_pure_snd, Session.getAllTasks, Prog.run_read_snd]
    exact h.refl s

theorem scheduleTo (h : KeepRules now R) (t : TaskId) (nodeId : NodeId) (s : ClusterStore) :
    R s ((scheduleTaskToNode now t nodeId).run s).2 := by
  rw [scheduleTaskToNode]
  refine rel_getTask (h.refl s) (h.refl s) fun task r _ _ => ?_
  dsimp only
  split
  · exact h.refl s
  refine Prog.rel_read_bind (h.refl s) fun node hnode => ?_
  split
  · exact h.refl s
  split
  · exact h.refl s
  split
  · exact h.refl s
  rw [Prog.run_bind_pure_snd, Prog.run_write]
  exact h.assignTask t (mem_keys_of_getNode hnode)

theorem bulkCreate (h : KeepRules now R) (tasks : List NewTask) (s : ClusterStore) :
    R s ((bulkCreate now tasks).run s).2 := by
  induction tasks generalizing s with
  | nil => exact h.refl s
  | cons new tasks ih =>
    rw [TaskManager.bulkCreate]
    split
    · exact ih s
    · refine Prog.rel_bind h.trans (h.create new.token _ _ _ _ _) (fun task s => ?_) s
      rw [Prog.run_bind_pure_snd]
      exact ih s

theorem bulkCancel (h : KeepRules now R) (ids : List TaskId) (s : ClusterStore) :
    R s ((bulkCancel now ids).run s).2 := by
  induction ids generalizing s with
  | nil => exact h.refl s
  | cons t ids ih =>
    rw [TaskManager.bulkCancel]
    refine Prog.rel_bind h.trans (h.cancel t) (fun cancelled s => ?_) s
    rw [Prog.run_bind_pure_snd]
    exact ih s

end KeepRules

namespace WriteRules

variable {now : Time} {R : ClusterStore → ClusterStore → Prop}

theorem delete (h : WriteRules now R) (t : TaskId) (s : ClusterStore) :
    R s ((deleteTask t).run s).2 := by
  rw [run_deleteTask]
  split
  · exact h.deleteTasks s [t]
  · exact h.refl s

theorem purge (h : WriteRules now R) (older : Int) (s : ClusterStore) :
    R s ((purgeCompleted now older).run s).2 := by
  rw [purgeCompleted]
  refine Prog.rel_read_bind (h.refl s) fun cutoff _ => ?_
  rw [Prog.run_write]
  exact h.deleteTasks s _

theorem bulkDelete (h : WriteRules now R) (ids : List TaskId) (s : ClusterStore) :
    R s ((bulkDelete ids).run s).2 := by
  induction ids generalizing s with
  | nil => exact h.refl s
  | cons t ids ih =>
    rw [TaskManager.bulkDelete]
    refine Prog.rel_bind h.trans (h.delete t) (fun deleted s => ?_) s
    rw [Prog.run_bind_pure_snd]
    exact ih s

end WriteRules

/-- The call may delete tasks. -/
def TaskOp.MayDelete : TaskOp → Prop
  | .delete _ => True
  | .purge _ => True
  | .bulkDelete _ => True
  | _ => False

instance : DecidablePred TaskOp.MayDelete := fun op => by
  unfold TaskOp.MayDelete
  split <;> infer_instance

/-- **One call of `TaskManager`** that deletes nothing keeps what the other writes keep. -/
theorem TaskOp.keeps_of_not_mayDelete {now : Time} {R : ClusterStore → ClusterStore → Prop}
    (h : KeepRules now R) {op : TaskOp} (hop : ¬ op.MayDelete) (s : ClusterStore) :
    R s ((op.program now).run s).2 := by
  cases op with
  | create token title requires priority deps assignTo =>
    simp only [program, Prog.run_bind_pure_snd]
    exact h.create token title requires priority deps assignTo s
  | duplicate token t titleSuffix =>
    simp only [program, Prog.run_bind_pure_snd]
    exact h.duplicate token t titleSuffix s
  | update t title priority requires deps =>
    simp only [program, Prog.run_bind_pure_snd]
    exact h.update t title priority requires deps s
  | cancel t =>
    simp only [program, Prog.run_bind_pure_snd]
    exact h.cancel t s
  | retry t =>
    simp only [program, Prog.run_bind_pure_snd]
    exact h.retry t s
  | autoSchedule =>
    simp only [program, Prog.run_bind_pure_snd]
    exact h.autoSchedule s
  | scheduleTo t nodeId =>
    simp only [program, Prog.run_bind_pure_snd]
    exact h.scheduleTo t nodeId s
  | bulkCreate tasks =>
    simp only [program, Prog.run_bind_pure_snd]
    exact h.bulkCreate tasks s
  | bulkCancel ids =>
    simp only [program, Prog.run_bind_pure_snd]
    exact h.bulkCancel ids s
  | delete | purge | bulkDelete => exact absurd trivial hop

/-- **Any call** keeps what all writes keep. -/
theorem TaskOp.keeps {now : Time} {R : ClusterStore → ClusterStore → Prop}
    (h : WriteRules now R) (op : TaskOp) (s : ClusterStore) :
    R s ((op.program now).run s).2 := by
  cases op with
  | delete t =>
    simp only [program, Prog.run_bind_pure_snd]
    exact h.delete t s
  | purge older =>
    simp only [program, Prog.run_bind_pure_snd]
    exact h.purge older s
  | bulkDelete ids =>
    simp only [program, Prog.run_bind_pure_snd]
    exact h.bulkDelete ids s
  | _ => exact keeps_of_not_mayDelete h.toKeepRules id s

/-! ### The methods of the store -/

section Store

variable {α : Type} {R : ClusterStore → ClusterStore → Prop} {p : Session α} {d : Database}

theorem rel_onStore (h : R d.store (p.run d.store).2) :
    R d.store ((Database.onStore p).run d).2.store := by
  rw [Database.run_onStore]
  exact h

/-- The same of a method whose result is not used. -/
theorem rel_onStore_unit (h : R d.store (p.run d.store).2) :
    R d.store ((do let _ ← Database.onStore p : DbSession Unit).run d).2.store := by
  rw [Prog.run_bind_pure_snd]
  exact rel_onStore h

end Store

/-- The method writes none of the tables of the store. -/
def StoreCall.Elsewhere : StoreCall → Prop
  | .appendRecoveryEvent _ _ _ => True
  | .triggerRecovery _ _ => True
  | .registerFederationCluster _ _ _ => True
  | .removeFederationCluster _ => True
  | .registerHook _ _ _ _ => True
  | .deregisterHook _ => True
  | .addDelivery _ _ _ _ _ _ => True
  | .setConfig _ => True
  | _ => False

theorem StoreCall.store_elsewhere (now : Time) {call : StoreCall} (h : call.Elsewhere)
    (d : Database) : ((call.program now).run d).2.store = d.store := by
  have htx : ∀ {f : Database → Except PyError (Unit × Database)},
      (∀ a d', f d = .ok (a, d') → d'.store = d.store) →
        ((Prog.tx f).run d).2.store = d.store := fun hf =>
    Prog.rel_tx (R := fun d d' : Database => d'.store = d.store) (fun _ => rfl) hf
  cases call with
  | appendRecoveryEvent | triggerRecovery | registerHook =>
    refine htx fun _ d' hd => ?_
    obtain ⟨-, rfl⟩ := Prod.mk.inj (eq_of_check hd)
    rfl
  | addDelivery _ _ _ payload | setConfig payload =>
    refine htx fun _ d' hd => ?_
    cases payload with
    | error e => cases hd
    | ok text =>
      obtain ⟨-, rfl⟩ := Prod.mk.inj (Except.ok.inj hd)
      rfl
  | registerFederationCluster | removeFederationCluster | deregisterHook => rfl
  | _ => exact h.elim

theorem StoreCall.rel_elsewhere {R : ClusterStore → ClusterStore → Prop} (hrefl : ∀ s, R s s)
    {now : Time} {call : StoreCall} {d : Database} (h : call.Elsewhere) :
    R d.store ((call.program now).run d).2.store := by
  rw [store_elsewhere now h]
  exact hrefl d.store

/-! ### What is in the table of tasks -/

/-- What the writes of the store and of `TaskManager` keep at a clock reading, for a relation
about the tasks alone; the deletions are apart. -/
structure TaskRules (now : Time) (R : ClusterStore → ClusterStore → Prop) : Prop where
  of_tasks : ∀ {s s'}, s'.tasks = s.tasks → R s s'
  trans : ∀ a b c, R a b → R b c → R a c
  createTask : ∀ {s s' t title requires priority},
    s.createTask now t title requires priority = .ok s' → R s s'
  setDependencies : ∀ s t deps, R s (s.setDependencies now t deps)
  setTaskStatus : ∀ s t status failReason, R s (s.setTaskStatus now t status failReason)
  setAssignee : ∀ s t n, R s (s.setAssignee t n)
  updateTask : ∀ {s s' t title priority requires deps},
    s.updateTask now t title priority requires deps = .ok ((), s') → R s s'
  triggerPendingTasks : ∀ s, R s (s.triggerPendingTasks now).2
  schedulePending : ∀ {s s' m}, s.schedulePending now = .ok (m, s') → R s s'
  assignTask : ∀ s t n, R s (s.assignTask now t n)
  unassignTask : ∀ s t, R s (s.unassignTask now t)
  unblockTask : ∀ s t, R s (s.unblockTask now t).2
  applyTaskState : ∀ s ts, R s (s.applyTaskState now ts)

namespace TaskRules

variable {now : Time} {R : ClusterStore → ClusterStore → Prop}

theorem refl (h : TaskRules now R) (s : ClusterStore) : R s s := h.of_tasks rfl

theorem keepRules (h : TaskRules now R) : KeepRules now R where
  refl := h.refl
  trans := h.trans
  createTask _ _ _ hc := h.createTask hc
  setDependencies := h.setDependencies
  setTaskStatus := h.setTaskStatus
  setAssignee _ _ := h.setAssignee _ _ _
  updateTask := h.updateTask
  triggerPendingTasks := h.triggerPendingTasks
  schedulePending := h.schedulePending
  assignTask _ _ := h.assignTask _ _ _

theorem logged (h : TaskRules now R) (msg : SyncMessage) (s : ClusterStore) :
    R s (s.logged now msg) := by
  rw [ClusterStore.logged]
  have hlogged : R s { s with syncLog := s.syncLog ++ [msg] } := h.of_tasks rfl
  cases msg.taskState with
  | none => exact hlogged
  | some ts => exact h.trans _ _ _ hlogged (h.applyTaskState _ ts)

theorem handleSyncMessage (h : TaskRules now R) (msg : SyncMessage) (s : ClusterStore) :
    R s ((Session.handleSyncMessage now msg).run s).2 := by
  rw [Session.handleSyncMessage]
  refine Prog.rel_read_bind (h.refl s) fun current _ => ?_
  split
  · exact h.refl s
  · refine Prog.rel_tx h.refl fun _ s' hok => ?_
    rcases handleSyncMessage_inv hok with rfl | rfl
    · exact h.refl _
    · exact h.logged msg _

theorem handleBatchSync (h : TaskRules now R) (messages : List SyncMessage) (s : ClusterStore) :
    R s ((Session.handleBatchSync now messages).run s).2 := by
  induction messages generalizing s with
  | nil => exact h.refl s
  | cons msg messages ih =>
    rw [Session.handleBatchSync]
    refine Prog.rel_bind h.trans (h.handleSyncMessage msg) (fun applied s => ?_) s
    rw [Prog.run_bind_pure_snd]
    exact ih s

theorem createLease (h : TaskRules now R) (token : String) (t : TaskId) (nodeId : NodeId)
    (ttl : Duration) (s : ClusterStore) :
    R s ((Session.createLease now token t nodeId ttl).run s).2 := by
  rw [Session.createLease]
  refine Prog.rel_read_bind (h.refl s) fun _ _ => ?_
  refine Prog.rel_tx h.refl fun lease s' hok => h.of_tasks ?_
  obtain ⟨-, rfl⟩ := ClusterStore.createLease_inv hok
  rfl

theorem getActiveLeases (h : TaskRules now R) (s : ClusterStore) :
    R s ((Session.getActiveLeases now).run s).2 := by
  rw [Session.getActiveLeases]
  refine Prog.rel_bind h.trans (fun s => ?_) (fun rows s => ?_) s
  · exact h.refl s
  split
  · exact h.of_tasks rfl
  · exact h.refl s

/-- **One method of the store.** -/
theorem store (h : TaskRules now R) (call : StoreCall) (d : Database) :
    R d.store ((call.program now).run d).2.store := by
  cases call with
  | registerNode | updateHeartbeat | updateCapabilities | setNodeStatus =>
    exact rel_onStore (h.of_tasks rfl)
  | createTask t title requires priority =>
    exact rel_onStore_unit (Session.rel_createTask h.refl fun _ hok => h.createTask hok)
  | setTaskStatus t status failReason =>
    exact rel_onStore_unit (h.setTaskStatus _ t status failReason)
  | unassignTask t => exact rel_onStore (h.unassignTask _ t)
  | unblockTask t => exact rel_onStore_unit (h.unblockTask _ t)
  | setDependencies t deps => exact rel_onStore_unit (h.setDependencies _ t deps)
  | createLease token t nodeId ttl =>
    exact rel_onStore_unit (h.createLease token t nodeId ttl d.store)
  | revokeLease id => exact rel_onStore_unit (h.of_tasks rfl)
  | getActiveLeases => exact rel_onStore_unit (h.getActiveLeases d.store)
  | handleSyncMessage msg => exact rel_onStore_unit (h.handleSyncMessage msg d.store)
  | handleBatchSync messages => exact rel_onStore_unit (h.handleBatchSync messages d.store)
  | triggerPendingTasks => exact rel_onStore_unit (h.triggerPendingTasks _)
  | schedulePending =>
    exact rel_onStore_unit (Prog.rel_tx h.refl fun _ _ hok => h.schedulePending hok)
  | recordDecision decision =>
    refine rel_onStore (Prog.rel_tx h.refl fun _ s' hok => h.of_tasks ?_)
    obtain ⟨-, rfl⟩ := Prod.mk.inj (eq_of_check hok)
    rfl
  | appendRecoveryEvent | triggerRecovery | registerHook | addDelivery | setConfig
  | registerFederationCluster | removeFederationCluster | deregisterHook =>
    exact StoreCall.rel_elsewhere h.refl trivial

end TaskRules

namespace Database

/-- No change of a task is uncommitted. -/
def TasksCommitted (c : Connection Database) : Prop :=
  c.committed.store.tasks = c.visible.store.tasks

theorem tasks_exec {R : ClusterStore → ClusterStore → Prop}
    (hR : ∀ {s s'}, s'.tasks = s.tasks → R s s') {α : Type} {p : DbSession α}
    {c : Connection Database} (hc : TasksCommitted c)
    (hp : R c.visible.store (p.run c.visible).2.store) :
    TasksCommitted (p.exec c).2 ∧ R c.visible.store (p.exec c).2.visible.store := by
  refine ⟨?_, ?_⟩
  · rcases Prog.exec_eq_or_clean p c with hsame | hclean
    · rwa [hsame]
    · rw [TasksCommitted, hclean]
  · rcases Prog.exec_visible p c with hrun | hback
    · rwa [hrun]
    · rw [hback]
      exact hR hc

/-- **One step.**  A rollback takes no task back: only the watchdog leaves something uncommitted,
and it writes nodes. -/
theorem tasks_step {R : ClusterStore → ClusterStore → Prop} {c : Connection Database}
    (hc : TasksCommitted c) {i : Time × DbOp} (h : TaskRules i.1 R)
    (hmanager : ∀ call, i.2 = .manager call →
      R c.visible.store ((call.program i.1).run c.visible.store).2) :
    TasksCommitted (step c i) ∧ R c.visible.store (step c i).visible.store := by
  obtain ⟨now, op⟩ := i
  cases op with
  | store call => exact tasks_exec h.of_tasks hc (h.store call c.visible)
  | manager call => exact tasks_exec h.of_tasks hc (rel_onStore (hmanager call rfl))
  | updateNodeStatus nodeId status => exact ⟨hc, h.of_tasks rfl⟩

end Database

end HermesCluster
