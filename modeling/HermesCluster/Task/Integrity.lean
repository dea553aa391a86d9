import HermesCluster.State.Scheduling
import HermesCluster.Task.Rules

/-!
# Referential integrity

The schema declares no foreign keys, and `create_lease`, `record_decision` and
`handle_sync_message` look nothing up.  What keeps the tables together is that `delete_task` and
`purge_completed` take the leases and the decisions along, that no method deletes a node, and that
`TaskManager` checks what it writes.

* `TaskOp.keepsSound`: every method of `TaskManager` keeps the tables sound, whatever it is given.
* `StoreCall.keepsSound`: a method of the store does if what it is given is `Proper`.
* `sound_run`: so they are in every state of a run, whatever is rolled back.
-/

namespace HermesCluster

namespace ClusterStore

/-- The task and the node are there. -/
def Refers (s : ClusterStore) (t : TaskId) (n : NodeId) : Prop :=
  t ∈ s.tasks.keys ∧ n ∈ s.nodes.keys

instance (s : ClusterStore) (t : TaskId) (n : NodeId) : Decidable (s.Refers t n) :=
  inferInstanceAs (Decidable (_ ∧ _))

/-- A row has what `create_task` of `TaskManager` asks for, and is assigned to no unknown node. -/
structure RowSound (nodes : Table Node) (r : TaskRow) : Prop where
  title : blank r.title = false
  priority : 1 ≤ r.priority ∧ r.priority ≤ 5
  assignee : ∀ n, r.assignedTo = some n → n ∈ nodes.keys

/-- No lease and no decision is left over from a task, and none names an unknown node. -/
structure Sound (s : ClusterStore) : Prop where
  row : ∀ r ∈ s.tasks.rows, RowSound s.nodes r
  lease : ∀ l ∈ s.leases.rows, s.Refers l.taskId l.nodeId
  decision : ∀ d ∈ s.decisions, s.Refers d.taskId d.nodeId

/-- What is sound before is sound after. -/
def KeepsSound (s s' : ClusterStore) : Prop := s.Sound → s'.Sound

variable {now : Time} {s s' : ClusterStore} {r : TaskRow} {t : TaskId} {n : NodeId}

theorem KeepsSound.refl (s : ClusterStore) : KeepsSound s s := id

theorem KeepsSound.trans (a b c : ClusterStore) (h₁ : KeepsSound a b) (h₂ : KeepsSound b c) :
    KeepsSound a c := h₂ ∘ h₁

theorem Refers.mono (h : s.Refers t n) (hnodes : s.nodes.keys ⊆ s'.nodes.keys)
    (htasks : s.tasks.keys ⊆ s'.tasks.keys) : s'.Refers t n := ⟨htasks h.1, hnodes h.2⟩

theorem RowSound.mono (h : RowSound s.nodes r) (hnodes : s.nodes.keys ⊆ s'.nodes.keys) :
    RowSound s'.nodes r := ⟨h.title, h.priority, fun n hn => hnodes (h.assignee n hn)⟩

/-- Nothing goes, and what there is after fits what was there before. -/
theorem Sound.of_subset (hnodes : s.nodes.keys ⊆ s'.nodes.keys)
    (htasks : s.tasks.keys ⊆ s'.tasks.keys)
    (hrow : ∀ k r', s'.tasks.get? k = some r' → RowSound s.nodes r')
    (hlease : ∀ l ∈ s'.leases.rows, s.Refers l.taskId l.nodeId)
    (hdecision : ∀ d ∈ s'.decisions, s.Refers d.taskId d.nodeId) : s'.Sound where
  row r' hr' := (hrow r'.id r' (Table.get?_of_mem hr')).mono hnodes
  lease l hl := (hlease l hl).mono hnodes htasks
  decision d hd := (hdecision d hd).mono hnodes htasks

theorem Sound.get? (h : s.Sound) (hr : s.tasks.get? t = some r) : RowSound s.nodes r :=
  h.row r (Table.mem_of_get? hr)

/-- Only the rows of the tasks change, and each is what it was or sound again. -/
theorem Sound.of_rows (h : s.Sound) (hnodes : s'.nodes = s.nodes) (hleases : s'.leases = s.leases)
    (hdecisions : s'.decisions = s.decisions) (htasks : s.tasks.keys ⊆ s'.tasks.keys)
    (hrow : ∀ k r', s'.tasks.get? k = some r' → RowSound s.nodes r') : s'.Sound := by
  refine Sound.of_subset ?_ htasks hrow ?_ ?_
  · rw [hnodes]
    exact List.Subset.refl _
  · rw [hleases]
    exact h.lease
  · rw [hdecisions]
    exact h.decision

/-- An update of one row. -/
theorem Sound.modify (h : s.Sound) {f : TaskRow → TaskRow}
    (hkey : ∀ r, Keyed.key (f r) = Keyed.key r)
    (hf : ∀ r, RowSound s.nodes r → RowSound s.nodes (f r)) :
    ({ s with tasks := s.tasks.modify t f hkey } : ClusterStore).Sound := by
  refine h.of_rows rfl rfl rfl ?_ fun k r' hr' => ?_
  · rw [Table.keys_modify]
    exact List.Subset.refl _
  · have hget : (s.tasks.modify t f hkey).get? k = some r' := hr'
    rw [Table.get?_modify] at hget
    split at hget
    · obtain ⟨r, hr, rfl⟩ := Option.map_eq_some_iff.mp hget
      exact hf r (h.get? hr)
    · exact h.get? hget

/-- Only the leases change. -/
theorem Sound.of_leases (h : s.Sound) {leases : Table Lease} {calls : List (TaskId × NodeId)}
    (hl : ∀ l ∈ leases.rows, s.Refers l.taskId l.nodeId) :
    ({ s with leases := leases, leaseCallbackCalls := calls } : ClusterStore).Sound :=
  ⟨h.row, hl, h.decision⟩

/-! ### The updates of a row -/

theorem RowSound.madeReady (h : RowSound s.nodes r) : RowSound s.nodes (madeReady now r) := by
  rw [ClusterStore.madeReady]
  split
  · exact ⟨h.title, h.priority, h.assignee⟩
  · exact h

theorem RowSound.unblocked (h : RowSound s.nodes r) : RowSound s.nodes (unblocked now r) := by
  rw [ClusterStore.unblocked]
  split
  · exact ⟨h.title, h.priority, h.assignee⟩
  · exact h

theorem RowSound.assigned (h : RowSound s.nodes r) (hn : n ∈ s.nodes.keys) {r' : TaskRow}
    (htitle : r'.title = r.title) (hpriority : r'.priority = r.priority)
    (hassignee : r'.assignedTo = some n) : RowSound s.nodes r' where
  title := htitle ▸ h.title
  priority := hpriority ▸ h.priority
  assignee m hm := by
    rw [hassignee] at hm
    rwa [← Option.some.inj hm]

/-- `update_task` checks the title and the priority it is given. -/
theorem RowSound.updatedBy {title : Option String} {priority : Option Int}
    (requires : Option (List Capability)) (deps : Option (List TaskId)) (h : RowSound s.nodes r)
    (htitle : ¬ title.any blank = true)
    (hpriority : ¬ priority.any (fun p => p < 1 ∨ 5 < p) = true) :
    RowSound s.nodes (updatedBy now title priority requires deps r) := by
  rw [ClusterStore.updatedBy]
  split
  · exact h
  refine ⟨?_, ?_, h.assignee⟩
  · cases title with
    | none => exact h.title
    | some title => exact Bool.eq_false_iff.mpr htitle
  · cases priority with
    | none => exact h.priority
    | some p =>
      have hp : ¬ (p < 1 ∨ 5 < p) := fun hp => hpriority (decide_eq_true hp)
      show 1 ≤ p ∧ p ≤ 5
      omega

/-! ### The store's methods -/

theorem keepsSound_registerNode (node : Node) : KeepsSound s (s.registerNode node) := by
  intro h
  refine Sound.of_subset (s := s) (fun n hn => ?_) (List.Subset.refl _) (fun k r' hr' => h.get? hr')
    h.lease h.decision
  obtain ⟨old, hold⟩ := Table.mem_keys.mp hn
  rw [Table.mem_keys, registerNode, Table.get?_replaceInto]
  split
  · exact ⟨node, rfl⟩
  · exact ⟨old, hold⟩

theorem keepsSound_modifyNode {f : Node → Node} (hf : ∀ n, Keyed.key (f n) = Keyed.key n) :
    KeepsSound s { s with nodes := s.nodes.modify n f hf } := by
  intro h
  refine Sound.of_subset (s := s) ?_ (List.Subset.refl _) (fun k r' hr' => h.get? hr') h.lease
    h.decision
  rw [Table.keys_modify]
  exact List.Subset.refl _

/-- The row is there, or is given what a row is to have. -/
def MayCreate (s : ClusterStore) (t : TaskId) (title : String) (priority : Int) : Prop :=
  t ∈ s.tasks.keys ∨ (blank title = false ∧ 1 ≤ priority ∧ priority ≤ 5)

instance (s : ClusterStore) (t : TaskId) (title : String) (priority : Int) :
    Decidable (s.MayCreate t title priority) := inferInstanceAs (Decidable (_ ∨ _))

theorem keepsSound_createTask {title : String} {requires : List Capability} {priority : Int}
    (hnew : s.MayCreate t title priority)
    (h : s.createTask now t title requires priority = .ok s') : KeepsSound s s' := by
  intro hs
  rw [createTask] at h
  split at h
  · cases h
    refine hs.of_rows rfl rfl rfl (fun k hk => ?_) fun k r' hr' => ?_
    · rw [Table.keys_modify, Table.mem_keys, Table.get?_insertIgnore]
      obtain ⟨r, hr⟩ := Table.mem_keys.mp hk
      split
      · exact ⟨_, rfl⟩
      · exact ⟨r, hr⟩
    · have hget : ((s.tasks.insertIgnore (insertedRow now t title requires priority)).modify t
          (madeReady now) (key_madeReady now)).get? k = some r' := hr'
      have hold : ∀ r, (s.tasks.insertIgnore (insertedRow now t title requires priority)).get? k =
          some r → RowSound s.nodes r := by
        intro r hr
        rw [Table.get?_insertIgnore] at hr
        split at hr
        · rename_i hk
          obtain rfl := Option.some.inj hr
          cases hrow : s.tasks.get? k with
          | some r => exact hs.get? hrow
          | none =>
            rcases hnew with hmem | ⟨htitle, hpriority⟩
            · obtain ⟨r, hr⟩ := Table.mem_keys.mp hmem
              have hkt : k = t := hk
              rw [hkt, hr] at hrow
              cases hrow
            · exact ⟨htitle, hpriority, fun n hn => by cases hn⟩
        · exact hs.get? hr
      rw [Table.get?_modify] at hget
      split at hget
      · obtain ⟨r, hr, rfl⟩ := Option.map_eq_some_iff.mp hget
        exact (hold r hr).madeReady
      · exact hold r' hget
  · cases h

theorem keepsSound_setTaskStatus (status : TaskStatus) (failReason : String) :
    KeepsSound s (s.setTaskStatus now t status failReason) :=
  fun h => h.modify _ fun _ hr => ⟨hr.title, hr.priority, hr.assignee⟩

theorem keepsSound_setDependencies (deps : List TaskId) :
    KeepsSound s (s.setDependencies now t deps) :=
  fun h => h.modify _ fun _ hr => ⟨hr.title, hr.priority, hr.assignee⟩

theorem keepsSound_unassignTask : KeepsSound s (s.unassignTask now t) :=
  fun h => h.modify _ fun _ hr => ⟨hr.title, hr.priority, fun _ hn => by cases hn⟩

theorem keepsSound_unblockTask : KeepsSound s (s.unblockTask now t).2 :=
  fun h => h.modify _ fun _ hr => hr.unblocked

theorem keepsSound_setAssignee (hn : n ∈ s.nodes.keys) : KeepsSound s (s.setAssignee t n) :=
  fun h => h.modify _ fun _ hr => hr.assigned hn rfl rfl rfl

theorem keepsSound_assignTask (hn : n ∈ s.nodes.keys) : KeepsSound s (s.assignTask now t n) :=
  fun h => h.modify _ fun _ hr => hr.assigned hn rfl rfl rfl

theorem keepsSound_updateTask {title : Option String} {priority : Option Int}
    {requires : Option (List Capability)} {deps : Option (List TaskId)}
    (h : s.updateTask now t title priority requires deps = .ok ((), s')) : KeepsSound s s' := by
  intro hs
  rw [updateTask] at h
  split at h
  · cases h
  rename_i htitle
  split at h
  · cases h
  rename_i hpriority
  cases h
  exact hs.modify _ fun _ hr => hr.updatedBy requires deps htitle hpriority

/-- What a deletion leaves is of the tasks it leaves. -/
theorem keepsSound_deleteTasks (ids : List TaskId) : KeepsSound s (s.deleteTasks ids) := by
  intro h
  have hkept : ∀ k n, k ∉ ids → s.Refers k n → (s.deleteTasks ids).Refers k n := by
    rintro k n hk ⟨ht, hn⟩
    refine ⟨?_, hn⟩
    rw [Table.mem_keys] at ht ⊢
    rw [get?_deleteTasks, if_neg hk]
    exact ht
  refine ⟨fun r hr => ?_, fun l hl => ?_, fun d hd => ?_⟩
  · exact h.row r (List.mem_filter.mp hr).1
  · obtain ⟨hmem, hnot⟩ := List.mem_filter.mp hl
    exact hkept _ _ (by simpa using hnot) (h.lease l hmem)
  · obtain ⟨hmem, hnot⟩ := List.mem_filter.mp hd
    exact hkept _ _ (by simpa using hnot) (h.decision d hmem)

theorem keepsSound_recordDecision {d : SchedulingDecision} (hd : s.Refers d.taskId d.nodeId) :
    KeepsSound s (s.recordDecision d) := by
  intro h
  refine ⟨h.row, h.lease, fun e he => ?_⟩
  rw [decisions_recordDecision, recorded, if_neg (List.cons_ne_nil d [])] at he
  rcases List.mem_append.mp (List.mem_of_mem_drop he) with hold | hnew
  · exact h.decision e hold
  · rw [List.mem_singleton.mp hnew]
    exact hd

theorem keepsSound_triggerPendingTasks : KeepsSound s (s.triggerPendingTasks now).2 := by
  -- the loop writes the rows of tasks and nothing else
  have hrest : ∀ (l : List TaskRow) (acc : Nat × ClusterStore), acc.2.Sound →
      (l.foldl (triggerOne now) acc).2.Sound := by
    intro l
    induction l with
    | nil => exact fun _ h => h
    | cons r l ih =>
      intro acc h
      refine ih _ ?_
      rw [triggerOne_eq]
      split
      · exact h.modify _ fun _ hr => hr.madeReady
      · exact h
  exact hrest _ (0, s)

theorem keys_assignTask (s : ClusterStore) (now : Time) (t : TaskId) (n : NodeId) :
    (s.assignTask now t n).tasks.keys = s.tasks.keys :=
  Table.keys_modify _ _ (assignedOn now n) fun _ => rfl

/-- One turn of the loop of `schedule_pending`, for a task and nodes that are there. -/
theorem sound_scheduleOne {online : List Node} {acc : Nat × ClusterStore} {x : Task}
    (hx : x.id ∈ acc.2.tasks.keys) (honline : ∀ n ∈ online, n.id ∈ acc.2.nodes.keys)
    (h : acc.2.Sound) : (scheduleOne online now acc x).2.Sound := by
  rw [scheduleOne]
  split
  · rename_i node hnode
    have hn := honline node (List.mem_of_find?_eq_some hnode)
    have hkeys : x.id ∈ (acc.2.assignTask now x.id node.id).tasks.keys := by
      rw [keys_assignTask]
      exact hx
    exact keepsSound_recordDecision ⟨hkeys, hn⟩ (keepsSound_assignTask hn h)
  · exact h

theorem keys_scheduleOne (online : List Node) (acc : Nat × ClusterStore) (x : Task) :
    (scheduleOne online now acc x).2.tasks.keys = acc.2.tasks.keys := by
  rw [scheduleOne]
  split
  · exact keys_assignTask acc.2 now x.id _
  · rfl

theorem nodes_scheduleOne (online : List Node) (acc : Nat × ClusterStore) (x : Task) :
    (scheduleOne online now acc x).2.nodes = acc.2.nodes :=
  nodes_foldl_scheduleOne online [x] acc

theorem sound_foldl_scheduleOne {online : List Node} (l : List Task) {acc : Nat × ClusterStore}
    (hl : ∀ x ∈ l, x.id ∈ acc.2.tasks.keys) (honline : ∀ n ∈ online, n.id ∈ acc.2.nodes.keys)
    (h : acc.2.Sound) : (l.foldl (scheduleOne online now) acc).2.Sound := by
  induction l generalizing acc with
  | nil => exact h
  | cons x l ih =>
    refine ih (fun y hy => ?_) ?_ (sound_scheduleOne (hl x List.mem_cons_self) honline h)
    · rw [keys_scheduleOne]
      exact hl y (List.mem_cons_of_mem x hy)
    · rw [nodes_scheduleOne]
      exact honline

theorem keepsSound_schedulePending {m : Nat} (h : s.schedulePending now = .ok (m, s')) :
    KeepsSound s s' := by
  intro hs
  rw [schedulePending_eq (schedulable_of_ok h)] at h
  have hafter := congrArg Prod.snd (Except.ok.inj h)
  dsimp only at hafter
  rw [← hafter]
  split
  · exact hs
  refine sound_foldl_scheduleOne _ (fun x hx => ?_) (fun n hn => ?_) hs
  · obtain ⟨r, hr, rfl⟩ := List.mem_map.mp hx
    rw [readRow_id, Table.mem_keys]
    exact ⟨r, (mem_readyRows.mp hr).1⟩
  · exact List.mem_map_of_mem (List.mem_filter.mp hn).1

/-- A task state that may be written: the task is there or it has a title, and it is assigned to no
unknown node. -/
def SyncsSound (s : ClusterStore) (msg : SyncMessage) : Prop :=
  ∀ ts ∈ msg.taskState, (ts.taskId ∈ s.tasks.keys ∨ blank ts.title = false) ∧
    ∀ n ∈ ts.assignedTo, n ∈ s.nodes.keys

instance (s : ClusterStore) (msg : SyncMessage) : Decidable (s.SyncsSound msg) :=
  inferInstanceAs (Decidable (∀ ts ∈ msg.taskState, _))

theorem keepsSound_applyTaskState {ts : TaskSync}
    (hnew : ts.taskId ∈ s.tasks.keys ∨ blank ts.title = false)
    (hn : ∀ n, ts.assignedTo = some n → n ∈ s.nodes.keys) :
    KeepsSound s (s.applyTaskState now ts) := by
  intro h
  rw [applyTaskState]
  split
  · exact h.modify _ fun _ hr => ⟨hr.title, hr.priority, hn⟩
  · rename_i hnone
    refine h.of_rows rfl rfl rfl (fun k hk => ?_) fun k r' hr' => ?_
    · show k ∈ (s.tasks.put (syncedNew now ts)).keys
      rw [Table.keys_put_new hnone]
      exact List.mem_append_left _ hk
    · have hget : (s.tasks.put (syncedNew now ts)).get? k = some r' := hr'
      rw [Table.get?_put] at hget
      split at hget
      · obtain rfl := Option.some.inj hget
        have hpriority : 1 ≤ (3 : Int) ∧ (3 : Int) ≤ 5 := by decide
        refine ⟨hnew.resolve_left fun hmem => ?_, hpriority, hn⟩
        obtain ⟨r, hr⟩ := Table.mem_keys.mp hmem
        rw [hnone] at hr
        cases hr
      · exact h.get? hget

theorem keepsSound_logged {msg : SyncMessage} (hmsg : s.SyncsSound msg) :
    KeepsSound s (s.logged now msg) := by
  intro hs
  have hlogged : ({ s with syncLog := s.syncLog ++ [msg] } : ClusterStore).Sound :=
    ⟨hs.row, hs.lease, hs.decision⟩
  rw [logged]
  cases hts : msg.taskState with
  | none => exact hlogged
  | some ts => exact keepsSound_applyTaskState (hmsg ts hts).1 (hmsg ts hts).2 hlogged

/-- Nothing goes. -/
def Grows (s s' : ClusterStore) : Prop :=
  s.nodes.keys ⊆ s'.nodes.keys ∧ s.tasks.keys ⊆ s'.tasks.keys

theorem Grows.refl (s : ClusterStore) : Grows s s :=
  ⟨List.Subset.refl _, List.Subset.refl _⟩

theorem SyncsSound.grows {msg : SyncMessage} (h : s.SyncsSound msg) (hg : Grows s s') :
    s'.SyncsSound msg := by
  intro ts hts
  obtain ⟨hnew, hn⟩ := h ts hts
  exact ⟨hnew.imp_left fun hmem => hg.2 hmem, fun n hnode => hg.1 (hn n hnode)⟩

theorem grows_applyTaskState (ts : TaskSync) : Grows s (s.applyTaskState now ts) := by
  refine ⟨?_, fun k hk => ?_⟩
  · rw [applyTaskState]
    split
    · exact List.Subset.refl _
    · exact List.Subset.refl _
  · rw [Table.mem_keys, get?_applyTaskState]
    split
    · exact ⟨_, rfl⟩
    · exact Table.mem_keys.mp hk

theorem grows_logged (msg : SyncMessage) : Grows s (s.logged now msg) := by
  rw [logged]
  cases msg.taskState with
  | none => exact Grows.refl s
  | some ts => exact grows_applyTaskState (s := { s with syncLog := s.syncLog ++ [msg] }) ts

end ClusterStore

open ClusterStore

/-- The writes of `TaskManager` keep the tables sound. -/
theorem ClusterStore.keepsSound_writes (now : Time) : WriteRules now KeepsSound where
  refl := KeepsSound.refl
  trans := KeepsSound.trans
  createTask htitle hlow hhigh h := keepsSound_createTask (.inr ⟨htitle, hlow, hhigh⟩) h
  setDependencies _ _ deps := keepsSound_setDependencies deps
  setTaskStatus _ _ status failReason := keepsSound_setTaskStatus status failReason
  setAssignee _ hn := keepsSound_setAssignee hn
  updateTask h := keepsSound_updateTask h
  deleteTasks _ ids := keepsSound_deleteTasks ids
  triggerPendingTasks _ := keepsSound_triggerPendingTasks
  schedulePending h := keepsSound_schedulePending h
  assignTask _ hn := keepsSound_assignTask hn

/-- **One call of `TaskManager`**, whatever it is given. -/
theorem TaskOp.keepsSound (now : Time) (op : TaskOp) (s : ClusterStore) :
    KeepsSound s ((op.program now).run s).2 :=
  op.keeps (keepsSound_writes now) s

/-! ### The methods of the store -/

namespace Session

variable (now : Time)

theorem keepsSound_createLease (token : String) {t : TaskId} {nodeId : NodeId} (ttl : Duration)
    {s : ClusterStore} (href : s.Refers t nodeId) :
    KeepsSound s ((createLease now token t nodeId ttl).run s).2 := by
  rw [createLease]
  refine Prog.rel_read_bind (KeepsSound.refl s) fun _ _ => ?_
  refine Prog.rel_tx KeepsSound.refl fun lease s' hc h => ?_
  obtain ⟨hl, rfl⟩ := ClusterStore.createLease_inv hc
  refine h.of_leases fun l hmem => ?_
  rw [Table.mem_rows_iff, Table.get?_put] at hmem
  split at hmem
  · rw [← Option.some.inj hmem, hl]
    exact href
  · exact h.lease l (Table.mem_of_get? hmem)

theorem keepsSound_getActiveLeases (s : ClusterStore) :
    KeepsSound s ((getActiveLeases now).run s).2 := by
  rw [getActiveLeases]
  refine Prog.rel_bind KeepsSound.trans (fun s => ?_) (fun rows s => ?_) s
  · exact KeepsSound.refl s
  split
  · intro h
    refine h.of_leases fun l hl => ?_
    obtain ⟨old, hold, rfl⟩ := List.mem_map.mp hl
    rw [Lease.aged_taskId, Lease.aged_nodeId]
    exact h.lease old hold
  · exact KeepsSound.refl s

theorem keepsSound_handleSyncMessage {msg : SyncMessage} {s : ClusterStore}
    (hmsg : s.SyncsSound msg) : KeepsSound s ((handleSyncMessage now msg).run s).2 := by
  rw [handleSyncMessage]
  refine Prog.rel_read_bind (KeepsSound.refl s) fun current _ => ?_
  split
  · exact KeepsSound.refl s
  · refine Prog.rel_tx KeepsSound.refl fun _ s' h => ?_
    rcases handleSyncMessage_inv h with rfl | rfl
    · exact KeepsSound.refl _
    · exact keepsSound_logged hmsg

theorem grows_handleSyncMessage (msg : SyncMessage) (s : ClusterStore) :
    Grows s ((handleSyncMessage now msg).run s).2 := by
  rw [handleSyncMessage]
  refine Prog.rel_read_bind (Grows.refl s) fun current _ => ?_
  split
  · exact Grows.refl s
  · refine Prog.rel_tx Grows.refl fun _ s' h => ?_
    rcases handleSyncMessage_inv h with rfl | rfl
    · exact Grows.refl _
    · exact grows_logged msg

theorem keepsSound_handleBatchSync {messages : List SyncMessage} {s : ClusterStore}
    (hmsgs : ∀ msg ∈ messages, s.SyncsSound msg) :
    KeepsSound s ((handleBatchSync now messages).run s).2 := by
  induction messages generalizing s with
  | nil => exact KeepsSound.refl s
  | cons msg messages ih =>
    rw [handleBatchSync]
    refine Prog.rel_bind_at KeepsSound.trans
      (keepsSound_handleSyncMessage now (hmsgs msg List.mem_cons_self)) fun applied s₁ hr => ?_
    -- what the rest of the batch names is still there
    have hgrows : Grows s s₁ := by
      have := grows_handleSyncMessage now msg s
      rwa [hr] at this
    rw [Prog.run_bind_pure_snd]
    exact ih fun m hm => (hmsgs m (List.mem_cons_of_mem msg hm)).grows hgrows

end Session

/-- What a method of the store is given fits the tables. -/
def StoreCall.Proper (s : ClusterStore) : StoreCall → Prop
  | .createTask taskId title _ priority => s.MayCreate taskId title priority
  | .createLease _ taskId nodeId _ => s.Refers taskId nodeId
  | .recordDecision decision => s.Refers decision.taskId decision.nodeId
  | .handleSyncMessage msg => s.SyncsSound msg
  | .handleBatchSync messages => ∀ msg ∈ messages, s.SyncsSound msg
  | _ => True

instance (s : ClusterStore) : DecidablePred (StoreCall.Proper s) := fun call => by
  cases call <;> unfold StoreCall.Proper <;> infer_instance

/-- **One method of the store**, given what fits the tables. -/
theorem StoreCall.keepsSound (now : Time) {call : StoreCall} {d : Database}
    (hproper : call.Proper d.store) : KeepsSound d.store ((call.program now).run d).2.store := by
  cases call with
  | registerNode node => exact rel_onStore (keepsSound_registerNode node)
  | updateHeartbeat nodeId load => exact rel_onStore (keepsSound_modifyNode _)
  | updateCapabilities nodeId caps => exact rel_onStore (keepsSound_modifyNode _)
  | setNodeStatus nodeId status => exact rel_onStore (keepsSound_modifyNode _)
  | createTask t title requires priority =>
    exact rel_onStore_unit
      (Session.rel_createTask KeepsSound.refl fun _ h => keepsSound_createTask hproper h)
  | setTaskStatus t status failReason =>
    exact rel_onStore_unit (keepsSound_setTaskStatus status failReason)
  | unassignTask t => exact rel_onStore keepsSound_unassignTask
  | unblockTask t => exact rel_onStore_unit keepsSound_unblockTask
  | setDependencies t deps => exact rel_onStore_unit (keepsSound_setDependencies deps)
  | createLease token t nodeId ttl =>
    exact rel_onStore_unit (Session.keepsSound_createLease now token ttl hproper)
  | revokeLease id =>
    refine rel_onStore_unit fun h => h.of_leases fun l hl => ?_
    rw [Table.mem_rows_iff, Table.get?_modify] at hl
    split at hl
    · obtain ⟨old, hold, rfl⟩ := Option.map_eq_some_iff.mp hl
      exact h.lease old (Table.mem_of_get? hold)
    · exact h.lease l (Table.mem_of_get? hl)
  | getActiveLeases =>
    exact rel_onStore_unit (Session.keepsSound_getActiveLeases now d.store)
  | handleSyncMessage msg =>
    exact rel_onStore_unit (Session.keepsSound_handleSyncMessage now hproper)
  | handleBatchSync messages =>
    exact rel_onStore_unit (Session.keepsSound_handleBatchSync now hproper)
  | triggerPendingTasks => exact rel_onStore_unit keepsSound_triggerPendingTasks
  | schedulePending =>
    exact rel_onStore_unit
      (Prog.rel_tx KeepsSound.refl fun _ _ h => keepsSound_schedulePending h)
  | recordDecision decision =>
    refine rel_onStore (Prog.rel_tx KeepsSound.refl fun _ s' h => ?_)
    obtain ⟨-, rfl⟩ := Prod.mk.inj (eq_of_check h)
    exact keepsSound_recordDecision hproper
  | appendRecoveryEvent | triggerRecovery | registerHook | addDelivery | setConfig
  | registerFederationCluster | removeFederationCluster | deregisterHook =>
    exact rel_elsewhere KeepsSound.refl trivial

/-! ### Runs -/

/-- What an operation is given fits the tables; what `TaskManager` is given always does. -/
def DbOp.Proper (s : ClusterStore) : DbOp → Prop
  | .store call => call.Proper s
  | .manager _ => True
  | .updateNodeStatus _ _ => True

instance (s : ClusterStore) : DecidablePred (DbOp.Proper s) := fun op => by
  cases op <;> unfold DbOp.Proper <;> infer_instance

namespace Database

/-- The tables are sound, those committed and those a reader sees. -/
def SoundTables (c : Connection Database) : Prop :=
  c.committed.store.Sound ∧ c.visible.store.Sound

theorem sound_step {c : Connection Database} {i : Time × DbOp} (h : SoundTables c)
    (hproper : i.2.Proper c.visible.store) : SoundTables (step c i) := by
  obtain ⟨now, op⟩ := i
  cases op with
  | store call =>
    exact Prog.exec_keeps_at (I := fun d : Database => d.store.Sound) h.1
      (call.keepsSound now hproper h.2)
  | manager call =>
    exact Prog.exec_keeps_at (I := fun d : Database => d.store.Sound) h.1
      (rel_onStore (call.keepsSound now c.visible.store) h.2)
  | updateNodeStatus nodeId status => exact ⟨h.1, keepsSound_modifyNode _ h.2⟩

/-- **The tables stay sound** along every run whose store calls are given what fits the tables
they find, whatever is rolled back: every lease and every decision is of a task that is there and
names a node that is there, every task is assigned to a known node or to none, and it has a title
and a priority from 1 to 5. -/
theorem sound_run {d : Database} (h : d.store.Sound) (run : List (Time × DbOp))
    (hproper : Run.EachStep step (fun c i => i.2.Proper c.visible.store) (Connection.opened d)
      run) : Run.Always step SoundTables (Connection.opened d) run :=
  Run.always_of_eachStep (fun _ _ => sound_step) run (Connection.opened d) ⟨h, h⟩ hproper

theorem sound_empty : ({} : ClusterStore).Sound :=
  ⟨fun _ h => (List.not_mem_nil h).elim, fun _ h => (List.not_mem_nil h).elim,
    fun _ h => (List.not_mem_nil h).elim⟩

/-- A task is created on a node and leased; a priority SQLite cannot hold rolls back the status the
watchdog wrote; then the task is cancelled and deleted. -/
def deletedTaskRun : List (Time × DbOp) :=
  [(0, .store (.registerNode { id := "node_a", name := "a", lastHeartbeat := ⟨0, none⟩ })),
    (1, .manager (.create "1" "build" [] 3 [] (some "node_a"))),
    (2, .store (.createLease "1" "task_1" "node_a" 60000000)),
    (3, .updateNodeStatus "node_a" .offline),
    (4, .store (.createTask "task_1" "build" [] 9223372036854775808)),
    (5, .manager (.cancel "task_1")),
    (6, .manager (.delete "task_1"))]

theorem sound_run_deletedTask :
    Run.Always step SoundTables (Connection.opened {}) deletedTaskRun := by
  refine sound_run sound_empty deletedTaskRun ?_
  simp only [deletedTaskRun, Run.eachStep_cons]
  exact ⟨trivial, trivial, by decide +kernel, trivial, by decide +kernel, trivial, trivial,
    Run.eachStep_nil _⟩

end Database

end HermesCluster
