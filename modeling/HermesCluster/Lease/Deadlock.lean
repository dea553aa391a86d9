import HermesCluster.Lib.Threads
import HermesCluster.Lease.Locks

/-!
# Threads on one store

The methods of `ClusterState` and of its `LeaseManager` as threads: what they do between
acquiring and releasing which locks.  Request handlers and the lease scanner call them one
after the other, each on a thread of its own.  Of the store's methods that only read, those of
the leases are here, and of its callbacks the locks they take.

* `represents_perform`: run alone, a lease operation is the one of `ManagedStore.perform`.
* `alone_schedulePending`, `alone_handleBatchSync`, `alone_updateCapabilities`: run alone, the
  methods of several parts are those of the store.
* `calls_complete`: any number of threads with any calls, none of which is `extend`, never
  block each other for good.
* `extend_deadlocks`: `extend` and a scan do, on every store with a lease that is due.
-/

namespace HermesCluster.ManagedStore

open Thread

abbrev Act := Thread Lock ManagedStore

namespace Act

/-! ### The lease operations -/

def storeCreateLease (now : Time) (token : String) (taskId : TaskId) (nodeId : NodeId)
    (ttl : Duration) : Act (Except PyError Lease) :=
  match addTtl now ttl with
  | .error e => pure (.error e)
  | .ok _ => withLock .leases (lift fun w =>
    match w.store.createLease now token taskId nodeId ttl with
    | .error e => (.error e, w)
    | .ok (lease, store) => (.ok lease, { w with store := store }))

def storeRevokeLease (leaseId : LeaseId) : Act Bool :=
  withLock .leases (lift fun w =>
    ((w.store.revokeLease leaseId).1, { w with store := (w.store.revokeLease leaseId).2 }))

def storeGetLeaseByTask (taskId : TaskId) : Act (Option Lease) :=
  if taskId = "" then pure none
  else withLock .leases (lift fun w => (w.store.getLeaseByTask taskId, w))

/-- Code of which only the locks are known, taken one after the other. -/
def taking (locks : List Lock) : Act Unit := each (fun l => withLock l (pure ())) locks

def callBack (taskId : TaskId) (nodeId : NodeId) (cb : TaskId → NodeId → List Lock) : Act Unit :=
  taking (cb taskId nodeId)

/-- `_on_lease_expired` -/
def onLeaseExpired (taskId : TaskId) (nodeId : NodeId) : Act Unit := do
  let callbacks ← withLock .manager (lift fun w =>
    (w.callbacks, { w with totalExpired := w.totalExpired + 1 }))
  each (callBack taskId nodeId) callbacks

def storeGetActiveLeases (now : Time) : Act (List Lease) := withLock .leases do
  let (active, expired) ← lift fun w =>
    (((w.store.getActiveLeases now).1, w.due now),
      { w with store := (w.store.getActiveLeases now).2 })
  each (fun lease : Lease => onLeaseExpired lease.taskId lease.nodeId) expired
  return active

def create (now : Time) (token : String) (taskId : TaskId) (nodeId : NodeId)
    (ttl : Option Duration) : Act (Except PyError Lease) :=
  if taskId = "" then pure (.error (.valueError "task_id is required"))
  else if nodeId = "" then pure (.error (.valueError "node_id is required"))
  else do
    let ttl ← lift fun w => (w.manager.effectiveTtl ttl, w)
    match ← storeCreateLease now token taskId nodeId ttl with
    | .error e => return .error e
    | .ok lease =>
      withLock .manager (lift fun w =>
        ((), { w with manager.totalCreated := w.manager.totalCreated + 1 }))
      return .ok lease

def revoke (leaseId : LeaseId) : Act Bool :=
  if leaseId = "" then pure false else do
    let result ← storeRevokeLease leaseId
    if result then
      withLock .manager (lift fun w =>
        ((), { w with manager.totalRevoked := w.manager.totalRevoked + 1 }))
    return result

def getByTask (taskId : TaskId) : Act (Option Lease) :=
  if taskId = "" then pure none else storeGetLeaseByTask taskId

def extend (now : Time) (token : String) (leaseId : LeaseId) (additionalTtl : Option Duration) :
    Act (Except PyError (Option Lease)) :=
  if leaseId = "" then pure (.ok none) else withLock .manager do
    let ttl ← lift fun w => (w.manager.effectiveTtl additionalTtl, w)
    let activeLeases ← storeGetActiveLeases now
    match activeLeases.find? (fun l => l.id = leaseId) with
    | none => return .ok none
    | some lease =>
      match ← storeCreateLease now token lease.taskId lease.nodeId ttl with
      | .error e => return .error e
      | .ok newLease =>
        let _ ← storeRevokeLease leaseId
        return .ok (some newLease)

def metrics : Act (Nat × Nat) :=
  withLock .manager (lift fun w => ((w.activeCount, w.expiredCount), w))

def stats (now : Time) : Act LeaseStats := do
  let active ← storeGetActiveLeases now
  withLock .manager (lift fun w =>
    ({ activeCount := active.length, totalCreated := w.manager.totalCreated
       totalRevoked := w.manager.totalRevoked, totalExpired := w.totalExpired }, w))

/-- `_scan_once` -/
def scanOnce (now : Time) : Act Unit := do
  let active ← storeGetActiveLeases now
  withLock .manager (lift fun w => ((), { w with activeCount := active.length }))

/-- A lease operation, whatever it returns. -/
def perform (now : Time) : Operation → Act Unit
  | .create token taskId nodeId ttl => do let _ ← create now token taskId nodeId ttl
  | .revoke leaseId => do let _ ← revoke leaseId
  | .listActive => do let _ ← storeGetActiveLeases now
  | .getByTask taskId => do let _ ← getByTask taskId
  | .extend token leaseId ttl => do let _ ← extend now token leaseId ttl
  | .metrics => do let _ ← metrics
  | .stats => do let _ ← stats now
  | .scanOnce => scanOnce now

/-! ### Run alone -/

theorem represents_storeCreateLease (now : Time) (token : String) (taskId : TaskId)
    (nodeId : NodeId) (ttl : Duration) :
    Represents (storeCreateLease now token taskId nodeId ttl)
      (ManagedStore.storeCreateLease now token taskId nodeId ttl) := by
  unfold storeCreateLease ManagedStore.storeCreateLease
  cases addTtl now ttl with
  | error e => exact represents_pure _
  | ok expiresAt => exact represents_section _ _

theorem represents_storeRevokeLease (leaseId : LeaseId) :
    Represents (storeRevokeLease leaseId) (ManagedStore.storeRevokeLease leaseId) :=
  represents_section _ _

theorem represents_storeGetActiveLeases (now : Time) :
    Represents (storeGetActiveLeases now) (ManagedStore.storeGetActiveLeases now) := by
  refine Represents.withLock Lock.leases ((represents_lift _).bind fun r => ?_)
  refine Represents.bind (Represents.each (fun lease => ?_) r.2) fun _ => represents_pure _
  refine (represents_section _ _).bind fun callbacks => ?_
  exact Represents.each
    (fun _ => Represents.each (fun l => (represents_pure ()).withLock l) _) callbacks

theorem represents_create (now : Time) (token : String) (taskId : TaskId) (nodeId : NodeId)
    (ttl : Option Duration) : Represents (create now token taskId nodeId ttl)
      (ManagedStore.create now token taskId nodeId ttl) := by
  unfold create ManagedStore.create
  split
  · exact represents_pure _
  · split
    · exact represents_pure _
    · refine (represents_lift _).bind fun ttl => ?_
      refine (represents_storeCreateLease now token taskId nodeId ttl).bind fun result => ?_
      cases result with
      | error e => exact represents_pure _
      | ok lease =>
        exact (represents_section _ _).bind fun _ => represents_pure _

theorem represents_revoke (leaseId : LeaseId) :
    Represents (revoke leaseId) (ManagedStore.revoke leaseId) := by
  unfold revoke ManagedStore.revoke
  split
  · exact represents_pure _
  · refine (represents_storeRevokeLease leaseId).bind fun result => ?_
    cases result with
    | false => exact represents_pure _
    | true => exact (represents_section _ _).bind fun _ => represents_pure _

theorem represents_extend (now : Time) (token : String) (leaseId : LeaseId)
    (ttl : Option Duration) :
    Represents (extend now token leaseId ttl) (ManagedStore.extend now token leaseId ttl) := by
  unfold extend ManagedStore.extend
  split
  · exact represents_pure _
  · refine Represents.withLock Lock.manager ((represents_lift _).bind fun ttl => ?_)
    refine (represents_storeGetActiveLeases now).bind fun active => ?_
    cases active.find? (fun l => l.id = leaseId) with
    | none => exact represents_pure _
    | some lease =>
      refine (represents_storeCreateLease now token lease.taskId lease.nodeId ttl).bind
        fun result => ?_
      cases result with
      | error e => exact represents_pure _
      | ok newLease =>
        exact (represents_storeRevokeLease leaseId).bind fun _ => represents_pure _

theorem represents_getByTask (taskId : TaskId) :
    Represents (getByTask taskId) (ManagedStore.getByTask taskId) := by
  unfold getByTask ManagedStore.getByTask storeGetLeaseByTask ManagedStore.storeGetLeaseByTask
  split
  · exact represents_pure _
  · exact represents_section _ _

/-- **One thread alone.**  A lease operation does what `ManagedStore.perform` says, and waits
for itself exactly when that does. -/
theorem represents_perform (now : Time) (op : Operation) :
    Represents (perform now op) (ManagedStore.perform now op) := by
  have hscan := represents_storeGetActiveLeases now
  cases op with
  | create token taskId nodeId ttl =>
    exact (represents_create now token taskId nodeId ttl).bind fun _ => represents_pure _
  | revoke leaseId => exact (represents_revoke leaseId).bind fun _ => represents_pure _
  | listActive => exact hscan.bind fun _ => represents_pure _
  | getByTask taskId => exact (represents_getByTask taskId).bind fun _ => represents_pure _
  | extend token leaseId ttl =>
    exact (represents_extend now token leaseId ttl).bind fun _ => represents_pure _
  | metrics => exact (represents_section _ _).bind fun _ => represents_pure _
  | stats =>
    refine Represents.bind (hscan.bind fun active => ?_) fun _ => represents_pure _
    exact represents_section _ _
  | scanOnce => exact hscan.bind fun active => represents_section _ _

/-! ### The other methods of the store -/

/-- A method of `ClusterState` under one lock of its own. -/
def method (lock : String) (f : ClusterState → ClusterState) : Act Unit :=
  withLock (.other lock) (lift fun w => ((), { w with store := f w.store }))

/-- `register_node` gives the lock back before the callback. -/
def registerNode (node : Node) : Act Unit := do
  method "_nodes_lock" (·.registerNode node)
  let locks ← lift fun w => (w.onNodeOnline node.id, w)
  taking locks

/-- What the callback takes for the change of a node, if the node is there. -/
def changeLocks (w : ManagedStore) (nodeId : NodeId) (caps : List Capability) : List Lock :=
  (w.store.nodes.get? nodeId).elim [] fun node =>
    w.onCapabilityChange nodeId node.capabilities caps

/-- `update_capabilities` calls back while the nodes are locked. -/
def updateCapabilities (nodeId : NodeId) (caps : List Capability) : Act Unit :=
  withLock (.other "_nodes_lock") do
    let locks ← lift fun w =>
      (changeLocks w nodeId caps, { w with store := w.store.updateCapabilities nodeId caps })
    taking locks

/-- The body of the loop of `schedule_pending`. -/
def scheduleOne (online : List Node) (now : Time) (task : Task) : Act Unit :=
  match online.find? (ClusterState.fits task.requires) with
  | some node => do
    lift fun w => ((), { w with store := w.store.assignTask now task.id node.id })
    method "_schedule_lock" (·.recordDecision
      { taskId := task.id, taskTitle := task.title, priority := task.priority,
        nodeId := node.id, score := 1, reason := "capability_match", timestamp := now })
  | none => pure ()

/-- `schedule_pending`: the nodes are read first, and each decision is recorded while the tasks
are locked. -/
def schedulePending (now : Time) : Act Unit := do
  let online ← withLock (.other "_nodes_lock") (lift fun w => (w.store.onlineNodes, w))
  if online = [] then return ()
  else withLock (.other "_tasks_lock") do
    let ready ← lift fun w => (w.store.readyTasks, w)
    each (scheduleOne online now) ready

/-- The test of `handle_sync_message`, under the lock of the version. -/
def takeVersion (version : Int) : Act Bool :=
  withLock (.other "_sync_lock") (lift fun w =>
    if version ≤ w.store.syncVersion then (false, w)
    else (true, { w with store.syncVersion := version }))

/-- `handle_sync_message`: the task state is applied under another lock than the version. -/
def handleSyncMessage (now : Time) (msg : SyncMessage) : Act Bool := do
  let fresh ← takeVersion msg.version
  if fresh then
    match msg.taskState with
    | some ts =>
      method "_tasks_lock" (·.applyTaskState now ts)
      return true
    | none => return true
  else return false

/-- `handle_batch_sync` -/
def handleBatchSync (now : Time) : List SyncMessage → Act Nat
  | [] => return 0
  | msg :: messages => do
    let applied ← handleSyncMessage now msg
    let count ← handleBatchSync now messages
    return count + if applied then 1 else 0

/-- The calls a thread makes on the store and its lease manager. -/
inductive Call
  | lease (op : Operation)
  | onExpire (callback : TaskId → NodeId → List Lock)
  | clearCallbacks
  | setOnNodeOnline (callback : NodeId → List Lock)
  | setOnCapabilityChange (callback : NodeId → List Capability → List Capability → List Lock)
  | registerNode (node : Node)
  | updateCapabilities (nodeId : NodeId) (caps : List Capability)
  | updateHeartbeat (nodeId : NodeId) (load : Load)
  | setNodeStatus (nodeId : NodeId) (status : NodeStatus)
  | createTask (taskId : TaskId) (title : String) (requires : List Capability) (priority : Int)
  | setTaskStatus (taskId : TaskId) (status : TaskStatus) (failReason : String)
  | unassignTask (taskId : TaskId)
  | unblockTask (taskId : TaskId)
  | setDependencies (taskId : TaskId) (dependsOn : List TaskId)
  | createLease (token : String) (taskId : TaskId) (nodeId : NodeId) (ttl : Duration)
  | revokeLease (leaseId : LeaseId)
  | getActiveLeases
  | triggerPendingTasks
  | schedulePending
  | recordDecision (decision : SchedulingDecision)
  | handleSyncMessage (msg : SyncMessage)
  | handleBatchSync (messages : List SyncMessage)
  | appendRecoveryEvent (event : RecoveryEvent)

/-- A call at a clock reading, whatever it returns. -/
def call (now : Time) : Call → Act Unit
  | .lease op => perform now op
  | .onExpire callback =>
    withLock .manager (lift fun w => ((), { w with callbacks := w.callbacks ++ [callback] }))
  | .clearCallbacks => withLock .manager (lift fun w => ((), { w with callbacks := [] }))
  | .setOnNodeOnline callback => lift fun w => ((), { w with onNodeOnline := callback })
  | .setOnCapabilityChange callback =>
    lift fun w => ((), { w with onCapabilityChange := callback })
  | .registerNode node => registerNode node
  | .updateCapabilities nodeId caps => updateCapabilities nodeId caps
  | .updateHeartbeat nodeId load => method "_nodes_lock" (·.updateHeartbeat now nodeId load)
  | .setNodeStatus nodeId status => method "_nodes_lock" (·.setNodeStatus nodeId status)
  | .createTask taskId title requires priority =>
    method "_tasks_lock" (·.createTask now taskId title requires priority)
  | .setTaskStatus taskId status failReason =>
    method "_tasks_lock" (·.setTaskStatus now taskId status failReason)
  | .unassignTask taskId => method "_tasks_lock" (·.unassignTask now taskId)
  | .unblockTask taskId => method "_tasks_lock" fun s => (s.unblockTask now taskId).2
  | .setDependencies taskId dependsOn =>
    method "_tasks_lock" (·.setDependencies now taskId dependsOn)
  | .createLease token taskId nodeId ttl => do
    let _ ← storeCreateLease now token taskId nodeId ttl
  | .revokeLease leaseId => do let _ ← storeRevokeLease leaseId
  | .getActiveLeases => do let _ ← storeGetActiveLeases now
  | .triggerPendingTasks => method "_tasks_lock" fun s => (s.triggerPendingTasks now).2
  | .schedulePending => schedulePending now
  | .recordDecision decision => method "_schedule_lock" (·.recordDecision decision)
  | .handleSyncMessage msg => do let _ ← handleSyncMessage now msg
  | .handleBatchSync messages => do let _ ← handleBatchSync now messages
  | .appendRecoveryEvent event => method "_recovery_lock" (·.appendRecoveryEvent now event)

/-- What a thread does that makes these calls one after the other. -/
def session (calls : List (Time × Call)) : Act Unit := each (fun c => call c.1 c.2) calls

theorem alone_method {held : List Lock} {lock : String} (h : Lock.other lock ∉ held)
    (f : ClusterState → ClusterState) (w : ManagedStore) :
    (method lock f).alone held w = some ((), held, { w with store := f w.store }) :=
  alone_section h _ w

theorem alone_taking {held : List Lock} (locks : List Lock) (h : ∀ l ∈ locks, l ∉ held)
    (w : ManagedStore) : (taking locks).alone held w = some ((), held, w) := by
  induction locks with
  | nil => rfl
  | cons l locks ih =>
    have hone : (withLock l (pure ()) : Act Unit).alone held w = some ((), held, w) :=
      alone_withLock (h l List.mem_cons_self) rfl
    rw [taking, each, alone_bind_of_some _ hone]
    exact ih fun m hm => h m (List.mem_cons_of_mem l hm)

/-- **`register_node`** run alone is the one of the store, whatever the callback takes. -/
theorem alone_registerNode (node : Node) (w : ManagedStore) :
    (registerNode node).alone [] w =
      some ((), [], { w with store := w.store.registerNode node }) := by
  rw [registerNode, alone_bind_of_some _ (alone_method List.not_mem_nil _ w)]
  exact alone_taking _ (fun _ _ => List.not_mem_nil) _

theorem not_mem_changeLocks {w : ManagedStore} {nodeId : NodeId} {caps : List Capability}
    {l : Lock} (h : ∀ old, l ∉ w.onCapabilityChange nodeId old caps) :
    l ∉ changeLocks w nodeId caps := by
  rw [changeLocks]
  cases w.store.nodes.get? nodeId with
  | none => exact List.not_mem_nil
  | some node => exact h node.capabilities

/-- **`update_capabilities`** run alone is the one of the store, as long as the callback leaves
the lock of the nodes alone. -/
theorem alone_updateCapabilities (nodeId : NodeId) (caps : List Capability) (w : ManagedStore)
    (h : ∀ old, Lock.other "_nodes_lock" ∉ w.onCapabilityChange nodeId old caps) :
    (updateCapabilities nodeId caps).alone [] w =
      some ((), [], { w with store := w.store.updateCapabilities nodeId caps }) := by
  refine alone_withLock List.not_mem_nil (alone_taking _ (fun l hl hheld => ?_) _)
  rw [List.mem_singleton.mp hheld] at hl
  exact not_mem_changeLocks h hl

/-- **`handle_sync_message`** run alone is the one of the store. -/
theorem alone_handleSyncMessage (now : Time) (msg : SyncMessage) (w : ManagedStore) :
    (handleSyncMessage now msg).alone [] w = some ((w.store.handleSyncMessage now msg).1, [],
      { w with store := (w.store.handleSyncMessage now msg).2 }) := by
  rw [handleSyncMessage, takeVersion,
    alone_bind_of_some _ (alone_section List.not_mem_nil _ w), ClusterState.handleSyncMessage]
  by_cases hv : msg.version ≤ w.store.syncVersion
  · rw [if_pos hv, if_pos hv]
    rfl
  · rw [if_neg hv, if_neg hv]
    cases hts : msg.taskState with
    | none => rfl
    | some ts =>
      show (method "_tasks_lock" (·.applyTaskState now ts) >>=
        fun _ => (pure true : Act Bool)).alone [] _ = _
      rw [alone_bind_of_some _ (alone_method List.not_mem_nil _ _)]
      rfl

/-- **`handle_batch_sync`** run alone is the one of the store. -/
theorem alone_handleBatchSync (now : Time) (messages : List SyncMessage) (w : ManagedStore) :
    (handleBatchSync now messages).alone [] w =
      some ((w.store.handleBatchSync now messages).1, [],
        { w with store := (w.store.handleBatchSync now messages).2 }) := by
  induction messages generalizing w with
  | nil => rfl
  | cons msg messages ih =>
    rw [handleBatchSync, alone_bind_of_some _ (alone_handleSyncMessage now msg w),
      alone_bind_of_some _ (ih _)]
    rfl

/-- The loop of `schedule_pending`, run alone. -/
theorem alone_scheduleOne (online : List Node) (now : Time) (ready : List Task)
    (acc : Nat × ClusterState) (w : ManagedStore) :
    (each (scheduleOne online now) ready).alone [.other "_tasks_lock"] { w with store := acc.2 } =
      some ((), [.other "_tasks_lock"],
        { w with store := (ready.foldl (ClusterState.scheduleOne online now) acc).2 }) := by
  induction ready generalizing acc with
  | nil => rfl
  | cons task ready ih =>
    have hone : (scheduleOne online now task).alone [.other "_tasks_lock"]
        { w with store := acc.2 } = some ((), [.other "_tasks_lock"],
          { w with store := (ClusterState.scheduleOne online now acc task).2 }) := by
      have hfree : Lock.other "_schedule_lock" ∉ [Lock.other "_tasks_lock"] := by decide
      rw [scheduleOne, ClusterState.scheduleOne]
      cases online.find? (ClusterState.fits task.requires) with
      | none => rfl
      | some node =>
        exact alone_method hfree (·.recordDecision _)
          { w with store := acc.2.assignTask now task.id node.id }
    rw [each, alone_bind_of_some _ hone, ih, List.foldl_cons]

/-- **`schedule_pending`** run alone is the one of the store. -/
theorem alone_schedulePending (now : Time) (w : ManagedStore) :
    (schedulePending now).alone [] w =
      some ((), [], { w with store := (w.store.schedulePending now).2 }) := by
  rw [schedulePending, alone_bind_of_some _ (alone_section List.not_mem_nil _ w),
    ClusterState.schedulePending]
  by_cases hnone : w.store.onlineNodes = []
  · rw [if_pos hnone, if_pos hnone]
    rfl
  · rw [if_neg hnone, if_neg hnone]
    exact alone_withLock List.not_mem_nil
      (alone_scheduleOne w.store.onlineNodes now w.store.readyTasks (0, w.store) w)

/-! ### The order of the locks -/

/-- The leases are locked before all others, the nodes before all but the leases, and the tasks
before the decisions. -/
def lockRank : Lock → ℕ
  | .leases => 0
  | .manager => 3
  | .other name => if name = "_nodes_lock" then 1 else if name = "_tasks_lock" then 2 else 3

/-- A callback for capabilities leaves the locks of the leases and of the nodes alone. -/
def LeavesNodes (callback : NodeId → List Capability → List Capability → List Lock) : Prop :=
  ∀ n old new, Lock.leases ∉ callback n old new ∧ Lock.other "_nodes_lock" ∉ callback n old new

/-- No callback for an expired lease takes the lock of the leases, and the one for capabilities
neither that nor the lock of the nodes. -/
def CallbacksFree (w : ManagedStore) : Prop :=
  (∀ cb ∈ w.callbacks, ∀ t n, Lock.leases ∉ cb t n) ∧ LeavesNodes w.onCapabilityChange

/-- The calls that keep to the order: not `extend`, and no callback that does not. -/
def Call.Keeps : Call → Prop
  | .lease (.extend _ leaseId _) => leaseId = ""
  | .onExpire callback => ∀ t n, Lock.leases ∉ callback t n
  | .setOnCapabilityChange callback => LeavesNodes callback
  | _ => True

/-- Without a lock before and after. -/
abbrev Orderly {α : Type} (p : Act α) : Prop :=
  Ordered lockRank CallbacksFree [] p fun _ held => held = []

theorem orderly_bind {α β : Type} {p : Act α} {f : α → Act β} (hp : Orderly p)
    (hf : ∀ a, Orderly (f a)) : Orderly (p >>= f) := by
  refine Ordered.bind hp ?_
  rintro a held rfl
  exact hf a

/-- A section that gives back what it takes. -/
theorem ordered_within {α : Type} {l : Lock} {held : List Lock} {p : Act α}
    (hrank : ∀ m ∈ held, lockRank m < lockRank l)
    (hp : Ordered lockRank CallbacksFree (l :: held) p fun _ held' => held' = l :: held) :
    Ordered lockRank CallbacksFree held (withLock l p) fun _ held' => held' = held := by
  have hsection : Ordered lockRank CallbacksFree held (withLock l p) fun _ held' =>
      held' = held ∧ True :=
    ordered_withLock (P := fun _ => True) hrank (hp.mono fun _ _ hq => ⟨hq, trivial⟩)
  exact hsection.mono fun _ _ hq => hq.1

theorem orderly_withLock {α : Type} (l : Lock) {p : Act α}
    (hp : Ordered lockRank CallbacksFree [l] p fun _ held => held = [l]) :
    Orderly (withLock l p) :=
  ordered_within (fun _ hm => absurd hm List.not_mem_nil) hp

theorem orderly_section {α : Type} (l : Lock) {f : ManagedStore → α × ManagedStore}
    (h : ∀ w, CallbacksFree w → CallbacksFree (f w).2) : Orderly (withLock l (lift f)) :=
  orderly_withLock l (ordered_lift h fun _ _ => rfl)

theorem rank_pos {l : Lock} (h : l ≠ .leases) : lockRank .leases < lockRank l := by
  cases l with
  | leases => exact absurd rfl h
  | manager => decide
  | other name =>
    show 0 < if name = "_nodes_lock" then 1 else if name = "_tasks_lock" then 2 else 3
    split_ifs <;> omega

theorem rank_nodes {l : Lock} (h : l ≠ .leases) (hn : l ≠ .other "_nodes_lock") :
    lockRank (.other "_nodes_lock") < lockRank l := by
  cases l with
  | leases => exact absurd rfl h
  | manager => decide
  | other name =>
    have hname : name ≠ "_nodes_lock" := fun he => hn (congrArg Lock.other he)
    show 1 < if name = "_nodes_lock" then 1 else if name = "_tasks_lock" then 2 else 3
    rw [if_neg hname]
    split_ifs <;> omega

/-- What a callback takes, above everything held. -/
theorem ordered_taking {held locks : List Lock}
    (h : ∀ l ∈ locks, ∀ m ∈ held, lockRank m < lockRank l) :
    Ordered lockRank CallbacksFree held (taking locks) fun _ held' => held' = held := by
  refine ordered_each fun l hl => ?_
  have hpure : Ordered lockRank CallbacksFree (l :: held) (pure () : Act Unit)
      fun _ held' => held' = l :: held := rfl
  exact ordered_within (h l hl) hpure

/-- The callbacks run while the leases are locked. -/
theorem ordered_callBack {t : TaskId} {n : NodeId} {cb : TaskId → NodeId → List Lock}
    (hcb : ∀ t n, Lock.leases ∉ cb t n) :
    Ordered lockRank CallbacksFree [.leases] (callBack t n cb) fun _ held => held = [.leases] := by
  refine ordered_taking fun l hl m hm => ?_
  rw [List.mem_singleton.mp hm]
  exact rank_pos fun h => hcb t n (h ▸ hl)

theorem ordered_onLeaseExpired (t : TaskId) (n : NodeId) :
    Ordered lockRank CallbacksFree [.leases] (onLeaseExpired t n) fun _ held =>
      held = [.leases] := by
  refine Ordered.bind (ordered_withLock
    (P := fun cbs : List (TaskId → NodeId → List Lock) => ∀ cb ∈ cbs, ∀ t n, Lock.leases ∉ cb t n)
    (fun m hm => ?_)
    (ordered_lift (fun _ hI => hI) fun _ hI => ⟨rfl, hI.1⟩)) ?_
  · rw [List.mem_singleton.mp hm]
    exact rank_pos (by decide)
  · rintro callbacks held ⟨rfl, hcbs⟩
    exact ordered_each fun cb hcb => ordered_callBack (hcbs cb hcb)

/-- **A scan** takes the manager's lock, and what the callbacks take, under that of the
leases. -/
theorem orderly_storeGetActiveLeases (now : Time) : Orderly (storeGetActiveLeases now) := by
  refine orderly_withLock _ ?_
  refine Ordered.bind (Q := fun _ held => held = [.leases])
    (ordered_lift (fun _ hI => hI) fun _ _ => rfl) ?_
  rintro r held rfl
  refine Ordered.bind (ordered_each fun lease _ => ordered_onLeaseExpired lease.taskId lease.nodeId)
    ?_
  rintro _ held rfl
  rfl

theorem orderly_pure {α : Type} (a : α) : Orderly (pure a) := rfl

theorem orderly_lift {α : Type} {f : ManagedStore → α × ManagedStore}
    (h : ∀ w, CallbacksFree w → CallbacksFree (f w).2) : Orderly (lift f) :=
  ordered_lift h fun _ _ => rfl

theorem orderly_storeCreateLease (now : Time) (token : String) (t : TaskId) (n : NodeId)
    (ttl : Duration) : Orderly (storeCreateLease now token t n ttl) := by
  unfold storeCreateLease
  split
  · exact orderly_pure _
  · refine orderly_section _ fun w hI => ?_
    split <;> exact hI

theorem orderly_create (now : Time) (token : String) (t : TaskId) (n : NodeId)
    (ttl : Option Duration) : Orderly (create now token t n ttl) := by
  unfold create
  split
  · exact orderly_pure _
  · split
    · exact orderly_pure _
    · refine orderly_bind (orderly_lift fun _ hI => hI) fun ttl => ?_
      refine orderly_bind (orderly_storeCreateLease now token t n ttl) fun result => ?_
      cases result with
      | error e => exact orderly_pure _
      | ok lease => exact orderly_bind (orderly_section _ fun _ hI => hI) fun _ => orderly_pure _

theorem orderly_revoke (leaseId : LeaseId) : Orderly (revoke leaseId) := by
  unfold revoke
  split
  · exact orderly_pure _
  · refine orderly_bind (orderly_section _ fun _ hI => hI) fun result => ?_
    cases result with
    | false => exact orderly_pure _
    | true => exact orderly_bind (orderly_section _ fun _ hI => hI) fun _ => orderly_pure _

theorem orderly_perform (now : Time) {op : Operation} (h : Call.Keeps (.lease op)) :
    Orderly (perform now op) := by
  have hscan := orderly_storeGetActiveLeases now
  cases op with
  | create token t n ttl =>
    exact orderly_bind (orderly_create now token t n ttl) fun _ => orderly_pure _
  | revoke leaseId => exact orderly_bind (orderly_revoke leaseId) fun _ => orderly_pure _
  | listActive => exact orderly_bind hscan fun _ => orderly_pure _
  | getByTask t =>
    refine orderly_bind ?_ fun _ => orderly_pure _
    unfold getByTask storeGetLeaseByTask
    split
    · exact orderly_pure _
    · exact orderly_section _ fun _ hI => hI
  | extend token leaseId ttl =>
    have hid : leaseId = "" := h
    refine orderly_bind ?_ fun _ => orderly_pure _
    rw [extend, if_pos hid]
    exact orderly_pure _
  | metrics => exact orderly_bind (orderly_section _ fun _ hI => hI) fun _ => orderly_pure _
  | stats =>
    refine orderly_bind (orderly_bind hscan fun active => ?_) fun _ => orderly_pure _
    exact orderly_section _ fun _ hI => hI
  | scanOnce => exact orderly_bind hscan fun active => orderly_section _ fun _ hI => hI

theorem orderly_method (lock : String) (f : ClusterState → ClusterState) :
    Orderly (method lock f) := orderly_section _ fun _ hI => hI

/-- A decision is recorded while the tasks are locked. -/
theorem ordered_scheduleOne (online : List Node) (now : Time) (task : Task) :
    Ordered lockRank CallbacksFree [.other "_tasks_lock"] (scheduleOne online now task)
      fun _ held => held = [.other "_tasks_lock"] := by
  unfold scheduleOne
  split
  · refine Ordered.bind (Q := fun _ held => held = [.other "_tasks_lock"])
      (ordered_lift (fun _ hI => hI) fun _ _ => rfl) ?_
    rintro _ held rfl
    refine ordered_within (fun m hm => ?_) (ordered_lift (fun _ hI => hI) fun _ _ => rfl)
    rw [List.mem_singleton.mp hm]
    decide
  · exact rfl

theorem orderly_schedulePending (now : Time) : Orderly (schedulePending now) := by
  refine orderly_bind (orderly_section _ fun _ hI => hI) fun online => ?_
  split
  · exact orderly_pure _
  · refine orderly_withLock _ (Ordered.bind (Q := fun _ held => held = [.other "_tasks_lock"])
      (ordered_lift (fun _ hI => hI) fun _ _ => rfl) ?_)
    rintro ready held rfl
    exact ordered_each fun task _ => ordered_scheduleOne online now task

theorem orderly_taking (locks : List Lock) : Orderly (taking locks) :=
  ordered_taking fun _ _ _ hm => absurd hm List.not_mem_nil

theorem orderly_registerNode (node : Node) : Orderly (registerNode node) :=
  orderly_bind (orderly_method _ _) fun _ =>
    orderly_bind (orderly_lift fun _ hI => hI) fun _ => orderly_taking _

/-- The callback for capabilities runs while the nodes are locked. -/
theorem orderly_updateCapabilities (nodeId : NodeId) (caps : List Capability) :
    Orderly (updateCapabilities nodeId caps) := by
  refine orderly_withLock _ ?_
  refine Ordered.bind (Q := fun locks held => held = [.other "_nodes_lock"] ∧
    Lock.leases ∉ locks ∧ Lock.other "_nodes_lock" ∉ locks) ?_ ?_
  · refine ordered_lift (fun _ hI => hI) fun w hI => ⟨rfl, ?_, ?_⟩
    · exact not_mem_changeLocks fun old => (hI.2 nodeId old caps).1
    · exact not_mem_changeLocks fun old => (hI.2 nodeId old caps).2
  · rintro locks held ⟨rfl, hleases, hnodes⟩
    refine ordered_taking fun l hl m hm => ?_
    rw [List.mem_singleton.mp hm]
    exact rank_nodes (fun h => hleases (h ▸ hl)) fun h => hnodes (h ▸ hl)

theorem orderly_handleSyncMessage (now : Time) (msg : SyncMessage) :
    Orderly (handleSyncMessage now msg) := by
  refine orderly_bind (orderly_section _ fun w hI => ?_) fun fresh => ?_
  · split <;> exact hI
  · cases fresh with
    | false => exact orderly_pure _
    | true =>
      show Orderly (match msg.taskState with | some ts => _ | none => _)
      split
      · exact orderly_bind (orderly_method _ _) fun _ => orderly_pure _
      · exact orderly_pure _

theorem orderly_handleBatchSync (now : Time) (messages : List SyncMessage) :
    Orderly (handleBatchSync now messages) := by
  induction messages with
  | nil => exact orderly_pure _
  | cons msg messages ih =>
    exact orderly_bind (orderly_handleSyncMessage now msg) fun _ =>
      orderly_bind ih fun _ => orderly_pure _

theorem orderly_call (now : Time) {c : Call} (h : c.Keeps) : Orderly (call now c) := by
  cases c with
  | lease op => exact orderly_perform now h
  | onExpire callback =>
    refine orderly_section _ fun w hI => ⟨fun cb hcb => ?_, hI.2⟩
    rcases List.mem_append.mp hcb with hcb | hcb
    · exact hI.1 cb hcb
    · rw [List.mem_singleton.mp hcb]
      exact h
  | clearCallbacks =>
    exact orderly_section _ fun _ hI => ⟨fun _ hcb => absurd hcb List.not_mem_nil, hI.2⟩
  | setOnNodeOnline callback => exact orderly_lift fun _ hI => hI
  | setOnCapabilityChange callback => exact orderly_lift fun _ hI => ⟨hI.1, h⟩
  | registerNode node => exact orderly_registerNode node
  | updateCapabilities nodeId caps => exact orderly_updateCapabilities nodeId caps
  | createLease token t n ttl =>
    exact orderly_bind (orderly_storeCreateLease now token t n ttl) fun _ => orderly_pure _
  | revokeLease leaseId =>
    exact orderly_bind (orderly_section _ fun _ hI => hI) fun _ => orderly_pure _
  | getActiveLeases =>
    exact orderly_bind (orderly_storeGetActiveLeases now) fun _ => orderly_pure _
  | schedulePending => exact orderly_schedulePending now
  | handleSyncMessage msg =>
    exact orderly_bind (orderly_handleSyncMessage now msg) fun _ => orderly_pure _
  | handleBatchSync messages =>
    exact orderly_bind (orderly_handleBatchSync now messages) fun _ => orderly_pure _
  | _ => unfold call; exact orderly_method _ _

theorem orderly_session {calls : List (Time × Call)} (h : ∀ c ∈ calls, c.2.Keeps) :
    Orderly (session calls) :=
  ordered_each fun c hc => orderly_call c.1 (h c hc)

/-! ### Any number of threads -/

/-- **No deadlock.**  Any number of threads, each making any calls except `extend`, on any
store whose callbacks for leases leave the lock of the leases alone, and the one for
capabilities that and the lock of the nodes: no schedule goes on for ever, and none comes to a
stop before all calls have returned and all locks are free. -/
theorem calls_complete (w : ManagedStore) (n : ℕ) (calls : Fin n → List (Time × Call))
    (hw : CallbacksFree w) (hcalls : ∀ i, ∀ c ∈ calls i, c.2.Keeps) :
    WellFounded (fun c' c : Config Lock ManagedStore n => Config.Step c c') ∧
      ∀ c, Config.Reaches (Config.start w fun i => session (calls i)) c →
        (∀ c', ¬ Config.Step c c') → ∀ i, (c.todo i).Ended ∧ c.held i = [] := by
  have horderly : Config.Orderly lockRank CallbacksFree
      (Config.start w fun i => session (calls i)) := ⟨hw, fun i => orderly_session (hcalls i)⟩
  exact horderly.completes

/-- A store with a node and a lease that runs out after a minute, and with callbacks that look at
the tasks; the one for a new node scans the leases too. -/
def watchedStore : ManagedStore where
  store := { leases := Table.empty.put minuteLease
             nodes := Table.empty.put
               { id := "n1", name := "worker", lastHeartbeat := ⟨0, none⟩ } }
  callbacks := [fun _ _ => [.other "_tasks_lock"]]
  onNodeOnline _ := [.leases, .other "_tasks_lock"]
  onCapabilityChange _ _ _ := [.other "_tasks_lock"]

/-- The scanner and a request, two minutes later. -/
def twoThreads : Fin 2 → List (Time × Call)
  | 0 => [(seconds 120, .lease .scanOnce)]
  | 1 => [(seconds 120, .updateCapabilities "n1" ["gpu"]), (seconds 120, .schedulePending),
      (seconds 121, .lease (.revoke "lease_x"))]

theorem calls_complete_twoThreads :
    WellFounded (fun c' c : Config Lock ManagedStore 2 => Config.Step c c') ∧
      ∀ c, Config.Reaches (Config.start watchedStore fun i => session (twoThreads i)) c →
        (∀ c', ¬ Config.Step c c') → ∀ i, (c.todo i).Ended ∧ c.held i = [] := by
  refine calls_complete watchedStore 2 twoThreads ⟨fun cb hcb t n => ?_, fun _ _ _ => ?_⟩ ?_
  · rw [List.mem_singleton.mp hcb]
    show Lock.leases ∉ [Lock.other "_tasks_lock"]
    decide
  · show Lock.leases ∉ [Lock.other "_tasks_lock"] ∧
      Lock.other "_nodes_lock" ∉ [Lock.other "_tasks_lock"]
    decide
  · intro i c hc
    match i with
    | 0 =>
      rw [List.mem_singleton.mp hc]
      exact trivial
    | 1 =>
      rcases List.mem_cons.mp hc with rfl | hc
      · exact trivial
      rcases List.mem_cons.mp hc with rfl | hc
      · exact trivial
      · rw [List.mem_singleton.mp hc]
        exact trivial

/-! ### `extend` against a scan -/

/-- The operations that scan the leases. -/
def Scans : Operation → Prop
  | .listActive | .stats | .scanOnce => True
  | _ => False

theorem extend_shape (now : Time) (token : String) {leaseId : LeaseId} (hid : leaseId ≠ "")
    (ttl : Option Duration) (rest : Unit → Act Unit) : ∃ k : ManagedStore → Act Unit,
      call now (.lease (.extend token leaseId ttl)) >>= rest =
        .acquire .manager (.step (fun w => w) k) ∧ ∀ w, ∃ p, k w = .acquire .leases p := by
  show ∃ k, (extend now token leaseId ttl >>= fun _ => pure ()) >>= rest = _ ∧ _
  rw [extend, if_neg hid]
  exact ⟨_, rfl, fun w => ⟨_, rfl⟩⟩

/-- A scan asks for the manager's lock as soon as it finds a lease that is due. -/
theorem scan_shape {α : Type} (now : Time) (rest : List Lease → Act α) :
    ∃ f : ManagedStore → ManagedStore, ∃ k : ManagedStore → Act α,
      storeGetActiveLeases now >>= rest = .acquire .leases (.step f k) ∧
        ∀ w, w.due now ≠ [] → ∃ p, k w = .acquire .manager p := by
  refine ⟨_, _, rfl, fun w hne => ?_⟩
  obtain ⟨lease, due, hcons⟩ := List.exists_cons_of_ne_nil hne
  simp only [hcons]
  exact ⟨_, rfl⟩

theorem call_scan (now : Time) {op : Operation} (hop : Scans op) (rest : Unit → Act Unit) :
    ∃ rest', call now (.lease op) >>= rest = storeGetActiveLeases now >>= rest' := by
  cases op with
  | listActive => exact ⟨_, bind_assoc _ _ _⟩
  | stats => exact ⟨_, (congrArg (· >>= rest) (bind_assoc _ _ _)).trans (bind_assoc _ _ _)⟩
  | scanOnce => exact ⟨_, bind_assoc _ _ _⟩
  | _ => exact absurd hop id

/-- **`extend` against a scan.**  Among any threads on any store, when one is about to call
`extend` and another to scan, no one has the two locks and a lease is due, the two may lock
each other out, and then neither ever returns. -/
theorem extend_deadlocks {n : ℕ} (c : Config Lock ManagedStore n) {i j : Fin n} (hij : i ≠ j)
    (hfree : ∀ m, Lock.manager ∉ c.held m ∧ Lock.leases ∉ c.held m) {now now' : Time}
    {token : String} {leaseId : LeaseId} {ttl : Option Duration} {op : Operation}
    {rest rest' : Unit → Act Unit}
    (hi : c.todo i = call now (.lease (.extend token leaseId ttl)) >>= rest)
    (hid : leaseId ≠ "") (hj : c.todo j = call now' (.lease op) >>= rest') (hop : Scans op)
    (hdue : c.state.due now' ≠ []) :
    ∃ c', Config.Reaches c c' ∧ ∀ c'', Config.Reaches c' c'' →
      ¬ (c''.todo i).Ended ∧ ¬ (c''.todo j).Ended := by
  obtain ⟨k, hextend, hk⟩ := extend_shape now token hid ttl rest
  obtain ⟨scanned, hscanned⟩ := call_scan now' hop rest'
  obtain ⟨f, k', hscan, hk'⟩ := scan_shape now' scanned
  obtain ⟨c', hreach, hembrace⟩ := Config.exists_embraced (a := Lock.manager) (b := Lock.leases)
    hij (by decide) hfree (hi.trans hextend) (hk c.state) ((hj.trans hscanned).trans hscan)
    (hk' c.state hdue)
  exact ⟨c', hreach, fun c'' hr => (hembrace.reaches hr).not_ended⟩

/-- A store with a lease that runs out after a minute. -/
def minuteStore : ManagedStore := { store := { leases := Table.empty.put minuteLease } }

/-- One thread extends the lease while it is active, another scans when it has run out. -/
def extendAndScan : Config Lock ManagedStore 2 :=
  Config.start minuteStore fun i =>
    if i = 0 then session [(seconds 30, .lease (.extend "y" "lease_x" none))]
    else session [(seconds 120, .lease .scanOnce)]

theorem extend_deadlocks_minuteStore :
    minuteStore.due (seconds 30) = [] ∧
      ∃ c', Config.Reaches extendAndScan c' ∧ ∀ c'', Config.Reaches c' c'' →
        ¬ (c''.todo 0).Ended ∧ ¬ (c''.todo 1).Ended :=
  ⟨by decide, extend_deadlocks extendAndScan (by decide)
    (fun _ => ⟨List.not_mem_nil, List.not_mem_nil⟩) rfl (by decide) rfl trivial (by decide)⟩

end Act

end HermesCluster.ManagedStore
