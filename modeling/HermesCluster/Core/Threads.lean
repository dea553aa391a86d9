import HermesCluster.Lib.Rely
import HermesCluster.Lib.Run
import HermesCluster.Core.Recovery
import HermesCluster.Core.Watchdog
import HermesCluster.Core.Workflow
import HermesCluster.Lease.ScanRace

/-!
# `ClusterCore` and its threads

What runs on one `ClusterCore`: the calls of its methods and of its store, the scans of the lease
scanner, the checks of the watchdog and the detector of `hermes_cluster/core/recovery.py`, each
a program over the tables and the detector's queue.  The calls run on threads of their own, the
detector on one that takes a node from the queue and recovers it.  A call has one clock reading.

* `run_recoverNode`: a recovery that nobody interrupts is that of `Core.Recovery`.
* `recover_alone`: and that is what the detector does to the next node in its queue, when no
  other thread takes a turn.

`create_lease` is one transaction, and a step of its own here.  `stop` is left out, and so is
the rollback that may take the watchdog's uncommitted write of a node's status along.
-/

namespace HermesCluster

/-- The tables and the queue of the detector. -/
structure CoreState where
  tables : LoggedStore := {}
  eventQueue : List NodeId := []
deriving DecidableEq

/-- A program over both. -/
abbrev CoreSession (α : Type) := Prog CoreState PyError α

namespace CoreState

def store (c : CoreState) : ClusterStore := c.tables.store

def withTables (c : CoreState) (tables : LoggedStore) : CoreState := { c with tables := tables }

end CoreState

theorem ClusterStore.markExpired_nil (s : ClusterStore) : s.markExpired [] = s := by
  have hrows : s.leases.mapRows (markedExpired []) (key_markedExpired []) = s.leases := by
    refine Table.ext ((List.map_congr_left fun l _ => ?_).trans (List.map_id _))
    exact if_neg List.not_mem_nil
  rw [markExpired, hrows]

/-- Both transactions of `get_active_leases` in one go. -/
theorem Session.run_getActiveLeases (now : Time) (s : ClusterStore) :
    (Session.getActiveLeases now).run s =
      (.ok (s.leases.rows.filter (·.live now)), (s.getActiveLeases now).2) := by
  have hread : (Prog.write fun s : ClusterStore => (s.leases.rows, s) :
      Session (List Lease)).run s = (.ok s.leases.rows, s) := Prog.run_write _ s
  rw [Session.getActiveLeases, Prog.run_bind_ok _ hread]
  split
  · rfl
  · rename_i hany
    have hnil : s.lapsedLeases now = [] := by
      rw [ClusterStore.lapsedLeases, List.filter_eq_nil_iff]
      exact fun l hl hlapsed => hany (List.any_eq_true.mpr ⟨l, hl, hlapsed⟩)
    rw [← ClusterStore.markExpired_callBack, ClusterStore.callBack, hnil, List.map_nil,
      List.map_nil, ClusterStore.markExpired_nil, List.append_nil]
    rfl

namespace CoreSession

def onTables {α : Type} (p : LoggedSession α) : CoreSession α :=
  p.zoom CoreState.tables CoreState.withTables

def onStore {α : Type} (p : Session α) : CoreSession α := onTables (LoggedStore.onStore p)

/-! ### The detector's queue -/

/-- `notify_offline` -/
def notifyOffline (nodeId : NodeId) : CoreSession Unit :=
  .write fun c => ((), { c with eventQueue := c.eventQueue ++ [nodeId] })

/-- `_on_lease_expiry` -/
def onLeaseExpiry (lease : Lease) : CoreSession Unit := do
  onStore (.write fun s => ((), { s with
    leaseCallbackCalls := s.leaseCallbackCalls ++ [(lease.taskId, lease.nodeId)] }))
  notifyOffline lease.nodeId

/-- The callbacks of a scan. -/
def callBack : List Lease → CoreSession Unit
  | [] => return ()
  | lease :: expired => do
    onLeaseExpiry lease
    callBack expired

/-- `get_active_leases` reads the active leases, calls back for those that have run out, and then
marks these expired. -/
def getActiveLeases (now : Time) : CoreSession (List Lease) := do
  let rows ← onStore (.write fun s => (s.leases.rows.filter (·.status = .active), s))
  callBack (rows.filter (·.lapsed now))
  if rows.filter (·.lapsed now) ≠ [] then
    onStore (.write fun s => ((), s.markExpired ((rows.filter (·.lapsed now)).map Lease.id)))
    return rows.filter (·.live now)
  else return rows.filter (·.live now)

/-! ### Recovery -/

def revokeAllForNode (now : Time) (nodeId : NodeId) : CoreSession (List TaskId) := do
  let activeLeases ← getActiveLeases now
  onTables (CoreRecovery.revokeEach now nodeId activeLeases)

/-- `_recover_node` -/
def recoverNode (now : Time) (nodeId : NodeId) : CoreSession Unit := do
  let revokedTaskIds ← revokeAllForNode now nodeId
  if revokedTaskIds ≠ [] then onTables (CoreRecovery.recoverTasks now nodeId revokedTaskIds)
  else return ()

section Alone

variable {now : Time} {n : NodeId}

theorem run_onTables {α : Type} (p : LoggedSession α) (c : CoreState) :
    (onTables p).run c = ((p.run c.tables).1, c.withTables (p.run c.tables).2) := by
  refine Prog.run_zoom ?_ ?_ ?_ p c
  · exact fun _ _ => rfl
  · exact fun _ _ _ => rfl
  · exact fun _ => rfl

theorem run_onStore {α : Type} (p : Session α) (c : CoreState) :
    (onStore p).run c =
      ((p.run c.store).1, c.withTables (c.tables.withStore (p.run c.store).2)) := by
  rw [onStore, run_onTables, LoggedStore.run_onStore]
  rfl

theorem run_callBack (leases : List Lease) (c : CoreState) :
    (callBack leases).run c = (.ok (),
      { tables := c.tables.withStore { c.store with
          leaseCallbackCalls := c.store.leaseCallbackCalls ++
            leases.map fun l => (l.taskId, l.nodeId) }
        eventQueue := c.eventQueue ++ leases.map Lease.nodeId }) := by
  induction leases generalizing c with
  | nil =>
    rw [List.map_nil, List.map_nil, List.append_nil, List.append_nil]
    rfl
  | cons l leases ih =>
    have hone : (onLeaseExpiry l).run c = (.ok (),
        { tables := c.tables.withStore { c.store with
            leaseCallbackCalls := c.store.leaseCallbackCalls ++ [(l.taskId, l.nodeId)] }
          eventQueue := c.eventQueue ++ [l.nodeId] }) := by
      rw [onLeaseExpiry, Prog.run_bind_ok _ (run_onStore _ c)]
      rfl
    rw [callBack, Prog.run_bind_ok _ hone, ih]
    simp [LoggedStore.withStore, CoreState.store]

/-- `get_active_leases` in one go. -/
theorem run_getActiveLeases (now : Time) (c : CoreState) :
    (getActiveLeases now).run c = (.ok (c.store.leases.rows.filter (·.live now)),
      { tables := c.tables.withStore (c.store.getActiveLeases now).2
        eventQueue := c.eventQueue ++ (c.store.lapsedLeases now).map Lease.nodeId }) := by
  have hlapsed : (c.store.leases.rows.filter (·.status = .active)).filter (·.lapsed now) =
      c.store.lapsedLeases now := by
    rw [List.filter_filter]
    refine List.filter_congr fun l _ => ?_
    rw [Bool.and_eq_left_iff_imp]
    exact fun h => decide_eq_true (Lease.lapsed_iff.mp h).1
  have hlive : (c.store.leases.rows.filter (·.status = .active)).filter (·.live now) =
      c.store.leases.rows.filter (·.live now) := by
    rw [List.filter_filter]
    refine List.filter_congr fun l _ => ?_
    rw [Bool.and_eq_left_iff_imp]
    exact fun h => decide_eq_true (Lease.live_iff.mp h).1
  have hread : (onStore (.write fun s => (s.leases.rows.filter (·.status = .active), s)) :
      CoreSession (List Lease)).run c =
        (.ok (c.store.leases.rows.filter (·.status = .active)), c) := run_onStore _ c
  have hcall : (callBack (c.store.lapsedLeases now)).run c = (.ok (),
      { tables := c.tables.withStore (c.store.callBack now)
        eventQueue := c.eventQueue ++ (c.store.lapsedLeases now).map Lease.nodeId }) :=
    run_callBack _ c
  rw [getActiveLeases, Prog.run_bind_ok _ hread, hlapsed, hlive, Prog.run_bind_ok _ hcall,
    ← ClusterStore.markExpired_callBack]
  split
  · rw [Prog.run_bind_ok _ (run_onStore _ _)]
    rfl
  · rename_i hnil
    have hmark : (c.store.callBack now).markExpired ((c.store.lapsedLeases now).map Lease.id) =
        c.store.callBack now := by
      rw [not_not.mp hnil]
      exact ClusterStore.markExpired_nil _
    rw [hmark]
    rfl

/-- **Alone**, a recovery is that of `Core.Recovery`, and the nodes of the leases that have run
out by then come into the queue. -/
theorem run_recoverNode (now : Time) (n : NodeId) (c : CoreState) :
    (recoverNode now n).run c = (((CoreRecovery.recoverNode now n).run c.tables).1,
      { tables := ((CoreRecovery.recoverNode now n).run c.tables).2
        eventQueue := c.eventQueue ++ (c.store.lapsedLeases now).map Lease.nodeId }) := by
  have hscan : (LoggedStore.onStore (Session.getActiveLeases now)).run c.tables =
      (.ok (c.store.leases.rows.filter (·.live now)),
        c.tables.withStore (c.store.getActiveLeases now).2) :=
    LoggedStore.run_onStore_of (Session.run_getActiveLeases now c.store)
  rw [recoverNode, revokeAllForNode, CoreRecovery.recoverNode, CoreRecovery.revokeAllForNode,
    Prog.run_bind, Prog.run_bind_ok _ (run_getActiveLeases now c), run_onTables,
    Prog.run_bind (_ >>= _), Prog.run_bind_ok _ hscan]
  rcases (CoreRecovery.revokeEach now n _).run _ with ⟨e | tasks, l⟩
  · rfl
  · rw [Prog.andThen_ok, Prog.andThen_ok]
    split
    · rw [run_onTables]
      rfl
    · rfl

end Alone

/-! ### The watchdog -/

/-- The `UPDATE` of the adapter's `update_node_status`. -/
def updateNodeStatus (nodeId : NodeId) (status : String) : CoreSession Unit :=
  match NodeStatus.ofValue status with
  | .ok status => onStore (.write fun s => ((), s.setNodeStatus nodeId status))
  | .error e => .raise e

/-- The body of the loop of `_check`, with the callback. -/
def checkOne (w : Watchdog) (now : Time) (node : HeartbeatNode) : CoreSession Unit := do
  let elapsed ← Prog.read fun _ => node.lastHeartbeat.since now
  if w.newStatus elapsed ≠ node.status then
    updateNodeStatus node.id (w.newStatus elapsed)
    if w.newStatus elapsed = "offline" then notifyOffline node.id else return ()
  else return ()

/-- The loop of `_check`. -/
def checkAll (w : Watchdog) (now : Time) : List HeartbeatNode → CoreSession Unit
  | [] => return ()
  | node :: nodes => do
    checkOne w now node
    checkAll w now nodes

def check (w : Watchdog) (now : Time) : CoreSession Unit := do
  let nodes ← onStore Session.getAllNodes
  checkAll w now (nodes.map Watchdog.heartbeatNode)

/-! ### The callbacks of the nodes -/

/-- `store.register_node`; an exception of the callback is passed over. -/
def registerNode (now : Time) (node : Node) : Session Unit := do
  Prog.write fun s => ((), s.registerNode node)
  (ClusterCore.onNodeOnline now).attempt

theorem run_registerNode (now : Time) (node : Node) (s : ClusterStore) :
    (registerNode now node).run s = (.ok (), ClusterCore.registerNode s now node) := by
  rw [registerNode, Prog.run_bind_ok _ (Prog.run_write _ s), Prog.run_attempt]
  rfl

/-- `store.update_capabilities`; its callback does what that of `register_node` does. -/
def updateCapabilities (now : Time) (nodeId : NodeId) (caps : List Capability) : Session Unit := do
  Prog.write fun s => ((), s.updateCapabilities nodeId caps)
  (ClusterCore.onNodeOnline now).attempt

/-! ### `ClusterScheduler.reschedule_task` -/

def revokeExisting (now : Time) (taskId : TaskId) (assignedTo : Option NodeId) :
    CoreSession Unit :=
  if assignedTo.getD "" ≠ "" then do
    let leases ← getActiveLeases now
    onStore (ClusterScheduler.revokeFirst taskId leases)
  else return ()

def rescheduleTask (now : Time) (taskId : TaskId) : CoreSession (Option NodeId) := do
  match ← onStore (Session.getTask taskId) with
  | none => return none
  | some task => do
    revokeExisting now taskId task.assignedTo
    let _ ← onStore (Session.setTaskStatus now taskId .pending)
    let _ ← onStore (ClusterScheduler.schedulePending now)
    let task ← onStore (Session.getTask taskId)
    return ClusterScheduler.assignedNode task

end CoreSession

/-- What the other threads do. -/
inductive CoreCall
  /-- `get_active_leases` -/
  | scan
  | check (w : Watchdog)
  | submitTask (token title : String) (requires : List Capability) (priority : Int)
  | completeTask (turns : Nat) (taskId : TaskId)
  | failTask (taskId : TaskId) (reason : String)
  | rescheduleTask (taskId : TaskId)
  | registerNode (node : Node)
  | updateHeartbeat (nodeId : NodeId) (load : Load)
  | updateCapabilities (nodeId : NodeId) (caps : List Capability)
  | setDependencies (taskId : TaskId) (dependsOn : List TaskId)
  | unblockTask (taskId : TaskId)
  | revokeLease (leaseId : LeaseId)
  | handleBatchSync (messages : List SyncMessage)
  | manager (call : TaskOp)

/-- The program of a call, whatever it returns. -/
def CoreCall.program (now : Time) : CoreCall → CoreSession Unit
  | .scan => do let _ ← CoreSession.getActiveLeases now
  | .check w => CoreSession.check w now
  | .submitTask token title requires priority => do
    let _ ← CoreSession.onStore (ClusterCore.submitTask now token title requires priority)
  | .completeTask turns taskId => do
    let _ ← CoreSession.onStore (ClusterCore.completeTask now turns taskId)
  | .failTask taskId reason => do
    let _ ← CoreSession.onStore (ClusterCore.failTask now taskId reason)
  | .rescheduleTask taskId => do let _ ← CoreSession.rescheduleTask now taskId
  | .registerNode node => CoreSession.onStore (CoreSession.registerNode now node)
  | .updateHeartbeat nodeId load =>
    CoreSession.onStore (.write fun s => ((), s.updateHeartbeat now nodeId load))
  | .updateCapabilities nodeId caps =>
    CoreSession.onStore (CoreSession.updateCapabilities now nodeId caps)
  | .setDependencies taskId dependsOn => do
    let _ ← CoreSession.onStore (Session.setDependencies now taskId dependsOn)
  | .unblockTask taskId => do
    let _ ← CoreSession.onStore (.write fun s => s.unblockTask now taskId)
  | .revokeLease leaseId => do
    let _ ← CoreSession.onStore (Session.revokeLease leaseId)
  | .handleBatchSync messages => do
    let _ ← CoreSession.onStore (Session.handleBatchSync now messages)
  | .manager call => CoreSession.onStore (call.program now)

/-! ### The threads -/

/-- The threads of the calls, what is left of the recovery the detector is at, and whether an
exception has ended the detector's thread. -/
structure CoreWorld where
  pool : Pool CoreState PyError
  turn : Option (CoreSession Unit) := none
  died : Bool := false

inductive CoreStep
  /-- A thread starts. -/
  | call (now : Time) (call : CoreCall)
  /-- The next access of a thread. -/
  | thread (i : Nat)
  /-- `store.create_lease` -/
  | createLease (now : Time) (token : String) (taskId : TaskId) (nodeId : NodeId) (ttl : Duration)
  /-- The detector takes a node from its queue. -/
  | take (now : Time)
  /-- The next access of the detector. -/
  | recover

namespace CoreWorld

def shared (w : CoreWorld) : CoreState := w.pool.tables

def withShared (w : CoreWorld) (c : CoreState) : CoreWorld :=
  { w with pool := { w.pool with tables := c } }

/-- `if node_id: self._recover_node(node_id)` -/
def recovery (now : Time) (nodeId : NodeId) : Option (CoreSession Unit) :=
  if nodeId ≠ "" then some (CoreSession.recoverNode now nodeId) else none

/-- The loop of the detector waits for a node, and ends with the first exception. -/
def takeNode (w : CoreWorld) (now : Time) : CoreWorld :=
  if w.turn.isSome ∨ w.died then w
  else
    match w.shared.eventQueue with
    | [] => w
    | nodeId :: rest =>
      { w.withShared { w.shared with eventQueue := rest } with turn := recovery now nodeId }

/-- What has become of the detector after an access. -/
def resume (w : CoreWorld) : CoreSession Unit → CoreWorld
  | .ret _ => { w with turn := none }
  | .raise _ => { w with turn := none, died := true }
  | p => { w with turn := some p }

def advance (w : CoreWorld) : CoreWorld :=
  match w.turn with
  | none => w
  | some p => (w.withShared (p.step w.shared).2).resume (p.step w.shared).1

def createLease (w : CoreWorld) (now : Time) (token : String) (taskId : TaskId)
    (nodeId : NodeId) (ttl : Duration) : CoreWorld :=
  w.withShared
    ((CoreSession.onStore (Session.createLease now token taskId nodeId ttl)).run w.shared).2

def step (w : CoreWorld) : CoreStep → CoreWorld
  | .call now call => { w with pool := w.pool.spawn (call.program now) }
  | .thread i => { w with pool := w.pool.advance i }
  | .createLease now token taskId nodeId ttl => w.createLease now token taskId nodeId ttl
  | .take now => w.takeNode now
  | .recover => w.advance

/-- Nothing has been called yet. -/
def start (c : CoreState) : CoreWorld := { pool := { tables := c } }

/-- The detector waits for a node, and there is none. -/
def Rested (w : CoreWorld) : Prop := w.turn.isNone ∧ w.died = false ∧ w.shared.eventQueue = []

/-! ### The detector, alone -/

/-- What becomes of the detector when a program of its has ended. -/
def finished (w : CoreWorld) : Except PyError Unit × CoreState → CoreWorld
  | (.ok a, c) => (w.withShared c).resume (.ret a)
  | (.error e, c) => (w.withShared c).resume (.raise e)

/-- One access, and what is left. -/
theorem alone_of_step {w : CoreWorld} {p : CoreSession Unit} (hp : w.turn = some p)
    (h : ∃ k, Run.exec step ((w.withShared (p.step w.shared).2).resume (p.step w.shared).1)
      (List.replicate k .recover) = w.finished ((p.step w.shared).1.run (p.step w.shared).2)) :
    ∃ k, Run.exec step w (List.replicate k .recover) = w.finished (p.run w.shared) := by
  obtain ⟨k, hk⟩ := h
  refine ⟨k + 1, ?_⟩
  rw [List.replicate_succ, Run.exec_cons, step, advance, hp, ← Prog.run_step p w.shared]
  exact hk

theorem resume_alone (p : CoreSession Unit) (w : CoreWorld) :
    ∃ k, Run.exec step (w.resume p) (List.replicate k .recover) = w.finished (p.run w.shared) := by
  induction p generalizing w with
  | ret a => exact ⟨0, rfl⟩
  | raise e => exact ⟨0, rfl⟩
  | query f next ih =>
    refine alone_of_step (w := { w with turn := some (.query f next) }) rfl ?_
    rw [Prog.step]
    cases f (shared { w with turn := some (.query f next) }) with
    | error e => exact ⟨0, rfl⟩
    | ok b => exact ih b _
  | transaction f next ih =>
    refine alone_of_step (w := { w with turn := some (.transaction f next) }) rfl ?_
    rw [Prog.step]
    cases f (shared { w with turn := some (.transaction f next) }) with
    | error e => exact ⟨0, rfl⟩
    | ok r => exact ih r.1 (withShared { w with turn := some (.transaction f next) } r.2)

/-- **Alone**, the detector takes the accesses of its turn to the end. -/
theorem turn_alone {w : CoreWorld} {p : CoreSession Unit} (hp : w.turn = some p) :
    ∃ k, Run.exec step w (List.replicate k .recover) = w.finished (p.run w.shared) :=
  alone_of_step hp (resume_alone _ _)

section Take

variable {w : CoreWorld} {nodeId : NodeId} {rest : List NodeId}

theorem step_take (hidle : w.turn = none) (halive : w.died = false)
    (hqueue : w.shared.eventQueue = nodeId :: rest) (now : Time) :
    w.step (.take now) =
      { w.withShared { w.shared with eventQueue := rest } with turn := recovery now nodeId } := by
  have hfree : ¬ (w.turn.isSome ∨ w.died) := by
    rw [hidle, halive]
    decide
  rw [step, takeNode, if_neg hfree, hqueue]

/-- **Alone**, the detector does to the next node in its queue what `_recover_node` does. -/
theorem recover_alone (hidle : w.turn = none) (halive : w.died = false)
    (hqueue : w.shared.eventQueue = nodeId :: rest) (hn : nodeId ≠ "") (now : Time) :
    ∃ k, Run.exec step w (.take now :: List.replicate k .recover) =
      w.finished ((CoreSession.recoverNode now nodeId).run
        { w.shared with eventQueue := rest }) := by
  have htake := step_take hidle halive hqueue now
  rw [recovery, if_pos hn] at htake
  simp only [Run.exec_cons, htake]
  exact turn_alone rfl

end Take

end CoreWorld

end HermesCluster
