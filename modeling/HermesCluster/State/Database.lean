import HermesCluster.Task.TaskManager

/-!
# The database

All tables of `hermes_cluster/state/cluster_store.py` and every method that writes them, those
of `TaskManager` and the `update_node_status` of the watchdog's adapter included, on a
connection.  The methods open their transactions with `_tx`; the adapter executes its `UPDATE`
on the connection and leaves it uncommitted.

What `json.dumps` makes of a value, or raises, is an argument.  The methods that only read are
left out, and so are the callbacks.
-/

namespace HermesCluster

inductive EventType | taskCreated | taskAssigned | taskCompleted | taskFailed | nodeOffline
deriving DecidableEq, Repr

inductive FederationClusterStatus | available | unavailable
deriving DecidableEq, Repr

structure RecoveryRow where
  id : String
  event : RecoveryEvent
deriving DecidableEq, Repr

structure RemoteCluster where
  id : String
  name : String
  endpoint : String
  status : FederationClusterStatus := .available
  registeredAt : Time
  lastPing : Time
  pingLatency : ℚ := 0
deriving DecidableEq, Repr

structure Hook where
  id : String
  url : String
  events : List EventType := []
  secret : Option String := none
  active : Bool := true
  createdAt : Time
  updatedAt : Time
deriving DecidableEq, Repr

structure DeliveryRow where
  id : String
  hookId : String
  eventType : String := ""
  payload : String := "\x7b\x7d"
  status : String := "delivered"
  createdAt : Time
deriving DecidableEq, Repr

instance : Keyed RecoveryRow String := ⟨RecoveryRow.id⟩
instance : Keyed RemoteCluster String := ⟨RemoteCluster.id⟩
instance : Keyed Hook String := ⟨Hook.id⟩
instance : Keyed DeliveryRow String := ⟨DeliveryRow.id⟩

/-- The tables; of `kv_store` the one key that is used, with its JSON text. -/
structure Database where
  store : ClusterStore := {}
  recoveryEvents : Table RecoveryRow := Table.empty
  federationClusters : Table RemoteCluster := Table.empty
  hooks : Table Hook := Table.empty
  deliveries : Table DeliveryRow := Table.empty
  clusterConfig : Option String := none
deriving DecidableEq

/-- A program over all tables. -/
abbrev DbSession (α : Type) := Prog Database PyError α

namespace Database

def withStore (d : Database) (store : ClusterStore) : Database := { d with store := store }

/-- A method that uses the tables of nodes, tasks, leases, messages and decisions. -/
def onStore {α : Type} (p : Session α) : DbSession α := p.zoom Database.store withStore

/-- On the store it does what it does to a store on its own. -/
theorem run_onStore {α : Type} (p : Session α) (d : Database) :
    (onStore p).run d = ((p.run d.store).1, d.withStore (p.run d.store).2) := by
  refine Prog.run_zoom ?_ ?_ ?_ p d
  · exact fun _ _ => rfl
  · exact fun _ _ _ => rfl
  · exact fun _ => rfl

/-! ### Recovery log -/

/-- The `INSERT` of `append_recovery_event`; an id that is there violates the primary key. -/
def insertRecovery (d : Database) (row : RecoveryRow) : Except PyError (Unit × Database) :=
  if d.recoveryEvents.get? row.id = none then
    .ok ((), { d with recoveryEvents := d.recoveryEvents.put row })
  else .error .integrityError

/-- The id an event gets that comes without one. -/
def recoveryId (token id : String) : String :=
  if id = "" then generateId "recovery" token else id

def appendRecoveryEvent (now : Time) (token id : String) (event : RecoveryEvent) :
    DbSession Unit :=
  .tx fun d => d.insertRecovery
    { id := recoveryId token id, event := { event with timestamp := now } }

def triggerRecovery (now : Time) (token : String) (nodeId : NodeId) : DbSession Unit :=
  appendRecoveryEvent now token ""
    { nodeId := nodeId, action := "reschedule", status := "completed",
      message := some ("Node " ++ nodeId ++ " went offline, rescheduling tasks"),
      timestamp := now }

/-! ### Scheduling decisions -/

def recordDecision (decision : SchedulingDecision) : Session Unit :=
  .tx fun s =>
    if ClusterStore.fits64 decision.priority then .ok ((), s.recordDecision decision)
    else .error .overflowError

/-! ### Federation registry -/

def registerFederationCluster (now : Time) (clusterId name endpoint : String) : DbSession Unit :=
  let cluster : RemoteCluster :=
    { id := clusterId, name := name, endpoint := endpoint, registeredAt := now, lastPing := now }
  .write fun d => ((), { d with federationClusters := d.federationClusters.replaceInto cluster })

def removeFederationCluster (clusterId : String) : DbSession Bool :=
  .write fun d => ((d.federationClusters.get? clusterId).isSome,
    { d with federationClusters := d.federationClusters.erase clusterId })

/-! ### Hook manager -/

/-- An empty secret is none; a hook with the same id violates the primary key. -/
def registerHook (now : Time) (token url : String) (events : List EventType) (secret : String) :
    DbSession Unit :=
  let hook : Hook :=
    { id := generateId "hook" token, url := url, events := events,
      secret := if secret = "" then none else some secret, createdAt := now, updatedAt := now }
  .tx fun d =>
    if d.hooks.get? hook.id = none then .ok ((), { d with hooks := d.hooks.put hook })
    else .error .integrityError

def deregisterHook (hookId : String) : DbSession Bool :=
  .write fun d => ((d.hooks.get? hookId).isSome, { d with hooks := d.hooks.erase hookId })

/-- `_max_deliveries` -/
def maxDeliveries : Nat := 1000

/-- The ids `ORDER BY created_at DESC LIMIT ?` leaves. -/
def newest (t : Table DeliveryRow) : List String :=
  ((t.rows.insertionSort fun a b => b.createdAt ≤ a.createdAt).take maxDeliveries).map
    DeliveryRow.id

/-- The `DELETE` of `add_delivery`. -/
def trimmed (t : Table DeliveryRow) : Table DeliveryRow :=
  if t.rows.length > maxDeliveries then t.delete (·.id ∉ newest t) else t

def addDelivery (id hookId eventType : String) (payload : Except PyError String)
    (status : String) (createdAt : Time) : DbSession Unit :=
  .tx fun d => payload.map fun text =>
    let row : DeliveryRow :=
      { id := id, hookId := hookId, eventType := eventType, payload := text, status := status,
        createdAt := createdAt }
    ((), { d with deliveries := trimmed (d.deliveries.replaceInto row) })

/-! ### Config -/

def setConfig (config : Except PyError String) : DbSession Unit :=
  .tx fun d => config.map fun text => ((), { d with clusterConfig := some text })

end Database

/-! ### Operations -/

/-- The methods of `ClusterStore` that write. -/
inductive StoreCall
  | registerNode (node : Node)
  | updateHeartbeat (nodeId : NodeId) (load : Load)
  | updateCapabilities (nodeId : NodeId) (caps : List Capability)
  | setNodeStatus (nodeId : NodeId) (status : NodeStatus)
  | createTask (taskId : TaskId) (title : String) (requires : List Capability) (priority : Int)
  | setTaskStatus (taskId : TaskId) (status : TaskStatus) (failReason : String)
  | unassignTask (taskId : TaskId)
  | unblockTask (taskId : TaskId)
  | setDependencies (taskId : TaskId) (dependsOn : List TaskId)
  | createLease (token : String) (taskId : TaskId) (nodeId : NodeId) (ttl : Duration)
  | revokeLease (leaseId : LeaseId)
  | getActiveLeases
  | handleSyncMessage (msg : SyncMessage)
  | handleBatchSync (messages : List SyncMessage)
  | appendRecoveryEvent (token id : String) (event : RecoveryEvent)
  | triggerRecovery (token : String) (nodeId : NodeId)
  | recordDecision (decision : SchedulingDecision)
  | triggerPendingTasks
  | schedulePending
  | registerFederationCluster (clusterId name endpoint : String)
  | removeFederationCluster (clusterId : String)
  | registerHook (token url : String) (events : List EventType) (secret : String)
  | deregisterHook (hookId : String)
  | addDelivery (id hookId eventType : String) (payload : Except PyError String)
    (status : String) (createdAt : Time)
  | setConfig (config : Except PyError String)

namespace StoreCall

open Database

/-- The program of a call, whatever it returns. -/
def program (now : Time) : StoreCall → DbSession Unit
  | .registerNode node => onStore (.write fun s => ((), s.registerNode node))
  | .updateHeartbeat nodeId load =>
    onStore (.write fun s => ((), s.updateHeartbeat now nodeId load))
  | .updateCapabilities nodeId caps =>
    onStore (.write fun s => ((), s.updateCapabilities nodeId caps))
  | .setNodeStatus nodeId status => onStore (.write fun s => ((), s.setNodeStatus nodeId status))
  | .createTask taskId title requires priority => do
    let _ ← onStore (Session.createTask now taskId title requires priority)
  | .setTaskStatus taskId status failReason => do
    let _ ← onStore (Session.setTaskStatus now taskId status failReason)
  | .unassignTask taskId => onStore (.write fun s => ((), s.unassignTask now taskId))
  | .unblockTask taskId => do let _ ← onStore (.write fun s => s.unblockTask now taskId)
  | .setDependencies taskId dependsOn => do
    let _ ← onStore (Session.setDependencies now taskId dependsOn)
  | .createLease token taskId nodeId ttl => do
    let _ ← onStore (Session.createLease now token taskId nodeId ttl)
  | .revokeLease leaseId => do let _ ← onStore (.write fun s => s.revokeLease leaseId)
  | .getActiveLeases => do let _ ← onStore (Session.getActiveLeases now)
  | .handleSyncMessage msg => do let _ ← onStore (Session.handleSyncMessage now msg)
  | .handleBatchSync messages => do let _ ← onStore (Session.handleBatchSync now messages)
  | .appendRecoveryEvent token id event => Database.appendRecoveryEvent now token id event
  | .triggerRecovery token nodeId => Database.triggerRecovery now token nodeId
  | .recordDecision decision => onStore (Database.recordDecision decision)
  | .triggerPendingTasks => do let _ ← onStore (Session.triggerPendingTasks now)
  | .schedulePending => do let _ ← onStore (Session.schedulePending now)
  | .registerFederationCluster clusterId name endpoint =>
    Database.registerFederationCluster now clusterId name endpoint
  | .removeFederationCluster clusterId => do let _ ← Database.removeFederationCluster clusterId
  | .registerHook token url events secret => Database.registerHook now token url events secret
  | .deregisterHook hookId => do let _ ← Database.deregisterHook hookId
  | .addDelivery id hookId eventType payload status createdAt =>
    Database.addDelivery id hookId eventType payload status createdAt
  | .setConfig config => Database.setConfig config

end StoreCall

/-- One operation on the database. -/
inductive DbOp
  | store (call : StoreCall)
  | manager (call : TaskOp)
  /-- `update_node_status` of the watchdog's adapter. -/
  | updateNodeStatus (nodeId : NodeId) (status : NodeStatus)

namespace Database

open Connection

/-- The `UPDATE` of `update_node_status`. -/
def updateNodeStatus (d : Database) (nodeId : NodeId) (status : NodeStatus) : Database :=
  d.withStore (d.store.setNodeStatus nodeId status)

/-- The connection after an operation at a clock reading, whether it returns or raises. -/
def step (c : Connection Database) : Time × DbOp → Connection Database
  | (now, .store call) => ((call.program now).exec c).2
  | (now, .manager call) => ((onStore (call.program now)).exec c).2
  | (_, .updateNodeStatus nodeId status) => c.bare fun d => d.updateNodeStatus nodeId status

end Database

end HermesCluster
