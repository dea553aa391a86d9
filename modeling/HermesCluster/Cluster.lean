import HermesCluster.Routers.Tasks
import HermesCluster.Recovery.Pipeline

/-!
# The cluster

The store with everything `create_app` puts around it: the task router with its
lease manager, and the recovery manager.  `Cluster.step` is one operation at a clock
reading; a run is a list of such steps, in any order.
-/

namespace HermesCluster

structure Cluster where
  router : TaskRouter
  recovery : RecoveryManager := {}
deriving DecidableEq

inductive ClusterOp
  /-- A request to the task router, or `POST /schedule/trigger`. -/
  | request (req : TaskRouter.Request)
  | registerNode (node : Node)
  | updateHeartbeat (nodeId : NodeId) (load : Load)
  | updateCapabilities (nodeId : NodeId) (caps : List Capability)
  | setNodeStatus (nodeId : NodeId) (status : NodeStatus)
  /-- A pass of the lease scanner. -/
  | scanLeases
  | triggerRecovery (nodeId : NodeId)
  | detectExpiredLeases (order : SetOrder)

namespace Cluster

/-- An empty store with its managers, once the nodes have registered. -/
def initWith (nodes : Table Node) : Cluster := { router := TaskRouter.initWith nodes }

def init : Cluster := initWith Table.empty

abbrev state (c : Cluster) : ClusterState := c.router.state

def withState (c : Cluster) (state : ClusterState) : Cluster :=
  { c with router := { c.router with state := state } }

def apply (c : Cluster) (now : Time) : ClusterOp → Cluster
  | .request req => { c with router := (c.router.handle now req).2 }
  | .registerNode node => c.withState (c.state.registerNode node)
  | .updateHeartbeat nodeId load => c.withState (c.state.updateHeartbeat now nodeId load)
  | .updateCapabilities nodeId caps => c.withState (c.state.updateCapabilities nodeId caps)
  | .setNodeStatus nodeId status => c.withState (c.state.setNodeStatus nodeId status)
  | .scanLeases => c.withState (c.state.getActiveLeases now).2
  | .triggerRecovery nodeId =>
    let (_, recovery, state) := c.recovery.triggerRecovery c.state now nodeId
    { c.withState state with recovery := recovery }
  | .detectExpiredLeases order =>
    let (_, recovery, state) := c.recovery.detectExpiredLeases order c.state now
    { c.withState state with recovery := recovery }

/-- One step of a run, each operation with the clock reading it is done at. -/
def step (c : Cluster) (op : Time × ClusterOp) : Cluster := c.apply op.1 op.2

end Cluster

end HermesCluster
