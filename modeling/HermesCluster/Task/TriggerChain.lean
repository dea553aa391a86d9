import HermesCluster.Lib.Traverse
import HermesCluster.Task.Acyclic

/-!
# The trigger chain

`get_trigger_chain` follows the dependents of a task, of their tasks and so on, at most
`max_depth` edges deep.  A task it has expanded is not expanded again, but a dependent is put
in the chain each time an expanded task has it, before that test.

`trigger_chain_exact_iff` says for both states, on every table, when the chain is the list of
the tasks within `max_depth` edges, without repetition: when no task depends on two of the
tasks that are closer.
-/

namespace HermesCluster

open Traverse

/-- The edges of the chain: from a task to one that depends on it. -/
def Triggers (deps : TaskId → List TaskId) (t d : TaskId) : Prop := DependsOn deps d t

/-- A path of between one edge and `maxDepth` leads from `r` to `d`. -/
def TriggeredWithin (deps : TaskId → List TaskId) (maxDepth : Int) (r d : TaskId) : Prop :=
  ∃ k : Nat, 1 ≤ k ∧ (k : Int) ≤ maxDepth ∧ Steps (Triggers deps) k r d

/-- A path of fewer than `maxDepth` edges leads from `r` to `t`, or `t` is `r`. -/
def CloserThan (deps : TaskId → List TaskId) (maxDepth : Int) (r t : TaskId) : Prop :=
  ∃ k : Nat, (k : Int) < maxDepth ∧ Steps (Triggers deps) k r t

/-- The chain lists the tasks within reach, no other and none of them twice. -/
def ChainExact (deps : TaskId → List TaskId) (maxDepth : Int) (r : TaskId)
    (chain : List TaskId) : Prop :=
  chain.Nodup ∧ ∀ d, d ∈ chain ↔ TriggeredWithin deps maxDepth r d

/-- No task depends on two of the tasks closer than `maxDepth`. -/
def SoleTrigger (deps : TaskId → List TaskId) (maxDepth : Int) (r : TaskId) : Prop :=
  ∀ t u d, CloserThan deps maxDepth r t → CloserThan deps maxDepth r u →
    Triggers deps t d → Triggers deps u d → t = u

/-- `_traverse`, from `depth` 0 and with nothing visited; the fuel is `max_depth - depth`. -/
def triggerChain (getDependents : TaskId → List TaskId) (taskId : TaskId) (maxDepth : Int) :
    List TaskId :=
  (traverse getDependents maxDepth.toNat taskId {}).chain

variable {deps getDependents : TaskId → List TaskId} {maxDepth : Int} {r : TaskId}

theorem near_iff_closerThan (h : (fun t d => d ∈ getDependents t) = Triggers deps) {t : TaskId} :
    Near getDependents maxDepth.toNat r t ↔ CloserThan deps maxDepth r t := by
  rw [Near, CloserThan, h]
  exact exists_congr fun k => and_congr_left fun _ => Int.lt_toNat

theorem within_iff_triggered (h : (fun t d => d ∈ getDependents t) = Triggers deps) {d : TaskId} :
    Within getDependents maxDepth.toNat r d ↔ TriggeredWithin deps maxDepth r d := by
  rw [Within, TriggeredWithin, h]
  refine exists_congr fun k => and_congr_right fun hk => and_congr_left fun _ => ?_
  omega

/-- What a state has to bring along: its `get_dependents` lists the edges, each once. -/
theorem triggerChain_exact_iff (hnodup : ∀ t, (getDependents t).Nodup)
    (hedge : ∀ t d, d ∈ getDependents t ↔ Triggers deps t d) :
    ChainExact deps maxDepth r (triggerChain getDependents r maxDepth) ↔
      SoleTrigger deps maxDepth r := by
  have h : (fun t d => d ∈ getDependents t) = Triggers deps := by
    funext t d
    exact propext (hedge t d)
  have hexact := chain_exact_iff hnodup maxDepth.toNat r
  simp only [Traverse.SoleParents, near_iff_closerThan h, within_iff_triggered h, hedge] at hexact
  exact hexact

namespace ClusterState

def getTriggerChain (s : ClusterState) (taskId : TaskId) (maxDepth : Int := 10) : List TaskId :=
  triggerChain s.getDependents taskId maxDepth

theorem mem_getDependents_iff {s : ClusterState} (t d : TaskId) :
    d ∈ s.getDependents t ↔ Triggers s.depsOf t d := by
  rw [mem_getDependents, Triggers, DependsOn, depsOf]
  cases s.tasks.get? d with
  | none => simp
  | some x => simp

end ClusterState

namespace ClusterStore

def getTriggerChain (s : ClusterStore) (taskId : TaskId) (maxDepth : Int := 10) : List TaskId :=
  triggerChain s.getDependents taskId maxDepth

theorem nodup_getDependents {s : ClusterStore} (t : TaskId) : (s.getDependents t).Nodup :=
  (List.filter_sublist.map TaskRow.id).nodup s.tasks.nodup

theorem mem_getDependents_iff {s : ClusterStore} (t d : TaskId) :
    d ∈ s.getDependents t ↔ Triggers s.depsOf t d := by
  refine Table.mem_map_key_filter.trans ?_
  rw [Triggers, DependsOn, depsOf]
  cases s.tasks.get? d with
  | none => simp
  | some x => simp

end ClusterStore

/-- **When the trigger chain is exact**, in both states, for every table, task and depth: when
no task depends on two of the tasks closer than `max_depth`. -/
theorem trigger_chain_exact_iff (r : TaskId) (maxDepth : Int) :
    (∀ s : ClusterState, ChainExact s.depsOf maxDepth r (s.getTriggerChain r maxDepth) ↔
      SoleTrigger s.depsOf maxDepth r) ∧
    (∀ s : ClusterStore, ChainExact s.depsOf maxDepth r (s.getTriggerChain r maxDepth) ↔
      SoleTrigger s.depsOf maxDepth r) := by
  refine ⟨fun s => ?_, fun s => ?_⟩
  · exact triggerChain_exact_iff (fun _ => ClusterState.nodup_getDependents)
      ClusterState.mem_getDependents_iff
  · exact triggerChain_exact_iff ClusterStore.nodup_getDependents
      ClusterStore.mem_getDependents_iff

/-- Two tasks that depend on the first, and a fourth that depends on both. -/
def diamond : List (Time × DependencyRequest) :=
  [(0, .createTask "a" "fetch" [] 3), (1, .createTask "b" "build" [] 3),
    (2, .createTask "c" "lint" [] 3), (3, .createTask "d" "release" [] 3),
    (4, .setDependencies "b" ["a"]), (5, .setDependencies "c" ["a"]),
    (6, .setDependencies "d" ["b", "c"])]

/-- The fourth task of the diamond is listed twice. -/
theorem diamond_listed_twice :
    ¬ ChainExact (Run.exec ClusterState.request {} diamond).depsOf 10 "a"
      ((Run.exec ClusterState.request {} diamond).getTriggerChain "a") ∧
    ¬ ChainExact (Run.exec ClusterStore.request {} diamond).depsOf 10 "a"
      ((Run.exec ClusterStore.request {} diamond).getTriggerChain "a") := by
  refine ⟨fun h => absurd h.1 ?_, fun h => absurd h.1 ?_⟩
  · decide +kernel
  · decide +kernel

end HermesCluster
