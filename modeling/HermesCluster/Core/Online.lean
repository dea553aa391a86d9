import HermesCluster.State.Session
import HermesCluster.State.StoreSpec

/-!
# What happens when a node comes online

`ClusterCore` wires `_on_node_online` into the store: it is to promote what is due and then
schedule.  `ClusterScheduler.trigger_pending_tasks` promises a list of task ids and returns
the number the store returns, so the `len` in the log line raises as soon as something was
promoted; `register_node` swallows the exception, and the scheduler is never called.
-/

namespace HermesCluster

open ClusterStore

/-! ### `ClusterScheduler` -/

namespace ClusterScheduler

/-- `trigger_pending_tasks`: what the store returns, a number. -/
def triggerPendingTasks (now : Time) : Session Nat := Session.triggerPendingTasks now

def schedulePending (now : Time) : Session Nat := Session.schedulePending now

end ClusterScheduler

/-! ### `ClusterCore` -/

namespace ClusterCore

/-- `len(n)` of an `int`. -/
def lenOfInt (_ : Nat) : Session Nat := .raise .typeError

/-- `_on_node_online`, whose argument goes into the log line only. -/
def onNodeOnline (now : Time) : Session Unit := do
  let promoted ← ClusterScheduler.triggerPendingTasks now
  if promoted ≠ 0 then
    let _ ← lenOfInt promoted
    let _ ← ClusterScheduler.schedulePending now
    return ()
  else return ()

/-- `store.register_node` with the callback wired: what it raises is dropped. -/
def registerNode (s : ClusterStore) (now : Time) (node : Node) : ClusterStore :=
  ((onNodeOnline now).run (s.registerNode node)).2

variable {s s' : ClusterStore} {now : Time} {k : TaskId} {node : Node}

/-- The callback never gets past the promotion. -/
theorem onNodeOnline_snd (s : ClusterStore) (now : Time) :
    ((onNodeOnline now).run s).2 = (s.triggerPendingTasks now).2 := by
  rw [onNodeOnline, Prog.run_bind]
  show (Prog.andThen (.ok (s.triggerPendingTasks now).1, (s.triggerPendingTasks now).2) _).2 = _
  rw [Prog.andThen_ok]
  split
  · rfl
  · rfl

theorem get?_registerNode : (registerNode s now node).tasks.get? k =
    (s.tasks.get? k).map (s.promoted now) := by
  have hdone : ∀ deps, (s.registerNode node).allDone deps = s.allDone deps := fun _ => rfl
  rw [registerNode, onNodeOnline_snd, get?_triggerPendingTasks]
  congr 1

/-! ### The work the node could do -/

/-- The task waits although its dependencies are completed and it requires only `caps`. -/
def Due (s : ClusterStore) (caps : List Capability) (k : TaskId) (r : TaskRow) : Prop :=
  s.tasks.get? k = some r ∧
    (r.status = TaskStatus.pending.value ∨ r.status = TaskStatus.ready.value) ∧
    (∀ d ∈ r.dependsOn, s.Completed d) ∧ ∀ cap ∈ r.requires, cap ∈ caps

/-- No task that is due for the capabilities is left waiting. -/
def PicksUp (s : ClusterStore) (caps : List Capability) : Prop := ∀ k r, ¬ Due s caps k r

theorem completed_registerNode (d : TaskId) :
    (registerNode s now node).Completed d ↔ s.Completed d :=
  completed_of_map (fun _ => get?_registerNode) promoted_status_completed d

/-- A promotion makes a pending row ready and leaves any other status alone. -/
theorem promoted_waits_iff (r : TaskRow) :
    ((s.promoted now r).status = TaskStatus.pending.value ∨
      (s.promoted now r).status = TaskStatus.ready.value) ↔
    (r.status = TaskStatus.pending.value ∨ r.status = TaskStatus.ready.value) := by
  rw [promoted, madeReady]
  split
  · split
    · rename_i h
      exact iff_of_true (.inr rfl) (.inl h)
    · exact Iff.rfl
  · exact Iff.rfl

/-- **A node comes online**, and no work is left for it exactly when there was none: whatever
was due before the call is due after it. -/
theorem picksUp_iff (s : ClusterStore) (now : Time) (node : Node) :
    PicksUp (registerNode s now node) node.capabilities ↔ PicksUp s node.capabilities := by
  refine ⟨?_, ?_⟩
  · rintro h k r ⟨hr, hwaits, hdone, hcaps⟩
    refine h k (s.promoted now r) ⟨?_, (promoted_waits_iff r).mpr hwaits, ?_, ?_⟩
    · rw [get?_registerNode, hr]
      rfl
    · rw [promoted_dependsOn]
      exact fun d hd => completed_registerNode d |>.mpr (hdone d hd)
    · rw [promoted_requires]
      exact hcaps
  · rintro h k r' ⟨hr', hwaits, hdone, hcaps⟩
    rw [get?_registerNode] at hr'
    obtain ⟨r, hr, rfl⟩ := Option.map_eq_some_iff.mp hr'
    rw [promoted_dependsOn] at hdone
    rw [promoted_requires] at hcaps
    exact h k r ⟨hr, (promoted_waits_iff r).mp hwaits,
      fun d hd => completed_registerNode d |>.mp (hdone d hd), hcaps⟩

/-- A pending task that anyone could run. -/
def idleRow : TaskRow where
  id := "task_a"
  title := "build"
  createdAt := 1
  updatedAt := 1
  version := 1

def idleStore : ClusterStore where
  tasks := Table.empty.put idleRow

def idleNode : Node where
  id := "n1"
  name := "worker"
  lastHeartbeat := ⟨2, none⟩

/-- The node comes online: the task is promoted, the callback raises, and the task stays
ready. -/
theorem online_leaves_work :
    ((onNodeOnline 2).run (idleStore.registerNode idleNode)).1 = .error .typeError ∧
      ((registerNode idleStore 2 idleNode).tasks.get? "task_a").map TaskRow.status =
        some "ready" ∧
      ¬ PicksUp (registerNode idleStore 2 idleNode) idleNode.capabilities := by
  refine ⟨by decide, by decide, fun h => ?_⟩
  exact h "task_a" _ ⟨rfl, .inr (by decide), fun _ hd => absurd hd List.not_mem_nil,
    fun _ hcap => absurd hcap List.not_mem_nil⟩

end ClusterCore

end HermesCluster
