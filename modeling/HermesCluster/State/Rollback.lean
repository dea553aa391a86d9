import HermesCluster.Lib.Run
import HermesCluster.State.Failures

/-!
# What a failing operation rolls back

An exception inside `_tx` takes the tables back to the last commit.  Every method commits what
it writes, but the adapter of the watchdog does not: until some method commits, the status it
wrote is lost with the next exception, whichever method raises it.  A method of several
transactions loses nothing once its first has ended, but keeps what the first did.

* `step_manager_of_clean`: with nothing uncommitted, the calls of `TaskManager` are those on a
  store on its own.
* `faithful_step_iff`, `whole_step_iff`: when one operation rolls back only itself.
* `rollback_iff`: the same along every run, for each transaction and for each operation.
-/

namespace HermesCluster

namespace DbOp

/-- The first transaction of the operation raises. -/
def FailsFirst (d : Database) : Time × DbOp → Prop
  | (now, .store call) => call.FailsFirst now d
  | (_, .manager call) => call.FailsFirst d.store
  | (_, .updateNodeStatus _ _) => False

/-- A later transaction of the operation raises, and finds the tables changed. -/
def FailsPartway (d : Database) : Time × DbOp → Prop
  | (_, .store call) => call.FailsPartway d
  | (_, .manager call) => call.FailsPartway d.store
  | (_, .updateNodeStatus _ _) => False

end DbOp

namespace Database

open Connection

/-- The operation rolls back only itself: if it raises in a transaction, the tables are those
a reader saw just before it. -/
def RollsBackItself (c : Connection Database) (i : Time × DbOp) : Prop :=
  (step c i).undone ≠ c.undone → (step c i).visible = c.visible

/-! ### One operation -/

/-- With nothing uncommitted, a call of `TaskManager` does to the store what it does to a store
on its own, and leaves nothing uncommitted. -/
theorem step_manager_of_clean {c : Connection Database} (h : c.Clean) (now : Time)
    (call : TaskOp) :
    (step c (now, .manager call)).visible =
        c.visible.withStore (TaskOp.step c.visible.store (now, call)) ∧
      (step c (now, .manager call)).Clean := by
  obtain ⟨-, hvisible, hclean⟩ := Prog.exec_of_clean (onStore (call.program now)) c h
  exact ⟨hvisible.trans (congrArg Prod.snd (run_onStore _ c.visible)), hclean⟩

theorem faithful_exec_failures {p : DbSession Unit} {c : Connection Database}
    {first partway : Prop} (h : p.Failures c.visible first partway) :
    (p.exec c).2.Faithful ↔ c.Faithful ∧ (first → c.Clean) := by
  rw [Prog.faithful_exec_iff, h.first_iff]

theorem whole_exec_failures {p : DbSession Unit} {c : Connection Database}
    {first partway : Prop} (h : p.Failures c.visible first partway) :
    ((p.exec c).2.undone ≠ c.undone → (p.exec c).2.visible = c.visible) ↔
      (first → c.Clean) ∧ ¬ partway := by
  rw [Prog.whole_exec_iff, h.first_iff, h.partway_iff]

theorem faithful_step_iff (c : Connection Database) (i : Time × DbOp) :
    (step c i).Faithful ↔ c.Faithful ∧ (DbOp.FailsFirst c.visible i → c.Clean) := by
  obtain ⟨now, op⟩ := i
  cases op with
  | store call => exact faithful_exec_failures (call.failures now c.visible)
  | manager call =>
    exact faithful_exec_failures (StoreCall.failures_onStore (call.failures now c.visible.store))
  | updateNodeStatus nodeId status => exact (and_iff_left fun h => h.elim).symm

theorem whole_step_iff (c : Connection Database) (i : Time × DbOp) :
    RollsBackItself c i ↔
      (DbOp.FailsFirst c.visible i → c.Clean) ∧ ¬ DbOp.FailsPartway c.visible i := by
  obtain ⟨now, op⟩ := i
  cases op with
  | store call => exact whole_exec_failures (call.failures now c.visible)
  | manager call =>
    exact whole_exec_failures (StoreCall.failures_onStore (call.failures now c.visible.store))
  | updateNodeStatus nodeId status =>
    -- the adapter opens no transaction, so nothing is undone
    exact iff_of_true (fun h => absurd rfl h) ⟨fun h => h.elim, fun h => h⟩

/-! ### Runs -/

/-- **Rollback.**  In a run of the operations, from a connection without uncommitted changes,
every transaction that raises leaves the tables as it found them exactly if nothing is
uncommitted whenever the first transaction of an operation raises; and every operation that
raises in a transaction leaves them as it found them exactly if, besides, no later transaction
of one raises that finds them changed. -/
theorem rollback_iff (d : Database) (run : List (Time × DbOp)) :
    (Run.Always step Faithful (opened d) run ↔
      Run.EachStep step (fun c i => DbOp.FailsFirst c.visible i → c.Clean) (opened d) run) ∧
    (Run.EachStep step RollsBackItself (opened d) run ↔
      Run.EachStep step (fun c i => (DbOp.FailsFirst c.visible i → c.Clean) ∧
        ¬ DbOp.FailsPartway c.visible i) (opened d) run) := by
  refine ⟨?_, ?_⟩
  · have hopened : (opened d).Faithful := fun p hp => absurd hp List.not_mem_nil
    refine Run.always_iff_eachStep (I := Faithful) (A := fun _ _ => True) (fun _ h => h) ?_
      (fun _ _ _ _ h => h) run (opened d) hopened fun _ _ _ => trivial
    intro c i hc _
    rw [faithful_step_iff]
    exact and_iff_right hc
  · exact Run.eachStep_congr whole_step_iff (opened d) run

/-! ### A status the watchdog wrote -/

/-- The watchdog takes a node offline. -/
def nodeOffline : List (Time × DbOp) :=
  [(0, .store (.registerNode { id := "n1", name := "worker", lastHeartbeat := ⟨0, none⟩ })),
   (0, .store (.createTask "t1" "build" [] 3)),
   (90, .updateNodeStatus "n1" .offline)]

/-- An update that leaves the title blank, which `update_task` refuses. -/
def blankTitle : Time × DbOp := (91, .manager (.update "t1" (some "") none none none))

/-- The refused update takes the node back online. -/
theorem update_undoes_status :
    ¬ Run.EachStep step RollsBackItself (opened {}) (nodeOffline ++ [blankTitle]) ∧
      ¬ Run.Always step Faithful (opened {}) (nodeOffline ++ [blankTitle]) := by
  refine ⟨fun h => ?_, fun h => ?_⟩
  · have hlast := h nodeOffline blankTitle (List.prefix_refl _)
    have hundone : (step (Run.exec step (opened {}) nodeOffline) blankTitle).undone ≠
        (Run.exec step (opened {}) nodeOffline).undone := by decide +kernel
    have hstatus := congrArg (fun d : Database => (d.store.nodes.get? "n1").map Node.status)
      (hlast hundone)
    exact absurd hstatus (by decide +kernel)
  · have hlast := h (nodeOffline ++ [blankTitle]) (List.prefix_refl _)
    exact absurd hlast (by decide +kernel)

end Database

end HermesCluster
