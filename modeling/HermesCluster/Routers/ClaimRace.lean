import HermesCluster.Lib.Run
import HermesCluster.Routers.Spec

/-!
# A claim between scheduler passes

`claim_task` takes the store's lock again for each of its parts: it checks that the task is
ready and free, sets the status, sets the assignee, has the lease created and reads the
task.  `ClaimRace` is one such call for the task `t` by the node `n`, with the part it has
come to, and `RaceStep` one part of the call, a pass of `schedule_pending` or an
`unassign_task`.  `exec_claim_alone` says that the parts of a call nobody interrupts are
`TaskRouter.claimTask`.

A scheduler pass that falls between the check and the status gives the ready task to a node
of its own, and the claim goes on as if nothing had happened.  `claim_exclusive` says when a
claim that succeeds was alone: exactly when no pass in between finds the task ready and
fitting on another node first.
-/

namespace HermesCluster

open Run ClusterState TaskRouter

/-- How far a call of `claim_task` has come. -/
inductive ClaimPhase
  | start
  | checked
  | running
  | assigned
  | leased
  | returned (task : Option Task)
  | raised (e : PyError)
deriving DecidableEq, Repr

/-- The call is past its check and has not ended. -/
def ClaimPhase.inWindow : ClaimPhase → Bool
  | .checked | .running | .assigned | .leased => true
  | .start | .returned _ | .raised _ => false

/-- What the call has answered. -/
def ClaimPhase.answer : ClaimPhase → Option (Except PyError Response)
  | .returned task => some (.ok (.claimed task))
  | .raised e => some (.error e)
  | .start | .checked | .running | .assigned | .leased => none

structure ClaimRace where
  router : TaskRouter
  phase : ClaimPhase := .start
deriving DecidableEq

inductive RaceStep
  /-- The next part of the call. -/
  | claim (now : Time) (token : String)
  /-- `schedule_pending` -/
  | schedule (now : Time)
  /-- `unassign_task` -/
  | unassign (now : Time) (taskId : TaskId)
deriving DecidableEq, Repr

namespace ClaimRace

variable (t : TaskId) (n : NodeId)

/-- What `claim_task` checks of the task before it writes. -/
def check (s : ClusterState) : ClaimPhase :=
  match s.getTask t with
  | none => .raised taskNotFound
  | some task =>
    if task.status ≠ .ready then
      .raised (.httpException 409
        ("task is not claimable (status=" ++ task.status.value ++ ")"))
    else if task.assignedTo ≠ none then
      .raised (.httpException 409 "task is already claimed")
    else .checked

/-- The part of the call that creates the lease. -/
def lease (r : TaskRouter) (now : Time) (token : String) : ClaimRace :=
  match r.leaseManager with
  | none => { router := r, phase := .leased }
  | some manager =>
    match manager.create r.state now token t n with
    | (.error e, manager, state) =>
      { router := { state := state, leaseManager := some manager }, phase := .raised e }
    | (.ok _, manager, state) =>
      { router := { state := state, leaseManager := some manager }, phase := .leased }

/-- The next part of the call. -/
def advance (w : ClaimRace) (now : Time) (token : String) : ClaimRace :=
  match w.phase with
  | .start => { w with phase := check t w.router.state }
  | .checked =>
    { router := { w.router with state := w.router.state.setTaskStatus now t .running }
      phase := .running }
  | .running =>
    { router := { w.router with state := { w.router.state with
        tasks := w.router.state.tasks.modify t (claimedBy now n) (key_claimedBy now n) } }
      phase := .assigned }
  | .assigned => lease t n w.router now token
  | .leased => { w with phase := .returned (w.router.state.getTask t) }
  | .returned _ | .raised _ => w

def step (w : ClaimRace) : RaceStep → ClaimRace
  | .claim now token => advance t n w now token
  | .schedule now =>
    { w with router := { w.router with state := (w.router.state.schedulePending now).2 } }
  | .unassign now taskId =>
    { w with router := { w.router with state := w.router.state.unassignTask now taskId } }

/-- Between the check and the return the task is not assigned to another node. -/
def NotTaken (w : ClaimRace) : Prop :=
  w.phase.inWindow → ∀ x, w.router.state.tasks.get? t = some x →
    x.assignedTo = none ∨ x.assignedTo = some n

/-- A scheduler pass between the check and the return does not find the task ready with
another node as its first fit. -/
def LeavesTask (w : ClaimRace) : RaceStep → Prop
  | .schedule _ => w.phase.inWindow → ∀ x node, w.router.state.tasks.get? t = some x →
      x.status = .ready → w.router.state.firstFit x.requires = some node → node.id = n
  | _ => True

variable {t n} {w : ClaimRace}

/-! ### One part -/

theorem check_eq_checked {s : ClusterState} (h : (check t s).inWindow) : ClaimAccepted s t := by
  unfold check getTask at h
  cases hx : s.tasks.get? t with
  | none => rw [hx] at h; cases h
  | some x =>
    rw [hx] at h
    by_cases hr : x.status = .ready
    · by_cases ha : x.assignedTo = none
      · exact ⟨x, hx, hr, ha⟩
      · simp [hr, ha, ClaimPhase.inWindow] at h
    · simp [hr, ClaimPhase.inWindow] at h

theorem tasks_lease (r : TaskRouter) (now : Time) (token : String) :
    (lease t n r now token).router.state.tasks = r.state.tasks := by
  cases hm : r.leaseManager with
  | none => simp only [lease, hm]
  | some m =>
    have htasks : (m.create r.state now token t n).2.2.tasks = r.state.tasks :=
      tasks_managerCreate m token n none
    simp only [lease, hm]
    split <;> rename_i hc <;> rw [hc] at htasks <;> exact htasks

/-- The call itself never gives its task to another node. -/
theorem notTaken_advance (h : w.NotTaken t n) (now : Time) (token : String) :
    (advance t n w now token).NotTaken t n := by
  intro hw x hx
  cases hp : w.phase with
  | start =>
    simp only [advance, hp] at hw hx
    obtain ⟨x', hx', -, ha⟩ := check_eq_checked hw
    rw [hx'] at hx
    cases hx
    exact Or.inl ha
  | checked =>
    simp only [advance, hp] at hx
    rw [get?_setTaskStatus, if_pos rfl] at hx
    obtain ⟨x', hx', rfl⟩ := Option.map_eq_some_iff.mp hx
    exact h (by rw [hp]; rfl) x' hx'
  | running =>
    simp only [advance, hp] at hx
    rw [Table.get?_modify, if_pos rfl] at hx
    obtain ⟨x', -, rfl⟩ := Option.map_eq_some_iff.mp hx
    exact Or.inr rfl
  | assigned =>
    simp only [advance, hp] at hx
    rw [tasks_lease] at hx
    exact h (by rw [hp]; rfl) x hx
  | leased =>
    simp only [advance, hp] at hw
    cases hw
  | returned task =>
    simp only [advance, hp] at hw
    cases hw
  | raised e =>
    simp only [advance, hp] at hw
    cases hw

/-- A pass of the scheduler leaves the task alone exactly when it does not find it ready with
another node to run it. -/
theorem notTaken_schedule (h : w.NotTaken t n) (now : Time) :
    (step t n w (.schedule now)).NotTaken t n ↔ w.LeavesTask t n (.schedule now) := by
  have hget : (step t n w (.schedule now)).router.state.tasks.get? t =
      (w.router.state.tasks.get? t).map (w.router.state.scheduled now) := get?_schedulePending
  rw [NotTaken, hget]
  refine ⟨?_, ?_⟩
  · intro hafter hw x node hx hr hf
    rw [hx] at hafter
    have ha := hafter hw _ rfl
    rw [scheduled_of_fit hr hf] at ha
    rcases ha with ha | ha
    · cases ha
    · exact Option.some.inj ha
  · intro hleaves hw x' hx'
    obtain ⟨x, hx, rfl⟩ := Option.map_eq_some_iff.mp hx'
    have ha := h hw x hx
    by_cases hr : x.status = .ready
    · cases hf : w.router.state.firstFit x.requires with
      | none =>
        rw [scheduled_of_noFit hf]
        exact ha
      | some node =>
        rw [scheduled_of_fit hr hf]
        exact Or.inr (congrArg some (hleaves hw x node hx hr hf))
    · rw [scheduled_of_not_ready hr]
      exact ha

theorem notTaken_unassign (h : w.NotTaken t n) (now : Time) (taskId : TaskId) :
    (step t n w (.unassign now taskId)).NotTaken t n := by
  intro hw x hx
  have hget : (step t n w (.unassign now taskId)).router.state.tasks.get? t =
      if t = taskId then (w.router.state.tasks.get? t).map (unassigned now)
      else w.router.state.tasks.get? t := get?_unassignTask
  rw [hget] at hx
  split at hx
  · obtain ⟨x', -, rfl⟩ := Option.map_eq_some_iff.mp hx
    exact Or.inl rfl
  · exact h hw x hx

theorem notTaken_step (h : w.NotTaken t n) (s : RaceStep) :
    (step t n w s).NotTaken t n ↔ w.LeavesTask t n s := by
  cases s with
  | claim now token => exact ⟨fun _ => trivial, fun _ => notTaken_advance h now token⟩
  | schedule now => exact notTaken_schedule h now
  | unassign now taskId => exact ⟨fun _ => trivial, fun _ => notTaken_unassign h now taskId⟩

/-! ### A call that nobody interrupts -/

/-- The five parts of a call, one after the other. -/
def alone (now : Time) (token : String) : List RaceStep := List.replicate 5 (.claim now token)

/-- A call that nobody interrupts is `TaskRouter.claimTask`. -/
theorem exec_claim_alone (r : TaskRouter) (now : Time) (token : String) :
    (exec (step t n) { router := r } (alone now token)).router = (r.claimTask now token t n).2 ∧
    (exec (step t n) { router := r } (alone now token)).phase.answer =
      some (r.claimTask now token t n).1 := by
  have hrun : exec (step t n) { router := r } (alone now token) =
      advance t n (advance t n (advance t n (advance t n (advance t n { router := r } now token)
        now token) now token) now token) now token := rfl
  rw [hrun]
  cases hx : r.state.tasks.get? t with
  | none => simp [advance, check, getTask, hx, claimTask, ClaimPhase.answer]
  | some x =>
    by_cases hr : x.status = .ready
    · by_cases ha : x.assignedTo = none
      · cases hm : r.leaseManager with
        | none =>
          simp [advance, check, lease, getTask, hx, hr, ha, hm, claimTask, ClaimPhase.answer]
        | some m =>
          obtain ⟨res, m', state, hc⟩ : ∃ res m' state,
              m.create (claimedState r.state now t n) now token t n = (res, m', state) :=
            ⟨_, _, _, rfl⟩
          simp only [claimedState] at hc
          cases res with
          | error e =>
            simp [advance, check, lease, getTask, hx, hr, ha, hm, hc, claimTask, ClaimPhase.answer]
          | ok l =>
            simp [advance, check, lease, getTask, hx, hr, ha, hm, hc, claimTask, ClaimPhase.answer]
      · simp [advance, check, getTask, hx, claimTask, hr, ha, ClaimPhase.answer]
    · simp [advance, check, getTask, hx, claimTask, hr, ClaimPhase.answer]

/-! ### Any interleaving -/

/-- **A claim that succeeds was alone**: from any store, in any interleaving with scheduler
passes and unassignments, its task was never with another node between the check and the
return exactly when no pass in between finds the task ready with another node as its first
fit. -/
theorem claim_exclusive (r : TaskRouter) (t : TaskId) (n : NodeId) (run : List RaceStep)
    (task : Option Task) : (exec (step t n) { router := r } run).phase = .returned task →
    (Always (step t n) (NotTaken t n) { router := r } run ↔
      EachStep (step t n) (LeavesTask t n) { router := r } run) := by
  have hstart : NotTaken t n { router := r } := fun hw => absurd hw Bool.false_ne_true
  intro _
  exact always_iff_eachStep (A := fun _ _ => True) (fun _ h => h)
    (fun _ s h _ => notTaken_step h s) (fun _ _ _ _ h => h) run _ hstart (fun _ _ _ => trivial)

/-- An online node `n1` and a ready task. -/
def oneReady : TaskRouter :=
  { state := { nodes := TaskRouter.oneNode
               tasks := Table.empty.put { id := "t1", title := "", status := .ready,
                                          createdAt := 0, updatedAt := 0 } } }

/-- `n1` claims the task, a scheduler pass gives it to `n1` too, and it is unassigned once. -/
def interrupted : List RaceStep :=
  [.claim 0 "a", .schedule 0, .claim 0 "a", .unassign 0 "t1", .claim 0 "a", .claim 0 "a",
    .claim 0 "a"]

theorem claim_exclusive_interrupted : Always (step "t1" "n1") (NotTaken "t1" "n1")
    { router := oneReady } interrupted ↔
      EachStep (step "t1" "n1") (LeavesTask "t1" "n1") { router := oneReady } interrupted :=
  claim_exclusive oneReady "t1" "n1" interrupted
    (some { id := "t1", title := "", status := .ready, assignedTo := some "n1",
            createdAt := 0, updatedAt := 0, version := 4 }) (by decide)

/-- A scheduler pass after the check gives the task to `n1`, and the claim by `n2` succeeds. -/
theorem claim_after_schedule :
    (exec (step "t1" "n2") { router := oneReady }
      (.claim 0 "a" :: .schedule 0 :: List.replicate 4 (.claim 0 "a"))).phase.answer.map
        Except.isOk = some true ∧
    ¬ Always (step "t1" "n2") (NotTaken "t1" "n2") { router := oneReady }
      (.claim 0 "a" :: .schedule 0 :: List.replicate 4 (.claim 0 "a")) := by
  refine ⟨by decide, fun h => ?_⟩
  have hnot := h [.claim 0 "a", .schedule 0] (by decide)
  have hget : (exec (step "t1" "n2") { router := oneReady }
      [.claim 0 "a", .schedule 0]).router.state.tasks.get? "t1" =
      some { id := "t1", title := "", status := .running, assignedTo := some "n1",
             createdAt := 0, updatedAt := 0, version := 1 } := by decide
  have hwith := hnot (by decide) _ hget
  revert hwith; decide

end ClaimRace

end HermesCluster
