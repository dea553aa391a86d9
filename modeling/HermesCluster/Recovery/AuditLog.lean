import HermesCluster.Lib.Run
import HermesCluster.Recovery.Recovered

/-!
# The recovery log and the counters

What each part of the pipeline writes into the recovery log: `revoke_all_for_node` an event
for each task it lists, `reschedule_orphaned` one for each task of its list that exists
(`outcome`), `trigger_recovery` these and a `full_recovery` event at the end (`Block`).

`counters_match_log` follows the counters of the manager and the log along a run.
-/

namespace HermesCluster

open ClusterState Run

/-! ### Statistics -/

/-- An entry of `by_action`. -/
structure ActionCount where
  action : String
  count : Nat
deriving DecidableEq, Repr

instance : Keyed ActionCount String := ⟨ActionCount.action⟩

/-- What `get_recovery_stats` returns, without the two settings of the scan. -/
structure RecoveryStats where
  total : Nat
  byAction : Table ActionCount
  totalTriggers : Nat
  totalRevoked : Nat
  totalRescheduled : Nat
deriving DecidableEq

/-- `by_action[e.action] = by_action.get(e.action, 0) + 1` -/
def countOne (byAction : Table ActionCount) (e : RecoveryEvent) : Table ActionCount :=
  byAction.put ⟨e.action, (byAction.get? e.action).elim 0 ActionCount.count + 1⟩

/-- `ClusterState.recovery_stats` -/
def ClusterState.recoveryStats (s : ClusterState) : Nat × Table ActionCount :=
  (s.recoveryEvents.length, s.recoveryEvents.foldl countOne Table.empty)

def RecoveryManager.getRecoveryStats (m : RecoveryManager) (s : ClusterState) : RecoveryStats :=
  let (total, byAction) := s.recoveryStats
  ⟨total, byAction, m.totalRecoveries, m.totalRevoked, m.totalRescheduled⟩

/-- The number of events of the log with this action. -/
def countAction (action : String) (log : List RecoveryEvent) : Nat :=
  log.countP (fun e => e.action = action)

theorem countAction_append (action : String) (l l' : List RecoveryEvent) :
    countAction action (l ++ l') = countAction action l + countAction action l' :=
  List.countP_append

theorem countAction_eq_zero {action : String} {l : List RecoveryEvent}
    (h : ∀ e ∈ l, e.action ≠ action) : countAction action l = 0 := by
  rw [countAction, List.countP_eq_zero]
  intro e he
  simpa using h e he

theorem countAction_eq_length {action : String} {l : List RecoveryEvent}
    (h : ∀ e ∈ l, e.action = action) : countAction action l = l.length := by
  rw [countAction, List.countP_eq_length]
  intro e he
  simpa using h e he

theorem sum_foldl_countOne (log : List RecoveryEvent) (byAction : Table ActionCount) :
    ((log.foldl countOne byAction).rows.map ActionCount.count).sum =
      (byAction.rows.map ActionCount.count).sum + log.length :=
  Table.sum_foldl_put ActionCount.count
    (fun byAction (e : RecoveryEvent) =>
      ⟨e.action, (byAction.get? e.action).elim 0 ActionCount.count + 1⟩)
    (fun _ _ => rfl) log byAction

/-- `total` is the sum of `by_action`. -/
theorem recoveryStats_total (s : ClusterState) :
    s.recoveryStats.1 = (s.recoveryStats.2.rows.map ActionCount.count).sum := by
  rw [recoveryStats, sum_foldl_countOne]
  show _ = 0 + _
  rw [Nat.zero_add]

/-! ### `Revoker` -/

namespace ClusterState

variable {s s' : ClusterState} {now : Time} {t : TaskId} {n : NodeId}

theorem recoveryEvents_revokeLease (id : LeaseId) :
    (s.revokeLease id).2.recoveryEvents = s.recoveryEvents := by
  rw [revokeLease]
  split
  · rfl
  · rfl

/-- A turn of the loop logs what it lists. -/
theorem revokeOne_log (now : Time) (n : NodeId) (acc : List TaskId × ClusterState) (l : Lease) :
    ∃ new : List RecoveryEvent,
      (Revoker.revokeOne now n acc l).2.recoveryEvents = acc.2.recoveryEvents ++ new ∧
      (Revoker.revokeOne now n acc l).1 = acc.1 ++ new.map RecoveryEvent.taskId ∧
      ∀ e ∈ new, e.action = "revoke_lease" := by
  have hkeep := recoveryEvents_revokeLease (s := acc.2) l.id
  rw [Revoker.revokeOne]
  by_cases hn : l.nodeId = n
  · rw [if_pos hn]
    split
    rename_i success state hrevoke
    rw [hrevoke] at hkeep
    dsimp only at hkeep
    split
    · refine ⟨[_], by rw [appendRecoveryEvent, hkeep], rfl, fun e he => ?_⟩
      rw [List.mem_singleton.mp he]
    · exact ⟨[], by rw [hkeep, List.append_nil], by simp, by simp⟩
  · rw [if_neg hn]
    exact ⟨[], by simp, by simp, by simp⟩

theorem foldl_revokeOne_log (l : List Lease) (acc : List TaskId × ClusterState) :
    ∃ new : List RecoveryEvent,
      (l.foldl (Revoker.revokeOne now n) acc).2.recoveryEvents = acc.2.recoveryEvents ++ new ∧
      (l.foldl (Revoker.revokeOne now n) acc).1 = acc.1 ++ new.map RecoveryEvent.taskId ∧
      ∀ e ∈ new, e.action = "revoke_lease" := by
  induction l generalizing acc with
  | nil => exact ⟨[], by simp, by simp, by simp⟩
  | cons a l ih =>
    obtain ⟨new, hlog, hids, hall⟩ := revokeOne_log now n acc a
    obtain ⟨new', hlog', hids', hall'⟩ := ih (Revoker.revokeOne now n acc a)
    refine ⟨new ++ new', ?_, ?_, fun e he => ?_⟩
    · rw [List.foldl_cons, hlog', hlog, List.append_assoc]
    · rw [List.foldl_cons, hids', hids, List.map_append, List.append_assoc]
    · exact (List.mem_append.mp he).elim (hall e) (hall' e)

/-- `revoke_all_for_node` logs a revocation for each task it returns. -/
theorem revokeAllForNode_log (s : ClusterState) (now : Time) (n : NodeId) :
    ∃ new : List RecoveryEvent,
      (Revoker.revokeAllForNode s now n).2.recoveryEvents = s.recoveryEvents ++ new ∧
      (Revoker.revokeAllForNode s now n).1 = new.map RecoveryEvent.taskId ∧
      ∀ e ∈ new, e.action = "revoke_lease" :=
  foldl_revokeOne_log (s.leases.rows.filter (·.live now)) ([], (s.getActiveLeases now).2)

/-! ### `Rescheduler` -/

/-- The node `reschedule_orphaned` finds a task on after the scheduler has run; one without
a name it does not see. -/
def placedOn (s : ClusterState) (requires : List Capability) : Option NodeId :=
  ((s.firstFit requires).map Node.id).filter (· ≠ "")

def rescheduleEvent (now : Time) (t : TaskId) (nodeId : NodeId) : RecoveryEvent :=
  { taskId := t, action := "reschedule", status := "completed", timestamp := now,
    message := some ("Rescheduled to node " ++ nodeId) }

def markFailedEvent (now : Time) (t : TaskId) : RecoveryEvent :=
  { taskId := t, action := "mark_failed", status := "completed", timestamp := now,
    message := some "No available node for reschedule" }

/-- What `reschedule_orphaned` logs for the task `t`, if it exists. -/
def outcome (s : ClusterState) (now : Time) (t : TaskId) : Option RecoveryEvent :=
  (s.tasks.get? t).map fun x =>
    (s.placedOn x.requires).elim (markFailedEvent now t) (rescheduleEvent now t)

theorem outcome_action {e : RecoveryEvent} (h : s.outcome now t = some e) :
    e.taskId = t ∧ (e.action = "reschedule" ∨ e.action = "mark_failed") := by
  obtain ⟨x, -, rfl⟩ := Option.map_eq_some_iff.mp h
  cases s.placedOn x.requires with
  | some nodeId => exact ⟨rfl, .inl rfl⟩
  | none => exact ⟨rfl, .inr rfl⟩

/-- Rescheduling changes neither the nodes nor what a task requires. -/
theorem Rescheduled.outcome {O : TaskId → Prop} (h : Rescheduled O s s') (t : TaskId) :
    s'.outcome now t = s.outcome now t := by
  cases ht : s.tasks.get? t with
  | none =>
    rw [ClusterState.outcome, ClusterState.outcome, h.absent t ht, ht]
    rfl
  | some x =>
    obtain ⟨x', hx', hreq, -⟩ := h.present t x ht
    have hfit := firstFit_congr h.nodes x.requires
    simp only [ClusterState.outcome, placedOn, hx', ht, Option.map_some, hreq, hfit]

theorem recoveryEvents_retried : (s.retried now t).recoveryEvents = s.recoveryEvents :=
  (sameButTasks_schedulePending (s := s.unassignTask now t)).recoveryEvents

/-- A turn of the loop logs the outcome of its task, and counts it if it is a new node. -/
theorem rescheduleOne_log (now : Time) (acc : Nat × ClusterState) (t : TaskId) :
    (Rescheduler.rescheduleOne now acc t).2.recoveryEvents =
      acc.2.recoveryEvents ++ (acc.2.outcome now t).toList ∧
    (Rescheduler.rescheduleOne now acc t).1 =
      acc.1 + countAction "reschedule" (acc.2.outcome now t).toList := by
  cases ht : acc.2.tasks.get? t with
  | none => simp [Rescheduler.rescheduleOne, getTask, ht, outcome, countAction]
  | some x =>
    have hkeep : ((acc.2.unassignTask now t).schedulePending now).2.recoveryEvents =
        acc.2.recoveryEvents := recoveryEvents_retried
    have hgot : Rescheduler.gotAssigned ((acc.2.unassignTask now t).schedulePending now).2 t =
        acc.2.placedOn x.requires := gotAssigned_retried now ht
    rw [outcome, ht, Option.map_some, Rescheduler.rescheduleOne, getTask, ht]
    dsimp only
    rw [hgot]
    cases hplaced : acc.2.placedOn x.requires with
    | none =>
      rw [ite_self]
      refine ⟨?_, rfl⟩
      show ((acc.2.unassignTask now t).schedulePending now).2.recoveryEvents ++ _ = _
      rw [hkeep]
      rfl
    | some nodeId =>
      obtain ⟨node, hf, -⟩ : ∃ node, acc.2.firstFit x.requires = some node ∧ node.id = nodeId := by
        rw [placedOn, Option.filter_eq_some_iff, Option.map_eq_some_iff] at hplaced
        exact hplaced.1
      rw [if_pos (schedulePending_unassign_pos now ht hf)]
      refine ⟨?_, rfl⟩
      show ((acc.2.unassignTask now t).schedulePending now).2.recoveryEvents ++ _ = _
      rw [hkeep]
      rfl

theorem foldl_rescheduleOne_log (now : Time) (l : List TaskId) (acc : Nat × ClusterState) :
    (l.foldl (Rescheduler.rescheduleOne now) acc).2.recoveryEvents =
      acc.2.recoveryEvents ++ l.filterMap (acc.2.outcome now) ∧
    (l.foldl (Rescheduler.rescheduleOne now) acc).1 =
      acc.1 + countAction "reschedule" (l.filterMap (acc.2.outcome now)) := by
  induction l generalizing acc with
  | nil => simp [countAction]
  | cons t l ih =>
    obtain ⟨hlog, hcount⟩ := rescheduleOne_log now acc t
    have hsame : (Rescheduler.rescheduleOne now acc t).2.outcome now = acc.2.outcome now :=
      funext fun k => (rescheduled_rescheduleOne now acc t).outcome k
    have hcons : (t :: l).filterMap (acc.2.outcome now) =
        (acc.2.outcome now t).toList ++ l.filterMap (acc.2.outcome now) := by
      cases h : acc.2.outcome now t with
      | none => rw [List.filterMap_cons_none h]; rfl
      | some e => rw [List.filterMap_cons_some h]; rfl
    obtain ⟨hlog', hcount'⟩ := ih (Rescheduler.rescheduleOne now acc t)
    rw [hsame] at hlog' hcount'
    rw [List.foldl_cons, hlog', hcount', hlog, hcount, hcons, countAction_append]
    refine ⟨List.append_assoc .., Nat.add_assoc ..⟩

/-- **`reschedule_orphaned`** logs the outcome of every task of its list that exists, and
returns how many of them got a node. -/
theorem rescheduleOrphaned_log (s : ClusterState) (now : Time) (l : List TaskId) :
    (Rescheduler.rescheduleOrphaned s now l).2.recoveryEvents =
      s.recoveryEvents ++ l.filterMap (s.outcome now) ∧
    (Rescheduler.rescheduleOrphaned s now l).1 =
      countAction "reschedule" (l.filterMap (s.outcome now)) := by
  obtain ⟨hlog, hcount⟩ := foldl_rescheduleOne_log now l (0, s)
  exact ⟨hlog, hcount.trans (Nat.zero_add _)⟩

/-- Every entry of the list got a node exactly when every task of it has an event that says
so: a task that is listed twice fares the same both times. -/
theorem countAction_outcome_iff (s : ClusterState) (now : Time) (l : List TaskId) :
    countAction "reschedule" (l.filterMap (s.outcome now)) = l.length ↔
      ∀ t ∈ l, ∃ e ∈ l.filterMap (s.outcome now), e.action = "reschedule" ∧ e.taskId = t := by
  rw [countAction, List.countP_filterMap, List.countP_eq_length]
  refine forall₂_congr fun t ht => ⟨?_, ?_⟩
  · intro h
    cases he : s.outcome now t with
    | none =>
      rw [he] at h
      cases h
    | some e =>
      rw [he] at h
      exact ⟨e, List.mem_filterMap.mpr ⟨t, ht, he⟩, by simpa using h, (outcome_action he).1⟩
  · rintro ⟨e, he, hact, hid⟩
    obtain ⟨t', -, he'⟩ := List.mem_filterMap.mp he
    obtain rfl : t' = t := (outcome_action he').1.symm.trans hid
    simp [he', hact]

end ClusterState

/-! ### `RecoveryManager` -/

/-- What one call of `trigger_recovery` logs. -/
structure Block where
  revoked : List RecoveryEvent
  settled : List RecoveryEvent
  full : RecoveryEvent

namespace Block

def events (b : Block) : List RecoveryEvent := b.revoked ++ b.settled ++ [b.full]

/-- The block ends in a `full_recovery` event, marked completed exactly when all the tasks
revoked before it were rescheduled. -/
structure Balanced (b : Block) : Prop where
  revoked : ∀ e ∈ b.revoked, e.action = "revoke_lease"
  settled : ∀ e ∈ b.settled, e.action = "reschedule" ∨ e.action = "mark_failed"
  full : b.full.action = "full_recovery"
  completed : b.full.status = "completed" ↔
    ∀ e ∈ b.revoked, ∃ e' ∈ b.settled, e'.action = "reschedule" ∧ e'.taskId = e.taskId

variable {b : Block}

theorem countAction_events (b : Block) (action : String) :
    countAction action b.events = countAction action b.revoked + countAction action b.settled +
      countAction action [b.full] := by
  rw [events, countAction_append, countAction_append]

theorem Balanced.countAction_full (h : b.Balanced) : countAction "full_recovery" b.events = 1 := by
  have hrevoked : countAction "full_recovery" b.revoked = 0 :=
    countAction_eq_zero fun e he => by rw [h.revoked e he]; decide
  have hsettled : countAction "full_recovery" b.settled = 0 :=
    countAction_eq_zero fun e he => by rcases h.settled e he with ha | ha <;> rw [ha] <;> decide
  have hfull : countAction "full_recovery" [b.full] = 1 :=
    countAction_eq_length fun e he => by rw [List.mem_singleton.mp he]; exact h.full
  rw [countAction_events]
  omega

theorem Balanced.countAction_revoke (h : b.Balanced) :
    countAction "revoke_lease" b.events = b.revoked.length := by
  have hrevoked : countAction "revoke_lease" b.revoked = b.revoked.length :=
    countAction_eq_length h.revoked
  have hsettled : countAction "revoke_lease" b.settled = 0 :=
    countAction_eq_zero fun e he => by rcases h.settled e he with ha | ha <;> rw [ha] <;> decide
  have hfull : countAction "revoke_lease" [b.full] = 0 :=
    countAction_eq_zero fun e he => by rw [List.mem_singleton.mp he, h.full]; decide
  rw [countAction_events]
  omega

theorem Balanced.countAction_reschedule (h : b.Balanced) :
    countAction "reschedule" b.events = countAction "reschedule" b.settled := by
  have hrevoked : countAction "reschedule" b.revoked = 0 :=
    countAction_eq_zero fun e he => by rw [h.revoked e he]; decide
  have hfull : countAction "reschedule" [b.full] = 0 :=
    countAction_eq_zero fun e he => by rw [List.mem_singleton.mp he, h.full]; decide
  rw [countAction_events]
  omega

end Block

/-- The counters of the manager are those of the log, which is a sequence of blocks. -/
structure Accounted (m : RecoveryManager) (s : ClusterState) : Prop where
  triggers : m.totalRecoveries = countAction "full_recovery" s.recoveryEvents
  revoked : m.totalRevoked = countAction "revoke_lease" s.recoveryEvents
  rescheduled : m.totalRescheduled = countAction "reschedule" s.recoveryEvents
  blocks : ∃ blocks : List Block,
    s.recoveryEvents = blocks.flatMap Block.events ∧ ∀ b ∈ blocks, b.Balanced

namespace RecoveryManager

def fullRecoveryEvent (now : Time) (n : NodeId) (status message : String) : RecoveryEvent :=
  { nodeId := n, action := "full_recovery", status := status, timestamp := now,
    message := some message }

/-- Rescheduling an empty list is no case of its own, but for the message. -/
theorem triggerRecovery_eq (m : RecoveryManager) (s : ClusterState) (now : Time) (n : NodeId)
    (ids : List TaskId) (state : ClusterState)
    (hrevoke : Revoker.revokeAllForNode s now n = (ids, state)) :
    ∃ status message, (m.triggerRecovery s now n).2 =
      (⟨m.totalRecoveries + 1, m.totalRevoked + ids.length,
          m.totalRescheduled + (Rescheduler.rescheduleOrphaned state now ids).1⟩,
        (Rescheduler.rescheduleOrphaned state now ids).2.appendRecoveryEvent now
          (fullRecoveryEvent now n status message)) ∧
      (status = "completed" ↔ (Rescheduler.rescheduleOrphaned state now ids).1 = ids.length) := by
  rw [triggerRecovery, hrevoke]
  dsimp only
  by_cases hnil : ids = []
  · subst hnil
    exact ⟨_, _, rfl, iff_of_true rfl rfl⟩
  · simp only [hnil, ne_eq, not_false_eq_true, if_true]
    refine ⟨_, _, rfl, ?_⟩
    split
    · rename_i h
      exact iff_of_true rfl h
    · rename_i h
      exact iff_of_false (by decide) h

/-- **`trigger_recovery`** logs one balanced block, and counts what it logs. -/
theorem triggerRecovery_log (m : RecoveryManager) (s : ClusterState) (now : Time) (n : NodeId) :
    ∃ b : Block, b.Balanced ∧
      (m.triggerRecovery s now n).2.2.recoveryEvents = s.recoveryEvents ++ b.events ∧
      (m.triggerRecovery s now n).2.1 =
        ⟨m.totalRecoveries + 1, m.totalRevoked + b.revoked.length,
          m.totalRescheduled + countAction "reschedule" b.settled⟩ := by
  obtain ⟨revoked, hlog, hids, hrevoked⟩ := revokeAllForNode_log s now n
  obtain ⟨state, hstate⟩ : ∃ state, (Revoker.revokeAllForNode s now n).2 = state := ⟨_, rfl⟩
  obtain ⟨hlog', hcount⟩ := rescheduleOrphaned_log state now (revoked.map RecoveryEvent.taskId)
  obtain ⟨status, message, hcall, hstatus⟩ :=
    triggerRecovery_eq m s now n _ state (Prod.ext hids hstate)
  rw [hcount] at hcall hstatus
  refine ⟨⟨revoked, (revoked.map RecoveryEvent.taskId).filterMap (state.outcome now),
    fullRecoveryEvent now n status message⟩, ⟨hrevoked, ?_, rfl, ?_⟩, ?_, ?_⟩
  · intro e he
    obtain ⟨t, -, ht⟩ := List.mem_filterMap.mp he
    exact (outcome_action ht).2
  · refine hstatus.trans ((countAction_outcome_iff state now _).trans ?_)
    rw [List.forall_mem_map]
  · rw [hcall]
    show (Rescheduler.rescheduleOrphaned state now _).2.recoveryEvents ++ [_] = _
    rw [hlog', ← hstate, hlog, Block.events, List.append_assoc, List.append_assoc,
      List.append_assoc]
    rfl
  · rw [hcall, List.length_map]

theorem accounted_triggerRecovery {m : RecoveryManager} {s : ClusterState} (h : Accounted m s)
    (now : Time) (n : NodeId) :
    Accounted (m.triggerRecovery s now n).2.1 (m.triggerRecovery s now n).2.2 := by
  obtain ⟨b, hb, hlog, hm⟩ := triggerRecovery_log m s now n
  obtain ⟨blocks, hblocks, hall⟩ := h.blocks
  rw [hm]
  refine ⟨?_, ?_, ?_, blocks ++ [b], ?_, ?_⟩
  · rw [hlog, countAction_append, hb.countAction_full, ← h.triggers]
  · rw [hlog, countAction_append, hb.countAction_revoke, ← h.revoked]
  · rw [hlog, countAction_append, hb.countAction_reschedule, ← h.rescheduled]
  · rw [hlog, hblocks, List.flatMap_append, List.flatMap_singleton]
  · intro b' hb'
    rcases List.mem_append.mp hb' with hold | hnew
    · exact hall b' hold
    · exact List.mem_singleton.mp hnew ▸ hb

/-- Only the log of the store counts. -/
theorem Accounted.of_log_eq {m : RecoveryManager} {s s' : ClusterState} (h : Accounted m s)
    (heq : s'.recoveryEvents = s.recoveryEvents) : Accounted m s' := by
  obtain ⟨hfull, hrevoked, hrescheduled, hblocks⟩ := h
  rw [← heq] at hfull hrevoked hrescheduled hblocks
  exact ⟨hfull, hrevoked, hrescheduled, hblocks⟩

theorem accounted_detectExpiredLeases {m : RecoveryManager} {s : ClusterState}
    (h : Accounted m s) (order : SetOrder) (now : Time) :
    Accounted (m.detectExpiredLeases order s now).2.1 (m.detectExpiredLeases order s now).2.2 := by
  have hscan : Accounted m (s.getActiveLeases now).2 := Accounted.of_log_eq h rfl
  exact List.foldlRecOn
    (motive := fun acc : RecoveryManager × ClusterState => Accounted acc.1 acc.2) _
    (recoverOne now) hscan fun acc hacc n _ => accounted_triggerRecovery hacc now n

end RecoveryManager

/-! ### Runs -/

/-- An operation on the store that does not write the recovery log. -/
structure LogFree where
  run : ClusterState → ClusterState
  log : ∀ s, (run s).recoveryEvents = s.recoveryEvents

inductive RecoveryCall
  | triggerRecovery (now : Time) (nodeId : NodeId)
  | detectExpiredLeases (now : Time) (order : SetOrder)
  | other (op : LogFree)

/-- A manager and its store. -/
structure Recovering where
  manager : RecoveryManager := {}
  state : ClusterState

namespace Recovering

def step (w : Recovering) : RecoveryCall → Recovering
  | .triggerRecovery now nodeId =>
    let (_, manager, state) := w.manager.triggerRecovery w.state now nodeId
    ⟨manager, state⟩
  | .detectExpiredLeases now order =>
    let (_, manager, state) := w.manager.detectExpiredLeases order w.state now
    ⟨manager, state⟩
  | .other op => { w with state := op.run w.state }

theorem accounted_step {w : Recovering} (h : Accounted w.manager w.state) (call : RecoveryCall) :
    Accounted (w.step call).manager (w.step call).state := by
  cases call with
  | triggerRecovery now n => exact RecoveryManager.accounted_triggerRecovery h now n
  | detectExpiredLeases now order =>
    exact RecoveryManager.accounted_detectExpiredLeases h order now
  | other op => exact RecoveryManager.Accounted.of_log_eq h (op.log w.state)

theorem accounted_run (s : ClusterState) (run : List RecoveryCall) :
    let w := exec step { state := { s with recoveryEvents := [] } } run
    Accounted w.manager w.state := by
  refine List.foldlRecOn (motive := fun w => Accounted w.manager w.state) run step ?_
    fun w h call _ => accounted_step h call
  exact ⟨rfl, rfl, rfl, [], rfl, fun b hb => absurd hb List.not_mem_nil⟩

/-- **The counters match the log.**  From any store with an empty log, after any run of
recoveries and of operations that leave the log alone: the three counters are the numbers
of their events, `total` is the sum of `by_action`, and the log is made of blocks, one a
recovery, whose last event is marked completed exactly when all the tasks revoked in the
block were rescheduled. -/
theorem counters_match_log (s : ClusterState) (run : List RecoveryCall) :
    let w := exec step { state := { s with recoveryEvents := [] } } run
    let stats := w.manager.getRecoveryStats w.state
    stats.totalTriggers = countAction "full_recovery" w.state.recoveryEvents ∧
    stats.totalRevoked = countAction "revoke_lease" w.state.recoveryEvents ∧
    stats.totalRescheduled = countAction "reschedule" w.state.recoveryEvents ∧
    stats.total = (stats.byAction.rows.map ActionCount.count).sum ∧
    ∃ blocks : List Block, w.state.recoveryEvents = blocks.flatMap Block.events ∧
      ∀ b ∈ blocks, b.Balanced := by
  have h := accounted_run s run
  exact ⟨h.triggers, h.revoked, h.rescheduled, recoveryStats_total _, h.blocks⟩

end Recovering

end HermesCluster
