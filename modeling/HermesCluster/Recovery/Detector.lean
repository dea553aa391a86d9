import HermesCluster.Lib.Run
import HermesCluster.Recovery.Recovered

/-!
# The detector and its queue

`Detector` of `hermes_cluster/recovery/detector.py`, and the recovery manager with the
wiring of `create_app`: a lease that runs out calls `trigger_recovery_async` for its node,
whoever finds it.  `trigger_recovery_async` puts the node into the detector's queue and
returns; the loop that empties the queue is started by `Detector.start` alone, which
neither `RecoveryManager` nor `create_app` calls.

* `notLost_iff`: nothing is lost along a run exactly when each notification finds the
  detector running and its queue with room.
* `createApp_notLost_iff`: in the application, exactly when nothing is ever notified.

The time stamp of an event, which nothing reads, is left out, and so is `stop`, which
nothing calls.
-/

namespace HermesCluster

open ClusterState Run

structure Detector where
  running : Bool := false
  eventQueue : List NodeId := []
deriving DecidableEq, Repr

namespace Detector

/-- `maxsize` of the queue. -/
def capacity : Nat := 100

def start (d : Detector) : Detector := { d with running := true }

/-- `notify_offline`: an event that finds the queue full is dropped. -/
def notifyOffline (d : Detector) (nodeId : NodeId) : Detector :=
  if d.eventQueue.length < capacity then { d with eventQueue := d.eventQueue ++ [nodeId] }
  else d

/-- The event `_loop` takes next; there is no loop before `start`. -/
def take (d : Detector) : Option (NodeId × Detector) :=
  if d.running then
    match d.eventQueue with
    | [] => none
    | nodeId :: rest => some (nodeId, { d with eventQueue := rest })
  else none

/-- `_handle_offline` -/
def handleOffline (s : ClusterState) (now : Time) (nodeId : NodeId) : ClusterState :=
  let (revokedTaskIds, state) := Revoker.revokeAllForNode s now nodeId
  let revoked := revokedTaskIds.length
  let (status, message, state) :=
    if revokedTaskIds ≠ [] then
      let (rescheduled, state) := Rescheduler.rescheduleOrphaned state now revokedTaskIds
      (if rescheduled = revoked then "completed" else "partial",
        "Revoked " ++ toString revoked ++ " leases, rescheduled " ++ toString rescheduled ++
          "/" ++ toString revoked ++ " tasks", state)
    else ("completed", "No active leases to revoke", state)
  state.appendRecoveryEvent now
    { nodeId := nodeId, action := "full_recovery", status := status, timestamp := now,
      message := some message }

/-- The detector does to the store what `trigger_recovery` does. -/
theorem handleOffline_eq (m : RecoveryManager) (s : ClusterState) (now : Time) (n : NodeId) :
    handleOffline s now n = (m.triggerRecovery s now n).2.2 := by
  rw [handleOffline, RecoveryManager.triggerRecovery]
  by_cases h : (Revoker.revokeAllForNode s now n).1 = []
  · simp only [h, ne_eq, not_true, if_false]
  · simp only [h, ne_eq, not_false_eq_true, if_true]

/-- Of several notifications the queue keeps the first ones it has room for. -/
theorem eventQueue_foldl (ids : List NodeId) (d : Detector) :
    (ids.foldl notifyOffline d).eventQueue =
      d.eventQueue ++ ids.take (capacity - d.eventQueue.length) := by
  induction ids generalizing d with
  | nil => rw [List.take_nil, List.append_nil]; rfl
  | cons n ids ih =>
    rw [List.foldl_cons, ih, notifyOffline]
    by_cases h : d.eventQueue.length < capacity
    · have hroom : capacity - d.eventQueue.length =
          capacity - (d.eventQueue ++ [n]).length + 1 := by
        rw [List.length_append]
        show _ = capacity - (d.eventQueue.length + 1) + 1
        omega
      rw [if_pos h, hroom, List.take_succ_cons, List.append_assoc]
      rfl
    · have hfull : capacity - d.eventQueue.length = 0 := by omega
      rw [if_neg h, hfull]
      rfl

theorem running_foldl (ids : List NodeId) (d : Detector) :
    (ids.foldl notifyOffline d).running = d.running := by
  induction ids generalizing d with
  | nil => rfl
  | cons n ids ih =>
    rw [List.foldl_cons, ih, notifyOffline]
    split <;> rfl

end Detector

/-! ### The calls of the lease callback -/

namespace ClusterState

variable {s s' : ClusterState} {now : Time}

/-- The calls a scan makes: one for each active lease that has run out. -/
def lapsedCalls (s : ClusterState) (now : Time) : List (TaskId × NodeId) :=
  (s.leases.rows.filter (·.lapsed now)).map (fun l => (l.taskId, l.nodeId))

theorem lapsedCalls_eq_nil : s.lapsedCalls now = [] ↔ ∀ l ∈ s.leases.rows, ¬ l.lapsed now := by
  rw [lapsedCalls, List.map_eq_nil_iff, List.filter_eq_nil_iff]

theorem calls_foldl_revokeOne (n : NodeId) (l : List Lease) (acc : List TaskId × ClusterState) :
    (l.foldl (Revoker.revokeOne now n) acc).2.leaseCallbackCalls = acc.2.leaseCallbackCalls := by
  refine List.foldlRecOn (motive := fun r : List TaskId × ClusterState =>
    r.2.leaseCallbackCalls = acc.2.leaseCallbackCalls) l _ rfl fun r h a _ => Eq.trans ?_ h
  rw [Revoker.revokeOne, revokeLease]
  by_cases hn : a.nodeId = n
  · rw [if_pos hn]
    cases r.2.leases.get? a.id <;> rfl
  · rw [if_neg hn]

/-- A recovery calls back for the leases that have run out, all found by its scan. -/
theorem calls_triggerRecovery (m : RecoveryManager) (s : ClusterState) (now : Time)
    (n : NodeId) : (m.triggerRecovery s now n).2.2.leaseCallbackCalls =
      s.leaseCallbackCalls ++ s.lapsedCalls now := by
  have hrevoke : (Revoker.revokeAllForNode s now n).2.leaseCallbackCalls =
      s.leaseCallbackCalls ++ s.lapsedCalls now :=
    calls_foldl_revokeOne n (s.leases.rows.filter (·.live now)) ([], (s.getActiveLeases now).2)
  rw [RecoveryManager.triggerRecovery]
  by_cases h : (Revoker.revokeAllForNode s now n).1 = []
  · simp only [h, ne_eq, not_true, if_false]
    exact hrevoke
  · simp only [h, ne_eq, not_false_eq_true, if_true]
    exact (sameLeases_rescheduleOrphaned now _ (0, _)).leaseCallbackCalls.trans hrevoke

theorem Recovered.lapsedCalls {N : NodeId → Prop} [DecidablePred N] (h : Recovered now N s s') :
    s'.lapsedCalls now = [] := by
  rw [lapsedCalls_eq_nil]
  intro l' hl' hlap
  rw [Table.mem_rows_iff, h.leases, Option.map_eq_some_iff] at hl'
  obtain ⟨l, -, rfl⟩ := hl'
  rw [Lease.lapsed_iff, recoveredLease] at hlap
  split at hlap
  · cases hlap.1
  · -- what a scan leaves active has not run out
    have hlive := Lease.aged_status_active.mp hlap.1
    rw [← Lease.live_aged, Lease.live_iff] at hlive
    exact absurd hlap.2 (not_le.mpr hlive.2)

/-- The recoveries after the scan of `detect_expired_leases` call back for nothing more. -/
theorem calls_foldl_recoverOne (l : List NodeId) (acc : RecoveryManager × ClusterState)
    (h : acc.2.lapsedCalls now = []) :
    (l.foldl (RecoveryManager.recoverOne now) acc).2.leaseCallbackCalls =
      acc.2.leaseCallbackCalls := by
  induction l generalizing acc with
  | nil => rfl
  | cons n l ih =>
    have hone : (RecoveryManager.recoverOne now acc n).2.leaseCallbackCalls =
        acc.2.leaseCallbackCalls := by
      refine (calls_triggerRecovery acc.1 acc.2 now n).trans ?_
      rw [h, List.append_nil]
    have hnone : (RecoveryManager.recoverOne now acc n).2.lapsedCalls now = [] :=
      (recovered_triggerRecovery acc.1 acc.2 now n).lapsedCalls
    rw [List.foldl_cons, ih _ hnone, hone]

theorem calls_detectExpiredLeases (order : SetOrder) (m : RecoveryManager) (s : ClusterState)
    (now : Time) : (m.detectExpiredLeases order s now).2.2.leaseCallbackCalls =
      s.leaseCallbackCalls ++ s.lapsedCalls now :=
  calls_foldl_recoverOne _ (m, (s.getActiveLeases now).2)
    (recovered_getActiveLeases s now).lapsedCalls

end ClusterState

/-! ### The recovery manager of the application -/

/-- The recovery manager over its store.  The history variables `notified` and `handled`
hold the nodes passed to `trigger_recovery_async` and those the detector took, oldest
first. -/
structure RecoveryService where
  state : ClusterState
  recovery : RecoveryManager := {}
  detector : Detector := {}
  autoRecoveryEnabled : Bool := false
  notified : List NodeId := []
  handled : List NodeId := []

inductive RecoveryOp
  | triggerRecoveryAsync (nodeId : NodeId)
  /-- A pass of `_auto_recovery_loop`. -/
  | autoRecovery (now : Time) (order : SetOrder)
  /-- The detector's loop takes an event and handles it. -/
  | consume (now : Time)

namespace RecoveryService

def triggerRecoveryAsync (r : RecoveryService) (nodeId : NodeId) : RecoveryService :=
  { r with detector := r.detector.notifyOffline nodeId, notified := r.notified ++ [nodeId] }

def startAutoRecovery (r : RecoveryService) : RecoveryService :=
  { r with autoRecoveryEnabled := true }

/-- The store after a call, and `_on_lease_expired` for every call of the lease callback
it made. -/
def withState (r : RecoveryService) (state : ClusterState) : RecoveryService :=
  let calls := state.leaseCallbackCalls.drop r.state.leaseCallbackCalls.length
  calls.foldl (fun r call => r.triggerRecoveryAsync call.2) { r with state := state }

def step (r : RecoveryService) : RecoveryOp → RecoveryService
  | .triggerRecoveryAsync nodeId => r.triggerRecoveryAsync nodeId
  | .autoRecovery now order =>
    if r.autoRecoveryEnabled then
      let (_, recovery, state) := r.recovery.detectExpiredLeases order r.state now
      { r with recovery := recovery }.withState state
    else r
  | .consume now =>
    match r.detector.take with
    | none => r
    | some (nodeId, detector) =>
      { r with detector := detector, handled := r.handled ++ [nodeId] }.withState
        (Detector.handleOffline r.state now nodeId)

/-- A manager with auto-recovery on, whose detector was started or not. -/
def create (state : ClusterState) (started : Bool) : RecoveryService :=
  startAutoRecovery
    { state := state, detector := if started then ({} : Detector).start else {} }

/-- What `create_app` does: construct the manager and call `start_auto_recovery`. -/
def createApp (state : ClusterState) : RecoveryService := create state false

/-- Every node notified was handled or is in the queue, and the queue of a detector that
is not running is empty. -/
structure NotLost (r : RecoveryService) : Prop where
  perm : r.notified.Perm (r.handled ++ r.detector.eventQueue)
  running : r.detector.eventQueue ≠ [] → r.detector.running = true

/-! ### A step, as what it takes and what it notifies -/

def notifyAll (r : RecoveryService) (ids : List NodeId) : RecoveryService :=
  { r with detector := ids.foldl Detector.notifyOffline r.detector, notified := r.notified ++ ids }

/-- The nodes a step notifies: the argument, or the nodes whose leases its scan finds to
have run out. -/
def notifies (r : RecoveryService) : RecoveryOp → List NodeId
  | .triggerRecoveryAsync nodeId => [nodeId]
  | .autoRecovery now _ =>
    if r.autoRecoveryEnabled then (r.state.lapsedCalls now).map Prod.snd else []
  | .consume now =>
    if r.detector.take.isSome then (r.state.lapsedCalls now).map Prod.snd else []

/-- The manager before the notifications of a step. -/
def beforeNotifying (r : RecoveryService) : RecoveryOp → RecoveryService
  | .triggerRecoveryAsync _ => r
  | .autoRecovery now order =>
    if r.autoRecoveryEnabled then
      let (_, recovery, state) := r.recovery.detectExpiredLeases order r.state now
      { r with recovery := recovery, state := state }
    else r
  | .consume now =>
    match r.detector.take with
    | none => r
    | some (nodeId, detector) =>
      { r with detector := detector, handled := r.handled ++ [nodeId],
               state := Detector.handleOffline r.state now nodeId }

variable {r : RecoveryService}

theorem foldl_triggerRecoveryAsync (calls : List (TaskId × NodeId)) (r : RecoveryService) :
    calls.foldl (fun r call => r.triggerRecoveryAsync call.2) r =
      r.notifyAll (calls.map Prod.snd) := by
  induction calls generalizing r with
  | nil =>
    rw [List.map_nil, notifyAll, List.append_nil]
    rfl
  | cons call calls ih =>
    rw [List.foldl_cons, ih, List.map_cons, notifyAll, triggerRecoveryAsync, notifyAll,
      List.append_assoc]
    rfl

theorem withState_eq {state : ClusterState} {calls : List (TaskId × NodeId)}
    (h : state.leaseCallbackCalls = r.state.leaseCallbackCalls ++ calls) :
    r.withState state = { r with state := state }.notifyAll (calls.map Prod.snd) := by
  rw [withState, foldl_triggerRecoveryAsync, h, List.drop_left]

theorem step_eq (r : RecoveryService) (op : RecoveryOp) :
    r.step op = (r.beforeNotifying op).notifyAll (r.notifies op) := by
  have hnone : r.notifyAll [] = r := by
    rw [notifyAll, List.append_nil]
    rfl
  cases op with
  | triggerRecoveryAsync nodeId => rfl
  | autoRecovery now order =>
    rw [step, notifies, beforeNotifying]
    by_cases h : r.autoRecoveryEnabled = true
    · rw [if_pos h, if_pos h, if_pos h]
      exact withState_eq (calls_detectExpiredLeases order r.recovery r.state now)
    · rw [if_neg h, if_neg h, if_neg h, hnone]
  | consume now =>
    rw [step, notifies, beforeNotifying]
    cases h : r.detector.take with
    | none => exact hnone.symm
    | some e =>
      refine withState_eq ?_
      rw [Detector.handleOffline_eq r.recovery]
      exact calls_triggerRecovery r.recovery r.state now e.1

theorem take_eq_some {d d' : Detector} {n : NodeId} (h : d.take = some (n, d')) :
    d.running = true ∧ d.eventQueue = n :: d'.eventQueue ∧ d'.running = true := by
  rw [Detector.take] at h
  by_cases hr : d.running = true
  · rw [if_pos hr] at h
    split at h
    · cases h
    next hq =>
      cases h
      exact ⟨hr, hq, hr⟩
  · rw [if_neg hr] at h
    cases h

/-- Handling an event loses nothing. -/
theorem NotLost.beforeNotifying (h : NotLost r) (op : RecoveryOp) :
    NotLost (r.beforeNotifying op) := by
  cases op with
  | triggerRecoveryAsync nodeId => exact h
  | autoRecovery now order =>
    rw [RecoveryService.beforeNotifying]
    split
    · exact ⟨h.perm, h.running⟩
    · exact h
  | consume now =>
    rw [RecoveryService.beforeNotifying]
    cases ht : r.detector.take with
    | none => exact h
    | some e =>
      obtain ⟨-, hqueue, hrunning⟩ := take_eq_some ht
      refine ⟨?_, fun _ => hrunning⟩
      show r.notified.Perm (r.handled ++ [e.1] ++ e.2.eventQueue)
      rw [List.append_assoc, List.singleton_append, ← hqueue]
      exact h.perm

/-- Notifications are kept exactly when there are none, or the detector is running and its
queue has room for all. -/
theorem notLost_notifyAll_iff (h : NotLost r) (ids : List NodeId) :
    NotLost (r.notifyAll ids) ↔ ids = [] ∨ (r.detector.running = true ∧
      r.detector.eventQueue.length + ids.length ≤ Detector.capacity) := by
  have hqueue : (r.notifyAll ids).detector.eventQueue = r.detector.eventQueue ++
      ids.take (Detector.capacity - r.detector.eventQueue.length) :=
    Detector.eventQueue_foldl ids r.detector
  have hrunning : (r.notifyAll ids).detector.running = r.detector.running :=
    Detector.running_foldl ids r.detector
  have hbefore := h.perm.length_eq
  rw [List.length_append] at hbefore
  refine ⟨?_, ?_⟩
  · intro hafter
    by_cases hids : ids = []
    · exact Or.inl hids
    · have hpos := List.length_pos_iff.mpr hids
      have hlen := hafter.perm.length_eq
      rw [hqueue] at hlen
      have hnotified : (r.notifyAll ids).notified = r.notified ++ ids := rfl
      have hhandled : (r.notifyAll ids).handled = r.handled := rfl
      rw [hnotified, hhandled, List.length_append, List.length_append, List.length_append,
        List.length_take] at hlen
      refine Or.inr ⟨?_, by omega⟩
      rw [← hrunning]
      refine hafter.running fun hempty => ?_
      rw [hqueue, List.append_eq_nil_iff, List.take_eq_nil_iff] at hempty
      rcases hempty.2 with hzero | hnil
      · omega
      · exact hids hnil
  · intro hroom
    have hall : ids.take (Detector.capacity - r.detector.eventQueue.length) = ids := by
      rw [List.take_eq_self_iff]
      rcases hroom with rfl | ⟨-, hle⟩
      · exact Nat.zero_le _
      · omega
    refine ⟨?_, ?_⟩
    · rw [hqueue, hall]
      show (r.notified ++ ids).Perm (r.handled ++ (r.detector.eventQueue ++ ids))
      rw [← List.append_assoc]
      exact h.perm.append_right ids
    · intro hne
      rw [hrunning]
      rcases hroom with rfl | ⟨hr, -⟩
      · exact h.running hne
      · exact hr

/-! ### Runs -/

/-- The events that wait while a step notifies. -/
def waiting (r : RecoveryService) : RecoveryOp → Nat
  | .consume _ => r.detector.eventQueue.length - 1
  | _ => r.detector.eventQueue.length

/-- The step notifies no node, or the detector is running and its queue has room for all
the nodes it notifies. -/
def HasRoom (r : RecoveryService) (op : RecoveryOp) : Prop :=
  r.notifies op = [] ∨
    (r.detector.running = true ∧ r.waiting op + (r.notifies op).length ≤ Detector.capacity)

/-- The step is no call of `trigger_recovery_async` and finds no lease that has run out. -/
def Silent (r : RecoveryService) : RecoveryOp → Prop
  | .triggerRecoveryAsync _ => False
  | .autoRecovery now _ => ∀ l ∈ r.state.leases.rows, ¬ l.lapsed now
  | .consume _ => True

theorem notLost_step_iff (h : NotLost r) (op : RecoveryOp) :
    NotLost (r.step op) ↔ HasRoom r op := by
  rw [step_eq, notLost_notifyAll_iff (h.beforeNotifying op), HasRoom]
  cases op with
  | triggerRecoveryAsync nodeId => exact Iff.rfl
  | autoRecovery now order =>
    have hdetector : (r.beforeNotifying (.autoRecovery now order)).detector = r.detector := by
      rw [beforeNotifying]
      split <;> rfl
    rw [hdetector]
    exact Iff.rfl
  | consume now =>
    rw [beforeNotifying, notifies]
    cases ht : r.detector.take with
    | none => exact iff_of_true (Or.inl rfl) (Or.inl rfl)
    | some e =>
      obtain ⟨hr, hqueue, hr'⟩ := take_eq_some ht
      have hwaiting : r.waiting (.consume now) = e.2.eventQueue.length := by
        rw [waiting, hqueue]
        rfl
      rw [hwaiting]
      show _ ∨ (e.2.running = true ∧ _) ↔ _ ∨ (r.detector.running = true ∧ _)
      rw [hr, hr']

theorem notLost_create (state : ClusterState) (started : Bool) :
    NotLost (create state started) := by
  have hempty : (create state started).detector.eventQueue = [] := by cases started <;> rfl
  refine ⟨?_, fun hne => absurd hempty hne⟩
  rw [hempty]
  exact List.Perm.refl _

/-- **Nothing is lost** along a run exactly when each notification finds the detector
running and its queue with room. -/
theorem notLost_iff (state : ClusterState) (started : Bool) (run : List RecoveryOp) :
    Always step NotLost (create state started) run ↔
      EachStep step HasRoom (create state started) run := by
  refine always_iff_eachStep (I := NotLost) (A := fun _ _ => True) (fun _ h => h) ?_ ?_ run _
    (notLost_create state started) (fun _ _ _ => trivial)
  · intro r op h _
    exact notLost_step_iff h op
  · intro r op _ _ hnext
    exact hnext

/-- No step starts the detector or turns auto-recovery off. -/
theorem step_flags (r : RecoveryService) (op : RecoveryOp) :
    (r.step op).detector.running = r.detector.running ∧
      (r.step op).autoRecoveryEnabled = r.autoRecoveryEnabled := by
  rw [step_eq]
  have hrunning : ((r.beforeNotifying op).notifyAll (r.notifies op)).detector.running =
      (r.beforeNotifying op).detector.running := Detector.running_foldl _ _
  rw [hrunning]
  cases op with
  | triggerRecoveryAsync nodeId => exact ⟨rfl, rfl⟩
  | autoRecovery now order =>
    show (r.beforeNotifying _).detector.running = _ ∧ (r.beforeNotifying _).autoRecoveryEnabled = _
    rw [beforeNotifying]
    split
    · exact ⟨rfl, rfl⟩
    · exact ⟨rfl, rfl⟩
  | consume now =>
    show (r.beforeNotifying _).detector.running = _ ∧ (r.beforeNotifying _).autoRecoveryEnabled = _
    rw [beforeNotifying]
    cases ht : r.detector.take with
    | none => exact ⟨rfl, rfl⟩
    | some e =>
      obtain ⟨hr, -, hr'⟩ := take_eq_some ht
      exact ⟨hr'.trans hr.symm, rfl⟩

/-- The flags as `create_app` leaves them. -/
def AppFlags (r : RecoveryService) : Prop :=
  r.detector.running = false ∧ r.autoRecoveryEnabled = true

theorem AppFlags.step (h : AppFlags r) (op : RecoveryOp) : AppFlags (r.step op) := by
  obtain ⟨hrunning, hauto⟩ := step_flags r op
  exact ⟨hrunning.trans h.1, hauto.trans h.2⟩

/-- Without a detector only a silent step has room for what it notifies. -/
theorem hasRoom_iff_silent (h : AppFlags r) (op : RecoveryOp) : HasRoom r op ↔ Silent r op := by
  have hno : ∀ p : Prop, ¬ (r.detector.running = true ∧ p) := by
    intro p hp
    rw [h.1] at hp
    cases hp.1
  rw [HasRoom, or_iff_left (hno _)]
  cases op with
  | triggerRecoveryAsync nodeId => exact iff_of_false (List.cons_ne_nil _ _) id
  | autoRecovery now order =>
    rw [notifies, if_pos h.2, List.map_eq_nil_iff, lapsedCalls_eq_nil]
    exact Iff.rfl
  | consume now =>
    refine iff_of_true ?_ trivial
    have htake : r.detector.take = none := by
      rw [Detector.take, h.1]
      rfl
    rw [notifies, htake]
    rfl

/-- **In the application** nothing is lost along a run exactly when nothing is ever
notified: no call of `trigger_recovery_async`, and no lease that a scan finds run out. -/
theorem createApp_notLost_iff (state : ClusterState) (run : List RecoveryOp) :
    Always step NotLost (createApp state) run ↔ EachStep step Silent (createApp state) run := by
  have hflags : AppFlags (createApp state) := ⟨rfl, rfl⟩
  have hstep : ∀ (r : RecoveryService) (op : RecoveryOp), AppFlags r → AppFlags (r.step op) :=
    fun r op h => h.step op
  rw [createApp, notLost_iff]
  refine ⟨?_, ?_⟩
  · exact eachStep_of_eachStep (I := AppFlags) (fun r op h _ => hstep r op h)
      (fun r op h => (hasRoom_iff_silent h op).mp) run _ hflags
  · exact eachStep_of_eachStep (I := AppFlags) (fun r op h _ => hstep r op h)
      (fun r op h => (hasRoom_iff_silent h op).mpr) run _ hflags

/-- A node goes offline in the application: its event waits for a detector that is not
running. -/
theorem event_never_taken :
    let r := exec step (createApp {}) [.triggerRecoveryAsync "n1", .consume 5]
    r.detector.eventQueue = ["n1"] ∧ r.handled = [] ∧ r.detector.running = false ∧
      ¬ NotLost r := by
  refine ⟨rfl, rfl, rfl, ?_⟩
  intro h
  exact absurd (h.running (by decide)) (by decide)

end RecoveryService

end HermesCluster
