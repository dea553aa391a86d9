import HermesCluster.Hooks.Dispatcher
import HermesCluster.Lib.Run
import HermesCluster.State.Scheduling

/-!
# The hook manager

`HookManager` of `hermes_cluster/hooks/manager.py` on an event loop.  `emit` creates a task for
the delivery to each matching hook.  `_send_request` blocks the loop, so that a task gives way
to others only in the sleep after a failed attempt: one turn of a task is one attempt of
`Dispatcher.deliver`.  When a turn comes and what the endpoint then answers is up to the run.

The JSON text of a payload is an argument of `emit`; a payload that `json.dumps` refuses is left
out, and so is the check of the event types in `register`, which all types pass.

* `delivers`: whatever else happens on the loop, what a task does is what `deliver` does with
  the answers and at the times of stopping it met.
* `all_accounted`: the history is that of the last records, and of all deliveries emitted each
  is in flight or has exactly one record that is not a retry.
-/

namespace HermesCluster

namespace HookManager

/-- A registered subscription. -/
structure Hook where
  id : String
  url : String
  events : List HookEventType
  secret : String := ""
  active : Bool := true
  createdAt : Time
  updatedAt : Time
deriving DecidableEq, Repr

instance : Keyed Hook String := ⟨Hook.id⟩

end HookManager

structure HookManager where
  hooks : Table HookManager.Hook := Table.empty
  deliveries : List DeliveryRecord := []
  maxHistory : Int := 1000

/-- A delivery on the event loop, and the attempt its next turn makes if it has not ended. -/
structure HookTask where
  delivery : Delivery
  next : Option Nat := some 1

namespace HookManager

def register (m : HookManager) (now : Time) (token url : String) (events : List HookEventType)
    (secret : String) : Except PyError Hook × HookManager :=
  if url = "" then (.error (.valueError "url is required"), m)
  else if events = [] then (.error (.valueError "at least one event type is required"), m)
  else
    let hook : Hook :=
      { id := generateId "hook" token, url := url, events := events, secret := secret,
        createdAt := now, updatedAt := now }
    (.ok hook, { m with hooks := m.hooks.put hook })

/-- `deregister`; none if it raises `KeyError`. -/
def deregister (m : HookManager) (hookId : String) : Option HookManager :=
  if (m.hooks.get? hookId).isSome then some { m with hooks := m.hooks.erase hookId } else none

def getHooksForEvent (m : HookManager) (eventType : HookEventType) : List Hook :=
  m.hooks.rows.filter fun hook => hook.active ∧ eventType ∈ hook.events

/-- `emit`: the number it returns, and the tasks it creates. -/
def emit (m : HookManager) (eventType : HookEventType) (body : String) (tokens : Nat → String) :
    Nat × List HookTask :=
  let hooks := m.getHooksForEvent eventType
  (hooks.length, hooks.mapIdx fun i hook => {
    delivery := { id := generateId "deliv" (tokens i), hookId := hook.id, hookUrl := hook.url,
                  hookSecret := hook.secret, eventType := eventType, body := body } })

/-- `_record_delivery`; none if it pops from an empty list. -/
def recordDelivery (m : HookManager) (record : DeliveryRecord) : Option HookManager :=
  if m.maxHistory ≤ m.deliveries.length then
    if m.deliveries = [] then none
    else some { m with deliveries := m.deliveries.tail ++ [record] }
  else some { m with deliveries := m.deliveries ++ [record] }

end HookManager

/-- The loop of `deliver` from one `await` to the next: what an attempt does, and the next one
if it does not end the delivery, be it by returning or by raising. -/
def Dispatcher.turn (sign : String → String → String) (d : Dispatcher) (v : Delivery)
    (running : Bool) (o : Outcome) (attempt : Nat) : List HookAction × Option Nat :=
  if d.maxAttempts < attempt then
    (report v (d.deliveryRecord v .failed d.maxAttempts 0 "exhausted retries"), none)
  else if ¬ running then
    (report v (d.deliveryRecord v .pending attempt 0 "dispatcher stopped"), none)
  else
    let request := HookAction.request attempt (d.httpRequest sign v)
    if o.delivered then
      (request :: report v (d.deliveryRecord v .success attempt o.sent.1), none)
    else if d.maxAttempts ≤ attempt then
      (request :: report v (d.deliveryRecord v .failed attempt o.sent.1 o.errMsg), none)
    else
      let retry := d.deliveryRecord v .retry attempt o.sent.1 o.errMsg
      match d.computeBackoff attempt with
      | .error _ => (request :: report v retry, none)
      | .ok delay => (request :: report v retry ++ [.sleep delay], some (attempt + 1))

/-- The event loop, with all tasks there were. -/
structure HookLoop where
  manager : HookManager := {}
  dispatcher : Dispatcher := {}
  running : Bool := false
  tasks : List HookTask := []

inductive HookOp
  | register (now : Time) (token url : String) (events : List HookEventType) (secret : String)
  | deregister (hookId : String)
  | emit (eventType : HookEventType) (body : String) (tokens : Nat → String)
  | start
  | stop
  /-- The `k`-th task has its turn, and a request it sends is answered so. -/
  | turn (k : Nat) (o : Outcome)

namespace HookLoop

open Dispatcher HookManager

variable (sign : String → String → String)

/-- The attempt that the `k`-th task is about to make. -/
def upcoming (l : HookLoop) (k : Nat) : Option (Delivery × Nat) :=
  l.tasks[k]?.bind fun task => task.next.map fun i => (task.delivery, i)

/-- One turn of a task; a callback that raises ends it. -/
def turn (l : HookLoop) (k : Nat) (o : Outcome) : HookLoop :=
  match l.upcoming k with
  | none => l
  | some (v, i) =>
    let (actions, next) := l.dispatcher.turn sign v l.running o i
    match (called actions).foldlM recordDelivery l.manager with
    | none => { l with tasks := l.tasks.set k { delivery := v, next := none } }
    | some manager =>
      { l with manager := manager, tasks := l.tasks.set k { delivery := v, next := next } }

def step (l : HookLoop) : HookOp → HookLoop
  | .register now token url events secret =>
    { l with manager := (l.manager.register now token url events secret).2 }
  | .deregister hookId => { l with manager := (l.manager.deregister hookId).getD l.manager }
  | .emit eventType body tokens =>
    { l with tasks := l.tasks ++ (l.manager.emit eventType body tokens).2 }
  | .start => { l with running := true }
  | .stop => { l with running := false }
  | .turn k o => l.turn sign k o

/-- What a step does at the endpoints and to the history, and which task does it. -/
def acts (l : HookLoop) : HookOp → List (Nat × HookAction)
  | .turn k o => ((l.upcoming k).elim [] fun a =>
      (l.dispatcher.turn sign a.1 l.running o a.2).1).map fun action => (k, action)
  | _ => []

/-- What a task meets in a step: whether the dispatcher runs, and what the endpoint answers. -/
def meets (k : Nat) (l : HookLoop) : HookOp → List (Bool × Outcome)
  | .turn j o => if j = k ∧ (l.upcoming k).isSome then [(l.running, o)] else []
  | _ => []

/-- What an `emit` returns. -/
def triggers (l : HookLoop) : HookOp → List Nat
  | .emit eventType body tokens => [(l.manager.emit eventType body tokens).1]
  | _ => []

/-! ### One turn -/

section Turn

variable {sign} {outcome : Nat → Outcome} {running : Nat → Bool} {d : Dispatcher} {v : Delivery}
  {i : Nat}

theorem turn_goesOn (h : GoesOn outcome running d i) :
    d.turn sign v (running i) (outcome i) i = (goOn sign outcome d v i, some (i + 1)) := by
  obtain ⟨hrun, hfail, hleft, hsmall⟩ := h
  have hback : d.computeBackoff i = .ok (min (d.baseDelay * 2 ^ (i - 1)) d.maxDelay) :=
    if_neg (by omega)
  rw [Dispatcher.turn, if_neg (by omega), if_neg (not_not.mpr hrun)]
  dsimp only
  rw [if_neg hfail, if_neg (not_le.mpr hleft), hback, goOn, retryRecord]

theorem turn_ends {e : Ending} (hi : (i : Int) ≤ d.maxAttempts) (h : e.Holds outcome running d i) :
    d.turn sign v (running i) (outcome i) i = (e.actions sign outcome d v i, none) := by
  rw [Dispatcher.turn, if_neg (not_lt.mpr hi)]
  cases e with
  | stopped =>
    have hrun : ¬ running i = true := by
      rw [show running i = false from h]
      exact Bool.false_ne_true
    rw [if_pos hrun]
    rfl
  | delivered =>
    rw [if_neg (not_not.mpr h.1)]
    dsimp only
    rw [if_pos h.2]
    rfl
  | failed =>
    rw [if_neg (not_not.mpr h.1)]
    dsimp only
    rw [if_neg h.2.1, if_pos h.2.2.le]
    rfl
  | overflow =>
    have hback : d.computeBackoff i = .error .overflowError := if_pos (by have := h.2.2.2; omega)
    rw [if_neg (not_not.mpr h.1)]
    dsimp only
    rw [if_neg h.2.1, if_neg (not_le.mpr h.2.2.1), hback]
    rfl

/-- The loop of `deliver` after some attempts that go on. -/
theorem attemptLoop_after (n turns : Nat)
    (h : ∀ j, i ≤ j → j < i + n → GoesOn outcome running d j) :
    attemptLoop sign outcome running d v (n + turns) i =
      ((List.range' i n).flatMap (goOn sign outcome d v) ++
          (attemptLoop sign outcome running d v turns (i + n)).1,
        (attemptLoop sign outcome running d v turns (i + n)).2) := by
  induction n generalizing i with
  | zero => rw [Nat.zero_add]; rfl
  | succ n ih =>
    have hrest : ∀ j, i + 1 ≤ j → j < i + 1 + n → GoesOn outcome running d j :=
      fun j hj hlt => h j (by omega) (by omega)
    rw [show n + 1 + turns = n + turns + 1 by omega, attemptLoop_goesOn (h i le_rfl (by omega)),
      ih hrest, List.range'_succ, List.flatMap_cons, List.append_assoc,
      show i + 1 + n = i + (n + 1) by omega]

/-- What a delivery does whose first attempts go on, if the next one ends it. -/
theorem deliver_fst_of_ends {n : Nat} {e : Ending} (hn : ((n + 1 : Nat) : Int) ≤ d.maxAttempts)
    (hgo : ∀ j, 1 ≤ j → j < 1 + n → GoesOn outcome running d j)
    (he : e.Holds outcome running d (n + 1)) : (deliver sign outcome running d v).1 =
      (List.range' 1 n).flatMap (goOn sign outcome d v) ++ e.actions sign outcome d v (n + 1) := by
  obtain ⟨rest, hrest⟩ : ∃ rest, d.maxAttempts.toNat = n + (rest + 1) :=
    ⟨d.maxAttempts.toNat - (n + 1), by omega⟩
  have hloop : attemptLoop sign outcome running d v (n + (rest + 1)) 1 =
      ((List.range' 1 n).flatMap (goOn sign outcome d v) ++
        (attemptLoop sign outcome running d v (rest + 1) (1 + n)).1,
        (attemptLoop sign outcome running d v (rest + 1) (1 + n)).2) :=
    attemptLoop_after n (rest + 1) hgo
  rw [Nat.add_comm 1 n, attemptLoop_ends he] at hloop
  rw [deliver, hrest, hloop]
  cases e with
  | stopped => rfl
  | delivered => rfl
  | failed => rfl
  | overflow => rfl

end Turn

/-! ### A task and its delivery -/

/-- The answers and times of stopping are those met. -/
def Agrees (turns : List (Bool × Outcome)) (outcome : Nat → Outcome) (running : Nat → Bool) :
    Prop :=
  ∀ j b o, turns[j]? = some (b, o) → running (j + 1) = b ∧ outcome (j + 1) = o

/-- What the task has done is what `deliver` does up to its next attempt, or in all, with the
answers met. -/
def Follows (sign : String → String → String) (d : Dispatcher) (v : Delivery)
    (turns : List (Bool × Outcome)) (next : Option Nat) (done : List HookAction) : Prop :=
  ∀ outcome running, Agrees turns outcome running →
    next.elim (done = (deliver sign outcome running d v).1) fun i => i = turns.length + 1 ∧
      (∀ j, 1 ≤ j → j < 1 + turns.length → GoesOn outcome running d j) ∧
      done = (List.range' 1 turns.length).flatMap (goOn sign outcome d v)

theorem follows_new (d : Dispatcher) (v : Delivery) : Follows sign d v [] (some 1) [] := by
  intro outcome running _
  refine ⟨rfl, fun j hj hlt => ?_, rfl⟩
  rw [List.length_nil] at hlt
  omega

variable {sign} in
/-- **One turn.** -/
theorem Follows.turn {d : Dispatcher} {v : Delivery} {turns : List (Bool × Outcome)} {i : Nat}
    {done : List HookAction} (h : Follows sign d v turns (some i) done) (b : Bool) (o : Outcome) :
    Follows sign d v (turns ++ [(b, o)]) (d.turn sign v b o i).2
      (done ++ (d.turn sign v b o i).1) := by
  intro outcome running hagree
  have hlast : running (turns.length + 1) = b ∧ outcome (turns.length + 1) = o :=
    hagree turns.length b o List.getElem?_concat_length
  have hbefore : Agrees turns outcome running := fun j b' o' hj => by
    obtain ⟨hlt, -⟩ := List.getElem?_eq_some_iff.mp hj
    exact hagree j b' o' ((List.getElem?_append_left hlt).trans hj)
  obtain ⟨rfl, hgo, rfl⟩ := h outcome running hbefore
  rw [← hlast.1, ← hlast.2]
  by_cases hi : ((turns.length + 1 : Nat) : Int) ≤ d.maxAttempts
  · have hcases : GoesOn outcome running d (turns.length + 1) ∨
        ∃ e : Ending, e.Holds outcome running d (turns.length + 1) := goesOn_or_ends hi
    rcases hcases with hnext | ⟨e, he⟩
    · rw [turn_goesOn hnext, List.length_append, List.length_singleton, Option.elim_some]
      refine ⟨rfl, fun j hj hlt => ?_, ?_⟩
      · rcases Nat.lt_or_eq_of_le (Nat.le_of_lt_succ (by omega : j < turns.length + 1 + 1))
          with hlt' | rfl
        · exact hgo j hj (by omega)
        · exact hnext
      · rw [List.range'_concat, List.flatMap_append, List.flatMap_singleton, Nat.one_mul,
          Nat.add_comm 1 turns.length]
    · rw [turn_ends hi he, Option.elim_none]
      exact (deliver_fst_of_ends hi hgo he).symm
  · -- no attempt is left: then there was none, and the loop of `deliver` does not run
    have hnone : turns.length = 0 := by
      by_contra hne
      have := (hgo turns.length (by omega) (by omega)).2.2.1
      omega
    have hzero : d.maxAttempts.toNat = 0 := by omega
    rw [Dispatcher.turn, if_pos (by omega), hnone, Option.elim_none, deliver, hzero]
    rfl

/-! ### The record of a turn -/

theorem recordDelivery_eq {m : HookManager} (hpos : 1 ≤ m.maxHistory)
    (hlen : m.deliveries.length ≤ m.maxHistory) (record : DeliveryRecord) :
    m.recordDelivery record = some { m with
      deliveries := keepLast m.maxHistory.toNat (m.deliveries ++ [record]) } := by
  rw [recordDelivery]
  by_cases hfull : m.maxHistory ≤ m.deliveries.length
  · have hne : m.deliveries ≠ [] := fun h => by
      rw [h] at hfull
      exact absurd (hpos.trans hfull) (by decide)
    have hdrop : keepLast m.maxHistory.toNat (m.deliveries ++ [record]) =
        m.deliveries.tail ++ [record] := by
      rw [keepLast, List.length_append, List.length_singleton,
        show m.deliveries.length + 1 - m.maxHistory.toNat = 1 by omega, List.drop_one,
        List.tail_append_of_ne_nil hne]
    rw [if_pos hfull, if_neg hne, hdrop]
  · have hall : keepLast m.maxHistory.toNat (m.deliveries ++ [record]) =
        m.deliveries ++ [record] := by
      rw [keepLast, List.length_append, List.length_singleton,
        show m.deliveries.length + 1 - m.maxHistory.toNat = 0 by omega, List.drop_zero]
    rw [if_neg hfull, hall]

def IsFinal (record : DeliveryRecord) : Bool := record.status ≠ HookStatus.retry.value

/-- A turn reports one record, and unless the backoff overflows it is no retry exactly if the
turn is the last. -/
theorem called_turn {d : Dispatcher} {v : Delivery} (hv : v.callback = true) (b : Bool)
    (o : Outcome) (i : Nat) : ∃ record, called (d.turn sign v b o i).1 = [record] ∧
      (0 ≤ d.maxRetries → d.maxRetries ≤ 1024 →
        IsFinal record = (d.turn sign v b o i).2.isNone) := by
  have hreport : ∀ record, called (report v record) = [record] := fun record => by
    rw [called_report, if_pos hv]
  have hmax : d.maxAttempts = d.maxRetries + 1 := rfl
  by_cases hi : (i : Int) ≤ d.maxAttempts
  · have hcases : GoesOn (fun _ => o) (fun _ => b) d i ∨
        ∃ e : Ending, e.Holds (fun _ => o) (fun _ => b) d i := goesOn_or_ends hi
    rcases hcases with hgo | ⟨e, he⟩
    · have hturn : d.turn sign v b o i = (goOn sign (fun _ => o) d v i, some (i + 1)) :=
        turn_goesOn hgo
      rw [hturn]
      refine ⟨retryRecord (fun _ => o) d v i, ?_, fun _ _ => rfl⟩
      rw [goOn, called_append]
      show called (report v _) ++ [] = _
      rw [hreport, List.append_nil]
    · have hturn : d.turn sign v b o i = (e.actions sign (fun _ => o) d v i, none) :=
        turn_ends hi he
      rw [hturn]
      refine ⟨e.record (fun _ => o) d v i, ?_, fun hnonneg hle => ?_⟩
      · rw [called_actions, if_pos hv]
      · cases e with
        | stopped => rfl
        | delivered => rfl
        | failed => rfl
        | overflow =>
          have := he.2.2
          omega
  · rw [Dispatcher.turn, if_pos (by omega)]
    exact ⟨_, hreport _, fun _ _ => rfl⟩

/-! ### Runs -/

/-- The history holds at least one record and no more than it may, and every task calls back. -/
structure Wired (l : HookLoop) : Prop where
  pos : 1 ≤ l.manager.maxHistory
  length : l.manager.deliveries.length ≤ l.manager.maxHistory
  callback : ∀ task ∈ l.tasks, task.delivery.callback = true

theorem upcoming_eq_some {l : HookLoop} {k : Nat} {v : Delivery} {i : Nat}
    (h : l.upcoming k = some (v, i)) : l.tasks[k]? = some { delivery := v, next := some i } := by
  rw [upcoming] at h
  obtain ⟨task, htask, hnext⟩ := Option.bind_eq_some_iff.mp h
  obtain ⟨j, hj, heq⟩ := Option.map_eq_some_iff.mp hnext
  obtain ⟨rfl, rfl⟩ := Prod.mk.inj heq
  rw [htask, ← hj]

/-- What a turn does to the loop. -/
theorem turn_eq {l : HookLoop} (h : Wired l) {k : Nat} {v : Delivery} {i : Nat}
    (hk : l.upcoming k = some (v, i)) (o : Outcome) :
    ∃ record, called (l.dispatcher.turn sign v l.running o i).1 = [record] ∧
      l.turn sign k o = { l with
        manager := { l.manager with
          deliveries := keepLast l.manager.maxHistory.toNat (l.manager.deliveries ++ [record]) }
        tasks := l.tasks.set k
          { delivery := v, next := (l.dispatcher.turn sign v l.running o i).2 } } := by
  have hv : v.callback = true := h.callback _ (List.mem_of_getElem? (upcoming_eq_some hk))
  obtain ⟨record, hrecord, -⟩ := called_turn sign (d := l.dispatcher) hv l.running o i
  refine ⟨record, hrecord, ?_⟩
  rw [HookLoop.turn, hk]
  dsimp only
  rw [hrecord, List.foldlM_cons, recordDelivery_eq h.pos h.length]
  rfl

theorem turn_of_none {l : HookLoop} {k : Nat} (hk : l.upcoming k = none) (o : Outcome) :
    l.turn sign k o = l := by
  rw [HookLoop.turn, hk]

theorem length_keepLast_le {α : Type} {n : Int} (hn : 1 ≤ n) (l : List α) :
    ((keepLast n.toNat l).length : Int) ≤ n := by
  rw [keepLast, List.length_drop]
  omega

theorem wired_step {l : HookLoop} (h : Wired l) (op : HookOp) : Wired (step sign l op) := by
  cases op with
  | register now token url events secret =>
    have hsame : (l.manager.register now token url events secret).2.maxHistory =
          l.manager.maxHistory ∧
        (l.manager.register now token url events secret).2.deliveries = l.manager.deliveries := by
      rw [register]
      split
      · exact ⟨rfl, rfl⟩
      · split
        · exact ⟨rfl, rfl⟩
        · exact ⟨rfl, rfl⟩
    refine ⟨?_, ?_, h.callback⟩
    · rw [step, hsame.1]
      exact h.pos
    · rw [step, hsame.1, hsame.2]
      exact h.length
  | deregister hookId =>
    rw [step, deregister]
    split
    · exact ⟨h.pos, h.length, h.callback⟩
    · exact h
  | emit eventType body tokens =>
    refine ⟨h.pos, h.length, fun task htask => ?_⟩
    rcases List.mem_append.mp htask with hold | hnew
    · exact h.callback task hold
    · obtain ⟨i, hi, rfl⟩ := List.mem_mapIdx.mp hnew
      rfl
  | start => exact ⟨h.pos, h.length, h.callback⟩
  | stop => exact ⟨h.pos, h.length, h.callback⟩
  | turn k o =>
    rw [step]
    cases hk : l.upcoming k with
    | none =>
      rw [turn_of_none sign hk]
      exact h
    | some a =>
      obtain ⟨record, -, hturn⟩ := turn_eq sign h hk o
      rw [hturn]
      refine ⟨h.pos, length_keepLast_le h.pos _, fun task htask => ?_⟩
      rcases List.mem_or_eq_of_mem_set htask with hold | rfl
      · exact h.callback task hold
      · have hcalls := h.callback _ (List.mem_of_getElem? (upcoming_eq_some hk))
        exact hcalls

theorem wired_exec {l : HookLoop} (h : Wired l) (run : List HookOp) :
    Wired (Run.exec (step sign) l run) :=
  Run.always_of_eachStep (I := Wired) (C := fun _ _ => True)
    (fun _ op hl _ => wired_step sign hl op) run l h (fun _ _ _ => trivial) run List.prefix_rfl

theorem maxHistory_step {l : HookLoop} (h : Wired l) (op : HookOp) :
    (step sign l op).manager.maxHistory = l.manager.maxHistory ∧
      (step sign l op).dispatcher = l.dispatcher := by
  cases op with
  | register now token url events secret =>
    refine ⟨?_, rfl⟩
    rw [step, register]
    split
    · rfl
    · split
      · rfl
      · rfl
  | deregister hookId =>
    refine ⟨?_, rfl⟩
    rw [step, deregister]
    split
    · rfl
    · rfl
  | emit eventType body tokens => exact ⟨rfl, rfl⟩
  | start => exact ⟨rfl, rfl⟩
  | stop => exact ⟨rfl, rfl⟩
  | turn k o =>
    rw [step]
    cases hk : l.upcoming k with
    | none =>
      rw [turn_of_none sign hk]
      exact ⟨rfl, rfl⟩
    | some a =>
      obtain ⟨record, -, hturn⟩ := turn_eq sign h hk o
      rw [hturn]
      exact ⟨rfl, rfl⟩

/-- What no run changes. -/
theorem maxHistory_exec {l : HookLoop} (h : Wired l) (run : List HookOp) :
    (Run.exec (step sign) l run).manager.maxHistory = l.manager.maxHistory ∧
      (Run.exec (step sign) l run).dispatcher = l.dispatcher := by
  induction run using List.reverseRecOn with
  | nil => exact ⟨rfl, rfl⟩
  | append_singleton run op ih =>
    obtain ⟨hmax, hdispatcher⟩ := maxHistory_step sign (wired_exec sign h run) op
    rw [Run.exec_concat, hmax, hdispatcher]
    exact ih

/-! ### Each delivery -/

/-- What the `k`-th task does. -/
def doneBy (k : Nat) (acts : List (Nat × HookAction)) : List HookAction :=
  acts.filterMap fun a => if a.1 = k then some a.2 else none

theorem doneBy_append (k : Nat) (as bs : List (Nat × HookAction)) :
    doneBy k (as ++ bs) = doneBy k as ++ doneBy k bs := List.filterMap_append

theorem doneBy_map (k j : Nat) (as : List HookAction) :
    doneBy k (as.map fun action => (j, action)) = if j = k then as else [] := by
  rw [doneBy, List.filterMap_map]
  by_cases hjk : j = k
  · rw [if_pos hjk]
    exact (List.filterMap_congr fun a _ => if_pos hjk).trans List.filterMap_some
  · rw [if_neg hjk]
    exact List.filterMap_eq_nil_iff.mpr fun a _ => if_neg hjk

/-- The `k`-th task, if there is one yet, follows its delivery. -/
def Tracks (l : HookLoop) (k : Nat) (turns : List (Bool × Outcome)) (done : List HookAction) :
    Prop :=
  l.tasks[k]?.elim (turns = [] ∧ done = []) fun task =>
    Follows sign l.dispatcher task.delivery turns task.next done

theorem tracks_turn {l : HookLoop} (h : Wired l) {k : Nat} {turns : List (Bool × Outcome)}
    {done : List HookAction} (htracks : Tracks sign l k turns done) (j : Nat) (o : Outcome) :
    Tracks sign (l.turn sign j o) k (turns ++ meets k l (.turn j o))
      (done ++ doneBy k (acts sign l (.turn j o))) := by
  rw [meets, acts, doneBy_map]
  cases hj : l.upcoming j with
  | none =>
    have hnot : ¬ (j = k ∧ (l.upcoming k).isSome = true) := by
      rintro ⟨rfl, hsome⟩
      rw [hj] at hsome
      cases hsome
    rw [turn_of_none sign hj, Option.elim_none, ite_self, List.append_nil, if_neg hnot,
      List.append_nil]
    exact htracks
  | some a =>
    obtain ⟨record, -, hturn⟩ := turn_eq sign h hj o
    have hold := upcoming_eq_some hj
    rw [Tracks, hturn, Option.elim_some]
    by_cases hjk : j = k
    · obtain rfl := hjk
      rw [Tracks, hold, Option.elim_some] at htracks
      obtain ⟨hlt, -⟩ := List.getElem?_eq_some_iff.mp hold
      have hsome : (l.upcoming j).isSome = true := by
        rw [hj]
        rfl
      rw [if_pos ⟨rfl, hsome⟩, if_pos rfl, List.getElem?_set_self hlt, Option.elim_some]
      exact htracks.turn l.running o
    · rw [if_neg fun hc => hjk hc.1, if_neg hjk, List.append_nil, List.append_nil,
        List.getElem?_set_ne hjk]
      exact htracks

theorem tracks_step {l : HookLoop} (h : Wired l) {k : Nat} {turns : List (Bool × Outcome)}
    {done : List HookAction} (htracks : Tracks sign l k turns done) (op : HookOp) :
    Tracks sign (step sign l op) k (turns ++ meets k l op)
      (done ++ doneBy k (acts sign l op)) := by
  cases op with
  | turn j o => exact tracks_turn sign h htracks j o
  | emit eventType body tokens =>
    show Tracks sign _ k (turns ++ []) (done ++ [])
    rw [List.append_nil, List.append_nil, step, Tracks]
    by_cases hk : k < l.tasks.length
    · rw [List.getElem?_append_left hk]
      exact htracks
    · -- a new task has its first attempt before it
      rw [Tracks, List.getElem?_eq_none (not_lt.mp hk), Option.elim_none] at htracks
      obtain ⟨rfl, rfl⟩ := htracks
      rw [List.getElem?_append_right (not_lt.mp hk), emit, List.getElem?_mapIdx]
      cases (l.manager.getHooksForEvent eventType)[k - l.tasks.length]? with
      | none => exact ⟨rfl, rfl⟩
      | some hook => exact follows_new sign l.dispatcher _
  | register | deregister | start | stop =>
    show Tracks sign _ k (turns ++ []) (done ++ [])
    rw [List.append_nil, List.append_nil]
    exact htracks

/-- **Deliveries do not disturb each other.**  On a loop that starts without tasks, whatever is
registered, emitted, started, stopped and run in between, what each task does is what `deliver`
does alone, up to the task's next attempt or in all, with the answers it met and the dispatcher
running or stopped as it was at the task's turns. -/
theorem delivers (l : HookLoop) (hl : Wired l) (hnone : l.tasks = []) (run : List HookOp) (k : Nat)
    (task : HookTask) (htask : (Run.exec (step sign) l run).tasks[k]? = some task) :
    Follows sign l.dispatcher task.delivery (Run.outputs (step sign) (meets k) l run) task.next
      (doneBy k (Run.outputs (step sign) (acts sign) l run)) := by
  have htracks : Tracks sign (Run.exec (step sign) l run) k
      (Run.outputs (step sign) (meets k) l run)
      (doneBy k (Run.outputs (step sign) (acts sign) l run)) := by
    clear htask
    induction run using List.reverseRecOn with
    | nil =>
      rw [Tracks, Run.exec, List.foldl_nil, hnone]
      exact ⟨rfl, rfl⟩
    | append_singleton run op ih =>
      rw [Run.exec_concat, Run.outputs_concat, Run.outputs_concat, doneBy_append]
      exact tracks_step sign (wired_exec sign hl run) ih op
  rw [Tracks, htask, Option.elim_some, (maxHistory_exec sign hl run).2] at htracks
  exact htracks

/-! ### All deliveries -/

/-- The records a run leaves, whether the history still holds them or not. -/
def recorded (acts : List (Nat × HookAction)) : List DeliveryRecord :=
  called (acts.map Prod.snd)

def inFlight (l : HookLoop) : Nat := l.tasks.countP fun task => task.next.isSome

theorem recorded_append (as bs : List (Nat × HookAction)) :
    recorded (as ++ bs) = recorded as ++ recorded bs := by
  rw [recorded, List.map_append, called_append]
  rfl

theorem recorded_turn {l : HookLoop} {k : Nat} {v : Delivery} {i : Nat}
    (hk : l.upcoming k = some (v, i)) (o : Outcome) : recorded (acts sign l (.turn k o)) =
      called (l.dispatcher.turn sign v l.running o i).1 := by
  rw [recorded, acts, hk, List.map_map]
  exact congrArg called (List.map_id _)

theorem keepLast_self {α : Type} {n : Int} {l : List α} (h : (l.length : Int) ≤ n) :
    keepLast n.toNat (l ++ []) = l := by
  rw [List.append_nil, keepLast_eq, if_neg (by omega)]

/-- **The history** gets the records of a step and loses its oldest. -/
theorem deliveries_step {l : HookLoop} (h : Wired l) (op : HookOp) :
    (step sign l op).manager.deliveries = keepLast l.manager.maxHistory.toNat
      (l.manager.deliveries ++ recorded (acts sign l op)) := by
  cases op with
  | turn k o =>
    rw [step]
    cases hk : l.upcoming k with
    | none =>
      have hacts : acts sign l (.turn k o) = [] := by
        rw [acts, hk]
        rfl
      rw [turn_of_none sign hk, hacts]
      exact (keepLast_self h.length).symm
    | some a =>
      obtain ⟨record, hrecord, hturn⟩ := turn_eq sign h hk o
      rw [hturn, recorded_turn sign hk o, hrecord]
  | register now token url events secret =>
    have hsame : (l.manager.register now token url events secret).2.deliveries =
        l.manager.deliveries := by
      rw [register]
      split
      · rfl
      · split
        · rfl
        · rfl
    exact hsame.trans (keepLast_self h.length).symm
  | deregister hookId =>
    have hsame : ((l.manager.deregister hookId).getD l.manager).deliveries =
        l.manager.deliveries := by
      rw [deregister]
      split
      · rfl
      · rfl
    exact hsame.trans (keepLast_self h.length).symm
  | emit | start | stop => exact (keepLast_self h.length).symm

/-- A step starts deliveries, or ends one with a record that is no retry, or neither. -/
theorem accounted_step {l : HookLoop} (h : Wired l) (hnonneg : 0 ≤ l.dispatcher.maxRetries)
    (hle : l.dispatcher.maxRetries ≤ 1024) (op : HookOp) :
    (recorded (acts sign l op)).countP IsFinal + inFlight (step sign l op) =
      inFlight l + (triggers l op).sum := by
  cases op with
  | turn k o =>
    rw [step]
    cases hk : l.upcoming k with
    | none =>
      have hacts : acts sign l (.turn k o) = [] := by
        rw [acts, hk]
        rfl
      rw [turn_of_none sign hk, hacts]
      exact Nat.add_comm 0 _
    | some a =>
      obtain ⟨record, hrecord, hturn⟩ := turn_eq sign h hk o
      have hold := upcoming_eq_some hk
      obtain ⟨hlt, hget⟩ := List.getElem?_eq_some_iff.mp hold
      have hv : a.1.callback = true := h.callback _ (List.mem_of_getElem? hold)
      obtain ⟨record', hrecord', hfinal⟩ := called_turn sign (d := l.dispatcher) hv l.running o a.2
      obtain rfl : record' = record := by
        rw [hrecord] at hrecord'
        exact (List.cons.inj hrecord').1.symm
      have hpos : 0 < inFlight l :=
        List.countP_pos_iff.mpr ⟨_, List.getElem_mem hlt, by rw [hget]; rfl⟩
      have hset : inFlight (l.turn sign k o) = inFlight l - 1 +
          if (l.dispatcher.turn sign a.1 l.running o a.2).2.isSome then 1 else 0 := by
        rw [hturn, inFlight, List.countP_set hlt, hget]
        rfl
      rw [hset, recorded_turn sign hk o, hrecord, List.countP_singleton, hfinal hnonneg hle]
      show _ = inFlight l + 0
      cases (l.dispatcher.turn sign a.1 l.running o a.2).2 with
      | none => simp only [Option.isNone_none, Option.isSome_none, if_true, Bool.false_eq_true,
          if_false]; omega
      | some i => simp only [Option.isNone_some, Option.isSome_some, if_true, Bool.false_eq_true,
          if_false]; omega
  | emit eventType body tokens =>
    have hnew : (l.manager.emit eventType body tokens).2.countP (fun task => task.next.isSome) =
        (l.manager.emit eventType body tokens).1 := by
      refine (List.countP_eq_length.mpr fun task htask => ?_).trans List.length_mapIdx
      obtain ⟨i, hi, rfl⟩ := List.mem_mapIdx.mp htask
      rfl
    show 0 + List.countP _ (l.tasks ++ _) = inFlight l + ([_] : List Nat).sum
    rw [List.countP_append, hnew, List.sum_singleton, Nat.zero_add]
    rfl
  | register | deregister | start | stop => exact Nat.add_comm 0 _

/-- **All deliveries are accounted for.**  With a backoff that cannot overflow, in every run: the
history holds the last records made, and the deliveries in flight and the records that are no
retries are together as many as the deliveries that were in flight at first and those that the
calls of `emit` say they triggered. -/
theorem all_accounted (l : HookLoop) (hl : Wired l) (hnonneg : 0 ≤ l.dispatcher.maxRetries)
    (hle : l.dispatcher.maxRetries ≤ 1024) (run : List HookOp) :
    (Run.exec (step sign) l run).manager.deliveries = keepLast l.manager.maxHistory.toNat
        (l.manager.deliveries ++ recorded (Run.outputs (step sign) (acts sign) l run)) ∧
      (recorded (Run.outputs (step sign) (acts sign) l run)).countP IsFinal +
          inFlight (Run.exec (step sign) l run) =
        inFlight l + (Run.outputs (step sign) triggers l run).sum := by
  induction run using List.reverseRecOn with
  | nil =>
    refine ⟨?_, Nat.add_comm 0 _⟩
    exact (keepLast_self hl.length).symm
  | append_singleton run op ih =>
    obtain ⟨hhistory, hcount⟩ := ih
    obtain ⟨hmax, hdispatcher⟩ := maxHistory_exec sign hl run
    have hwired := wired_exec sign hl run
    refine ⟨?_, ?_⟩
    · rw [Run.exec_concat, Run.outputs_concat, recorded_append, deliveries_step sign hwired op,
        hmax, hhistory, keepLast_append, List.append_assoc]
    · have hstep := accounted_step sign hwired (hdispatcher ▸ hnonneg) (hdispatcher ▸ hle) op
      rw [Run.exec_concat, Run.outputs_concat, Run.outputs_concat, recorded_append,
        List.countP_append, List.sum_append]
      omega

/-! ### A loop with two hooks -/

def completionHook : HookManager.Hook where
  id := "hook_1"
  url := "http://127.0.0.1:9/"
  events := [.taskCompleted]
  createdAt := 0
  updatedAt := 0

/-- A dispatcher that runs, and that hook. -/
def listening : HookLoop where
  manager := { hooks := Table.empty.put completionHook }
  running := true

/-- A second hook is registered, a task completes, and the two deliveries take turns; the second
finds the dispatcher stopped. -/
def twoDeliveries : List HookOp :=
  [.register 1 "2" "http://127.0.0.1:10/" [.taskCompleted, .taskFailed] "",
    .emit .taskCompleted "\x7b\x7d" (fun i => toString i), .turn 0 (.response 500),
    .turn 1 (.response 503), .turn 0 (.response 200), .stop, .turn 1 (.response 200)]

theorem wired_listening : Wired listening := ⟨by decide, by decide, fun _ h => by cases h⟩

theorem delivers_twoDeliveries :
    ∃ task, (Run.exec (step fun _ _ => "") listening twoDeliveries).tasks[1]? = some task ∧
      Follows (fun _ _ => "") listening.dispatcher task.delivery
        (Run.outputs (step fun _ _ => "") (meets 1) listening twoDeliveries) task.next
        (doneBy 1 (Run.outputs (step fun _ _ => "") (acts fun _ _ => "") listening
          twoDeliveries)) :=
  ⟨_, rfl, delivers (fun _ _ => "") listening wired_listening rfl twoDeliveries 1 _ rfl⟩

theorem all_accounted_twoDeliveries :
    (Run.exec (step fun _ _ => "") listening twoDeliveries).manager.deliveries =
        keepLast listening.manager.maxHistory.toNat (listening.manager.deliveries ++
          recorded (Run.outputs (step fun _ _ => "") (acts fun _ _ => "") listening
            twoDeliveries)) ∧
      (recorded (Run.outputs (step fun _ _ => "") (acts fun _ _ => "") listening
            twoDeliveries)).countP IsFinal +
          inFlight (Run.exec (step fun _ _ => "") listening twoDeliveries) =
        inFlight listening +
          (Run.outputs (step fun _ _ => "") triggers listening twoDeliveries).sum :=
  all_accounted (fun _ _ => "") listening wired_listening (by decide) (by decide) twoDeliveries

/-- One success, and one delivery that was given up, each after a retry. -/
example : (Run.exec (step fun _ _ => "") listening twoDeliveries).manager.deliveries.map
    DeliveryRecord.status = ["retry", "retry", "success", "pending"] := by decide +kernel

end HookLoop

end HermesCluster
