import HermesCluster.Models
import Mathlib.Data.List.Range
import Mathlib.Data.Rat.Defs
import Mathlib.Algebra.Order.Ring.Rat

/-!
# Webhook delivery

`Dispatcher.deliver` of `hermes_cluster/hooks/dispatcher.py`.  What the endpoint answers to
each attempt and whether the dispatcher runs when the attempt starts are given as functions of
the attempt; the HMAC of the signature is a parameter.  A delivery gives the list of what it
does, requests, callbacks and sleeps, and what it returns or raises.  The two clock readings of
a record are left out, since nothing reads them.

* `attemptLoop_spec`: the attempts that go on, and how the last one ends.
* `follows_protocol_iff`: a delivery follows its protocol unless it gets to the 1025th attempt
  and fails it with attempts left; then the backoff overflows.
-/

namespace HermesCluster

inductive HookEventType
  | taskCreated | taskCompleted | taskFailed | nodeJoined | nodeLeft | leaseCreated | leaseExpired
deriving DecidableEq, Repr

def HookEventType.value : HookEventType → String
  | taskCreated => "task_created"
  | taskCompleted => "task_completed"
  | taskFailed => "task_failed"
  | nodeJoined => "node_joined"
  | nodeLeft => "node_left"
  | leaseCreated => "lease_created"
  | leaseExpired => "lease_expired"

/-- `DeliveryStatus` of `hooks/payload.py`. -/
inductive HookStatus | success | failed | pending | retry
deriving DecidableEq, Repr

def HookStatus.value : HookStatus → String
  | success => "success"
  | failed => "failed"
  | pending => "pending"
  | retry => "retry"

structure DeliveryRecord where
  id : String
  hookId : String
  eventType : String
  url : String
  status : String
  statusCode : Int := 0
  error : String := ""
  attempts : Int := 0
  maxAttempts : Int := 0
deriving DecidableEq, Repr

/-- What `urlopen` answers. -/
inductive Outcome
  | response (status : Int)
  | httpError (code : Int) (text : String)
  /-- A `URLError` or any other exception. -/
  | error (text : String)
deriving DecidableEq, Repr

namespace Outcome

/-- `_send_request`: the status code and the error message. -/
def sent : Outcome → Int × Option String
  | response status => (status, none)
  | httpError code text => (code, some text)
  | error text => (0, some text)

/-- `err_msg` -/
def errMsg (o : Outcome) : String := o.sent.2.getD ("status " ++ toString o.sent.1)

/-- A 2xx response. -/
def delivered (o : Outcome) : Prop := o.sent.2 = none ∧ 200 ≤ o.sent.1 ∧ o.sent.1 < 300

instance (o : Outcome) : Decidable o.delivered := inferInstanceAs (Decidable (_ ∧ _ ∧ _))

end Outcome

structure HookRequest where
  url : String
  body : String
  headers : List (String × String)
  timeout : Int
deriving DecidableEq, Repr

structure Dispatcher where
  maxRetries : Int := 3
  baseDelay : ℚ := 1
  maxDelay : ℚ := 30
  httpTimeout : Int := 10
deriving DecidableEq

/-- The arguments of `deliver`: `id` is the delivery id it generates, `body` the payload as
JSON. -/
structure Delivery where
  id : String
  hookId : String
  hookUrl : String
  hookSecret : String
  eventType : HookEventType
  body : String
  /-- Whether a callback is given. -/
  callback : Bool := true
deriving DecidableEq

/-- What a delivery does. -/
inductive HookAction
  | request (attempt : Nat) (req : HookRequest)
  | callback (record : DeliveryRecord)
  | sleep (delay : ℚ)
deriving DecidableEq

namespace Dispatcher

def maxAttempts (d : Dispatcher) : Int := d.maxRetries + 1

/-- `math.pow(2, attempt - 1)` raises from 2^1024 on. -/
def computeBackoff (d : Dispatcher) (attempt : Nat) : Except PyError ℚ :=
  if 1024 ≤ attempt - 1 then .error .overflowError
  else .ok (min (d.baseDelay * 2 ^ (attempt - 1)) d.maxDelay)

/-- `sign` is the HMAC-SHA256 of the body under the secret, in hex. -/
def httpRequest (sign : String → String → String) (d : Dispatcher) (v : Delivery) : HookRequest :=
  { url := v.hookUrl, body := v.body, timeout := d.httpTimeout
    headers := [("Content-Type", "application/json"), ("User-Agent", "hermes-agent-cluster/1.0")] ++
      if v.hookSecret ≠ "" then [("X-Hub-Signature-256", "sha256=" ++ sign v.body v.hookSecret)]
      else [] }

def deliveryRecord (d : Dispatcher) (v : Delivery) (status : HookStatus) (attempts : Int)
    (statusCode : Int := 0) (error : String := "") : DeliveryRecord :=
  { id := v.id, hookId := v.hookId, eventType := v.eventType.value, url := v.hookUrl
    status := status.value, statusCode := statusCode, error := error, attempts := attempts
    maxAttempts := d.maxAttempts }

/-- `if callback: callback(record)` -/
def report (v : Delivery) (record : DeliveryRecord) : List HookAction :=
  if v.callback then [.callback record] else []

section Run

variable (sign : String → String → String) (outcome : Nat → Outcome) (running : Nat → Bool)
  (d : Dispatcher) (v : Delivery)

/-- The loop of `deliver` from an attempt on; no record when it runs out. -/
def attemptLoop : Nat → Nat → List HookAction × Except PyError (Option DeliveryRecord)
  | 0, _ => ([], .ok none)
  | turns + 1, attempt =>
    if ¬ running attempt then
      let record := d.deliveryRecord v .pending attempt 0 "dispatcher stopped"
      (report v record, .ok (some record))
    else
      let o := outcome attempt
      let request := HookAction.request attempt (d.httpRequest sign v)
      if o.delivered then
        let record := d.deliveryRecord v .success attempt o.sent.1
        (request :: report v record, .ok (some record))
      else if d.maxAttempts ≤ attempt then
        let record := d.deliveryRecord v .failed attempt o.sent.1 o.errMsg
        (request :: report v record, .ok (some record))
      else
        let retry := d.deliveryRecord v .retry attempt o.sent.1 o.errMsg
        match d.computeBackoff attempt with
        | .error e => (request :: report v retry, .error e)
        | .ok delay =>
          let (actions, result) := attemptLoop turns (attempt + 1)
          (request :: report v retry ++ .sleep delay :: actions, result)

/-- `deliver`: what it does, and what it returns or raises. -/
def deliver : List HookAction × Except PyError DeliveryRecord :=
  match attemptLoop sign outcome running d v d.maxAttempts.toNat 1 with
  | (actions, .error e) => (actions, .error e)
  | (actions, .ok (some record)) => (actions, .ok record)
  | (actions, .ok none) =>
    let record := d.deliveryRecord v .failed d.maxAttempts 0 "exhausted retries"
    (actions ++ report v record, .ok record)

/-! ### The protocol -/

/-- The attempts a request is sent for. -/
def sentAttempts (actions : List HookAction) : List Nat :=
  actions.filterMap fun
    | .request attempt _ => some attempt
    | _ => none

/-- The records the callback gets. -/
def called (actions : List HookAction) : List DeliveryRecord :=
  actions.filterMap fun
    | .callback record => some record
    | _ => none

def retryRecord (attempt : Nat) : DeliveryRecord :=
  d.deliveryRecord v .retry attempt (outcome attempt).sent.1 (outcome attempt).errMsg

/-- The attempts that failed with one left. -/
def retried (sent : List Nat) : List Nat :=
  sent.filter fun i => ¬ (outcome i).delivered ∧ (i : Int) < d.maxAttempts

structure FollowsProtocol : Prop where
  /-- The callback gets a retry record for each failed attempt but the last, and then the
  record returned. -/
  reports : ∃ final, (deliver sign outcome running d v).2 = .ok final ∧
    final.status ≠ HookStatus.retry.value ∧
    called (deliver sign outcome running d v).1 =
      (if v.callback then
        (retried outcome d (sentAttempts (deliver sign outcome running d v).1)).map
          (retryRecord outcome d v) ++ [final]
      else []) ∧
    (final.status = HookStatus.success.value ↔
      ∃ i, (sentAttempts (deliver sign outcome running d v).1).getLast? = some i ∧
        (outcome i).delivered)
  atMost : ((sentAttempts (deliver sign outcome running d v).1).length : Int) ≤ d.maxRetries + 1
  /-- Requests are sent for the attempts 1, 2, …, -/
  consecutive : ∃ n, sentAttempts (deliver sign outcome running d v).1 = List.range' 1 n
  /-- and so are the retries. -/
  retries : ∃ m, retried outcome d (sentAttempts (deliver sign outcome running d v).1) =
    List.range' 1 m
  /-- No request follows a 2xx response or an attempt that found the dispatcher stopped. -/
  stops : ∀ i ∈ sentAttempts (deliver sign outcome running d v).1, ∀ j, 1 ≤ j →
    (j < i → ¬ (outcome j).delivered) ∧ (j ≤ i → running j = true)
  noFallback : (attemptLoop sign outcome running d v d.maxAttempts.toNat 1).2 ≠ .ok none

/-! ### How a delivery ends -/

/-- How the last attempt ends. -/
inductive Ending | stopped | delivered | failed | overflow
deriving DecidableEq

namespace Ending

def Holds (i : Nat) : Ending → Prop
  | stopped => running i = false
  | delivered => running i = true ∧ (outcome i).delivered
  | failed => running i = true ∧ ¬ (outcome i).delivered ∧ d.maxAttempts = i
  | overflow => running i = true ∧ ¬ (outcome i).delivered ∧ (i : Int) < d.maxAttempts ∧ 1025 ≤ i

/-- The record the delivery returns. -/
def final (i : Nat) : Ending → Option DeliveryRecord
  | stopped => some (d.deliveryRecord v .pending i 0 "dispatcher stopped")
  | delivered => some (d.deliveryRecord v .success i (outcome i).sent.1)
  | failed => some (d.deliveryRecord v .failed i (outcome i).sent.1 (outcome i).errMsg)
  | overflow => none

/-- The last record the callback gets. -/
def record (i : Nat) (e : Ending) : DeliveryRecord :=
  (e.final outcome d v i).getD (retryRecord outcome d v i)

def actions (i : Nat) : Ending → List HookAction
  | stopped => report v (record outcome d v i stopped)
  | e => .request i (d.httpRequest sign v) :: report v (record outcome d v i e)

def result (i : Nat) (e : Ending) : Except PyError (Option DeliveryRecord) :=
  match e.final outcome d v i with
  | some record => .ok (some record)
  | none => .error .overflowError

end Ending

/-- The attempt fails with another one to come. -/
def GoesOn (i : Nat) : Prop :=
  running i = true ∧ ¬ (outcome i).delivered ∧ (i : Int) < d.maxAttempts ∧ i ≤ 1024

/-- What such an attempt does. -/
def goOn (i : Nat) : List HookAction :=
  .request i (d.httpRequest sign v) :: report v (retryRecord outcome d v i) ++
    [.sleep (min (d.baseDelay * 2 ^ (i - 1)) d.maxDelay)]

variable {sign outcome running d v}

theorem attemptLoop_goesOn {turns i : Nat} (h : GoesOn outcome running d i) :
    attemptLoop sign outcome running d v (turns + 1) i =
      (goOn sign outcome d v i ++ (attemptLoop sign outcome running d v turns (i + 1)).1,
        (attemptLoop sign outcome running d v turns (i + 1)).2) := by
  obtain ⟨hrun, hfail, hleft, hsmall⟩ := h
  have hback : d.computeBackoff i = .ok (min (d.baseDelay * 2 ^ (i - 1)) d.maxDelay) :=
    if_neg (by omega)
  rw [attemptLoop, if_neg (not_not.mpr hrun)]
  dsimp only
  rw [if_neg hfail, if_neg (not_le.mpr hleft), hback, goOn, retryRecord]
  dsimp only
  rw [List.append_assoc]
  rfl

theorem attemptLoop_ends {turns i : Nat} {e : Ending} (h : e.Holds outcome running d i) :
    attemptLoop sign outcome running d v (turns + 1) i =
      (e.actions sign outcome d v i, e.result outcome d v i) := by
  rw [attemptLoop]
  cases e with
  | stopped =>
    have hrun : ¬ running i = true := by
      rw [show running i = false from h]
      exact Bool.false_ne_true
    rw [if_pos hrun]
    rfl
  | delivered =>
    rw [if_neg (not_not.mpr h.1)]
    dsimp only
    rw [if_pos h.2]
    rfl
  | failed =>
    rw [if_neg (not_not.mpr h.1)]
    dsimp only
    rw [if_neg h.2.1, if_pos h.2.2.le]
    rfl
  | overflow =>
    have hback : d.computeBackoff i = .error .overflowError := if_pos (by have := h.2.2.2; omega)
    rw [if_neg (not_not.mpr h.1)]
    dsimp only
    rw [if_neg h.2.1, if_neg (not_le.mpr h.2.2.1), hback]
    rfl

/-- An attempt goes on or ends the delivery. -/
theorem goesOn_or_ends {i : Nat} (hi : (i : Int) ≤ d.maxAttempts) :
    GoesOn outcome running d i ∨ ∃ e : Ending, e.Holds outcome running d i := by
  by_cases hrun : running i = true
  · by_cases hok : (outcome i).delivered
    · exact Or.inr ⟨.delivered, hrun, hok⟩
    · rcases hi.lt_or_eq with hlt | heq
      · by_cases hsmall : i ≤ 1024
        · exact Or.inl ⟨hrun, hok, hlt, hsmall⟩
        · exact Or.inr ⟨.overflow, hrun, hok, hlt, by omega⟩
      · exact Or.inr ⟨.failed, hrun, hok, heq.symm⟩
  · exact Or.inr ⟨.stopped, Bool.eq_false_iff.mpr hrun⟩

variable (sign outcome running d v) in
/-- **The loop**: some attempts go on, and the next one ends it. -/
theorem attemptLoop_spec (turns i : Nat) (hturns : (i : Int) + turns = d.maxAttempts + 1)
    (hpos : 0 < turns) :
    ∃ (m : Nat) (e : Ending), ((i + m : Nat) : Int) ≤ d.maxAttempts ∧
      (∀ j, i ≤ j → j < i + m → GoesOn outcome running d j) ∧
      e.Holds outcome running d (i + m) ∧
      attemptLoop sign outcome running d v turns i =
        ((List.range' i m).flatMap (goOn sign outcome d v) ++ e.actions sign outcome d v (i + m),
          e.result outcome d v (i + m)) := by
  induction turns generalizing i with
  | zero => cases hpos
  | succ turns ih =>
    have hi : (i : Int) ≤ d.maxAttempts := by omega
    have hcases : GoesOn outcome running d i ∨ ∃ e : Ending, e.Holds outcome running d i :=
      goesOn_or_ends hi
    rcases hcases with hgo | ⟨e, he⟩
    · have hleft := hgo.2.2.1
      obtain ⟨m, e, hm, hbefore, he, hloop⟩ := ih (i + 1) (by omega) (by omega)
      have hnext : i + 1 + m = i + (m + 1) := by omega
      rw [hnext] at hm hbefore he hloop
      refine ⟨m + 1, e, hm, fun j hj hlt => ?_, he, ?_⟩
      · rcases Nat.eq_or_lt_of_le hj with rfl | hj
        · exact hgo
        · exact hbefore j hj hlt
      · rw [attemptLoop_goesOn hgo, hloop, List.range'_succ, List.flatMap_cons, List.append_assoc]
    · refine ⟨0, e, hi, fun j hj hlt => by omega, he, ?_⟩
      rw [attemptLoop_ends he]
      rfl

/-! ### What is sent and reported -/

theorem sentAttempts_append (a b : List HookAction) :
    sentAttempts (a ++ b) = sentAttempts a ++ sentAttempts b := List.filterMap_append

theorem called_append (a b : List HookAction) : called (a ++ b) = called a ++ called b :=
  List.filterMap_append

theorem sentAttempts_report (record : DeliveryRecord) : sentAttempts (report v record) = [] := by
  rw [report]
  split
  · rfl
  · rfl

theorem called_report (record : DeliveryRecord) :
    called (report v record) = if v.callback then [record] else [] := by
  rw [report]
  split
  · rfl
  · rfl

theorem sentAttempts_goOn (l : List Nat) :
    sentAttempts (l.flatMap (goOn sign outcome d v)) = l := by
  induction l with
  | nil => rfl
  | cons i l ih =>
    have hone : sentAttempts (goOn sign outcome d v i) = [i] := by
      rw [goOn, sentAttempts_append]
      show (i :: sentAttempts (report v _)) ++ [] = [i]
      rw [sentAttempts_report, List.append_nil]
    rw [List.flatMap_cons, sentAttempts_append, ih, hone]
    rfl

theorem called_goOn (l : List Nat) :
    called (l.flatMap (goOn sign outcome d v)) =
      if v.callback then l.map (retryRecord outcome d v) else [] := by
  induction l with
  | nil => exact (ite_self _).symm
  | cons i l ih =>
    have hone : called (goOn sign outcome d v i) =
        if v.callback then [retryRecord outcome d v i] else [] := by
      rw [goOn, called_append]
      show called (report v _) ++ [] = _
      rw [called_report, List.append_nil]
    rw [List.flatMap_cons, called_append, ih, hone]
    split
    · rfl
    · rfl

theorem sentAttempts_actions (e : Ending) (i : Nat) :
    sentAttempts (e.actions sign outcome d v i) = if e = .stopped then [] else [i] := by
  cases e with
  | stopped => exact sentAttempts_report _
  | delivered => exact congrArg (i :: ·) (sentAttempts_report _)
  | failed => exact congrArg (i :: ·) (sentAttempts_report _)
  | overflow => exact congrArg (i :: ·) (sentAttempts_report _)

theorem called_actions (e : Ending) (i : Nat) :
    called (e.actions sign outcome d v i) =
      if v.callback then [e.record outcome d v i] else [] := by
  cases e with
  | stopped => exact called_report _
  | delivered => exact called_report _
  | failed => exact called_report _
  | overflow => exact called_report _

/-- The attempts requests are sent for: those that go on, and the last unless it finds the
dispatcher stopped. -/
def sentUpTo (m : Nat) (e : Ending) : List Nat :=
  List.range' 1 (if e = .stopped then m else m + 1)

theorem mem_sentUpTo {m i : Nat} {e : Ending} :
    i ∈ sentUpTo m e ↔ 1 ≤ i ∧ (i ≤ m ∨ i = m + 1 ∧ e ≠ .stopped) := by
  rw [sentUpTo, List.mem_range'_1]
  split
  · rename_i h
    simp only [h, ne_eq, not_true, and_false, or_false]
    omega
  · rename_i h
    simp only [h, ne_eq, not_false_iff, and_true]
    omega

theorem getLast?_sentUpTo {m : Nat} {e : Ending} (h : e ≠ .stopped) :
    (sentUpTo m e).getLast? = some (m + 1) := by
  rw [sentUpTo, if_neg h, List.range'_concat, List.getLast?_append]
  simp [Nat.add_comm]

variable (sign outcome running d v) in
/-- The delivery goes on for `m` attempts and ends so at the next. -/
structure EndsAfter (m : Nat) (e : Ending) : Prop where
  inRange : (m : Int) ≤ d.maxRetries
  goesOn : ∀ j, 1 ≤ j → j ≤ m → GoesOn outcome running d j
  ends : e.Holds outcome running d (m + 1)
  loop : attemptLoop sign outcome running d v d.maxAttempts.toNat 1 =
    ((List.range' 1 m).flatMap (goOn sign outcome d v) ++ e.actions sign outcome d v (m + 1),
      e.result outcome d v (m + 1))

variable (sign outcome running v) in
theorem exists_endsAfter (h : 0 ≤ d.maxRetries) :
    ∃ m e, EndsAfter sign outcome running d v m e := by
  have hmax : d.maxAttempts = d.maxRetries + 1 := rfl
  obtain ⟨m, e, hm, hbefore, he, hloop⟩ := attemptLoop_spec sign outcome running d v
    d.maxAttempts.toNat 1 (by omega) (by omega)
  rw [Nat.add_comm 1 m] at hm hbefore he hloop
  exact ⟨m, e, by omega, fun j hj hjm => hbefore j hj (by omega), he, hloop⟩

namespace EndsAfter

variable {m : Nat} {e : Ending}

theorem deliver_eq (h : EndsAfter sign outcome running d v m e) :
    deliver sign outcome running d v =
      ((List.range' 1 m).flatMap (goOn sign outcome d v) ++ e.actions sign outcome d v (m + 1),
        if e = .overflow then .error .overflowError
        else .ok (e.record outcome d v (m + 1))) := by
  rw [deliver, h.loop]
  cases e with
  | stopped => rfl
  | delivered => rfl
  | failed => rfl
  | overflow => rfl

theorem sent (h : EndsAfter sign outcome running d v m e) :
    sentAttempts (deliver sign outcome running d v).1 = sentUpTo m e := by
  rw [h.deliver_eq, sentAttempts_append, sentAttempts_goOn, sentAttempts_actions, sentUpTo]
  split
  · exact List.append_nil _
  · rw [List.range'_concat, Nat.one_mul, Nat.add_comm 1 m]

theorem calls (h : EndsAfter sign outcome running d v m e) :
    called (deliver sign outcome running d v).1 =
      if v.callback then
        (List.range' 1 m).map (retryRecord outcome d v) ++ [e.record outcome d v (m + 1)]
      else [] := by
  rw [h.deliver_eq, called_append, called_goOn, called_actions]
  split
  · rfl
  · rfl

/-- The attempts that are retried are those that go on. -/
theorem retried_eq (h : EndsAfter sign outcome running d v m e) (hne : e ≠ .overflow) :
    retried outcome d (sentUpTo m e) = List.range' 1 m := by
  have hgo : ∀ i ∈ List.range' 1 m, ¬ (outcome i).delivered ∧ (i : Int) < d.maxAttempts := by
    intro i hi
    rw [List.mem_range'_1] at hi
    have := h.goesOn i hi.1 (by omega)
    exact ⟨this.2.1, this.2.2.1⟩
  have hall : (List.range' 1 m).filter
      (fun i => ¬ (outcome i).delivered ∧ (i : Int) < d.maxAttempts) = List.range' 1 m :=
    List.filter_eq_self.mpr fun i hi => decide_eq_true (hgo i hi)
  rw [retried, sentUpTo]
  split
  · exact hall
  · rename_i hsent
    have hlast : ¬ (¬ (outcome (m + 1)).delivered ∧ ((m + 1 : Nat) : Int) < d.maxAttempts) := by
      have hend := h.ends
      cases e with
      | stopped => exact absurd rfl hsent
      | delivered => exact fun hd => hd.1 hend.2
      | failed => exact fun hd => by have := hend.2.2; omega
      | overflow => exact absurd rfl hne
    rw [List.range'_concat, List.filter_append, hall, Nat.one_mul, Nat.add_comm 1 m,
      List.filter_cons_of_neg (by simpa using hlast), List.filter_nil, List.append_nil]

/-- A delivery is successful if its last request was. -/
theorem success_iff (h : EndsAfter sign outcome running d v m e) (hne : e ≠ .overflow) :
    (e.record outcome d v (m + 1)).status = HookStatus.success.value ↔
      ∃ i, (sentUpTo m e).getLast? = some i ∧ (outcome i).delivered := by
  have hend := h.ends
  cases e with
  | stopped =>
    have hne : HookStatus.pending.value ≠ HookStatus.success.value := by decide
    refine iff_of_false hne ?_
    rintro ⟨i, hlast, hok⟩
    have hi := mem_sentUpTo.mp (List.mem_of_getLast? hlast)
    exact (h.goesOn i hi.1 (by simpa using hi.2)).2.1 hok
  | delivered =>
    exact iff_of_true rfl ⟨m + 1, getLast?_sentUpTo (by decide), hend.2⟩
  | failed =>
    have hne : HookStatus.failed.value ≠ HookStatus.success.value := by decide
    refine iff_of_false hne ?_
    rintro ⟨i, hlast, hok⟩
    rw [getLast?_sentUpTo (by decide)] at hlast
    cases hlast
    exact hend.2.1 hok
  | overflow => exact absurd rfl hne

theorem record_status_ne (hne : e ≠ .overflow) :
    (e.record outcome d v (m + 1)).status ≠ HookStatus.retry.value := by
  cases e with
  | stopped => exact (by decide : HookStatus.pending.value ≠ HookStatus.retry.value)
  | delivered => exact (by decide : HookStatus.success.value ≠ HookStatus.retry.value)
  | failed => exact (by decide : HookStatus.failed.value ≠ HookStatus.retry.value)
  | overflow => exact absurd rfl hne

theorem followsProtocol (h : EndsAfter sign outcome running d v m e) (hne : e ≠ .overflow) :
    FollowsProtocol sign outcome running d v where
  reports := by
    refine ⟨e.record outcome d v (m + 1), ?_, record_status_ne hne, ?_, ?_⟩
    · rw [h.deliver_eq, if_neg hne]
    · rw [h.calls, h.sent, h.retried_eq hne]
    · rw [h.sent, h.success_iff hne]
  atMost := by
    have := h.inRange
    rw [h.sent, sentUpTo, List.length_range']
    split
    · omega
    · omega
  consecutive := ⟨_, h.sent⟩
  retries := ⟨m, by rw [h.sent, h.retried_eq hne]⟩
  stops := by
    intro i hi j hj
    rw [h.sent, mem_sentUpTo] at hi
    refine ⟨fun hlt => (h.goesOn j hj (by omega)).2.1, fun hle => ?_⟩
    by_cases hjm : j ≤ m
    · exact (h.goesOn j hj hjm).1
    · -- the attempt that ends the delivery had a request, so it was not stopped
      obtain rfl : j = m + 1 := by omega
      have hne' : e ≠ .stopped := (hi.2.resolve_left (by omega)).2
      have hend := h.ends
      cases e with
      | stopped => exact absurd rfl hne'
      | delivered => exact hend.1
      | failed => exact hend.1
      | overflow => exact hend.1
  noFallback := by
    rw [h.loop]
    cases e with
    | stopped => exact fun h => by cases h
    | delivered => exact fun h => by cases h
    | failed => exact fun h => by cases h
    | overflow => exact fun h => by cases h

/-- The backoff overflows exactly at the 1025th attempt. -/
theorem overflow_iff (h : EndsAfter sign outcome running d v m e) :
    e = .overflow ↔ 1025 ≤ d.maxRetries ∧
      ∀ i, 1 ≤ i → i ≤ 1025 → running i = true ∧ ¬ (outcome i).delivered := by
  have hmax : d.maxAttempts = d.maxRetries + 1 := rfl
  refine ⟨fun he => ?_, fun hall => ?_⟩
  · have hend := h.ends
    rw [he] at hend
    obtain ⟨hrun, hfail, hlt, hlarge⟩ := hend
    refine ⟨by omega, fun i hi hle => ?_⟩
    by_cases him : i ≤ m
    · exact ⟨(h.goesOn i hi him).1, (h.goesOn i hi him).2.1⟩
    · -- no attempt beyond the 1024th goes on, so this is the last
      have hm : m ≤ 1024 := by
        by_contra hm
        have := (h.goesOn m (by omega) le_rfl).2.2.2
        omega
      obtain rfl : i = m + 1 := by omega
      exact ⟨hrun, hfail⟩
  · have hm : m ≤ 1024 := by
      by_contra hm
      have := (h.goesOn m (by omega) le_rfl).2.2.2
      omega
    obtain ⟨hrun, hfail⟩ := hall.2 (m + 1) (by omega) (by omega)
    have hend := h.ends
    cases e with
    | stopped =>
      have hstop : running (m + 1) = false := hend
      rw [hstop] at hrun
      cases hrun
    | delivered => exact absurd hend.2 hfail
    | failed =>
      have := hend.2.2
      have := hall.1
      omega
    | overflow => rfl

end EndsAfter

/-- **A delivery follows its protocol** exactly if the backoff is not asked for after a 1025th
failed attempt. -/
theorem follows_protocol_iff (h : 0 ≤ d.maxRetries) :
    FollowsProtocol sign outcome running d v ↔
      ¬ (1025 ≤ d.maxRetries ∧
        ∀ i, 1 ≤ i → i ≤ 1025 → running i = true ∧ ¬ (outcome i).delivered) := by
  obtain ⟨m, e, hends⟩ := exists_endsAfter sign outcome running v h
  rw [← hends.overflow_iff]
  refine ⟨fun hp he => ?_, hends.followsProtocol⟩
  obtain ⟨final, hfinal, -⟩ := hp.reports
  rw [hends.deliver_eq, if_pos he] at hfinal
  cases hfinal

end Run

/-- An endpoint that is down. -/
def refused : Nat → Outcome := fun _ => .error "<urlopen error [Errno 111] Connection refused>"

def taskHook : Delivery :=
  { id := "deliv_1", hookId := "hook_1", hookUrl := "http://127.0.0.1:9/", hookSecret := ""
    eventType := .taskCreated, body := "\x7b\x7d" }

/-- With 1025 retries the delivery to it raises. -/
theorem backoff_overflows :
    (deliver (fun _ _ => "") refused (fun _ => true) { maxRetries := 1025 } taskHook).2 =
        .error .overflowError ∧
      ¬ FollowsProtocol (fun _ _ => "") refused (fun _ => true) { maxRetries := 1025 }
        taskHook := by
  obtain ⟨m, e, h⟩ := exists_endsAfter (fun _ _ => "") refused (fun _ => true) taskHook
    (by decide : 0 ≤ ({ maxRetries := 1025 } : Dispatcher).maxRetries)
  have he : e = .overflow :=
    h.overflow_iff.mpr ⟨by decide, fun i _ _ => ⟨rfl, fun hd => by cases hd.1⟩⟩
  have hraises : (deliver (fun _ _ => "") refused (fun _ => true) { maxRetries := 1025 }
      taskHook).2 = .error .overflowError := by
    rw [h.deliver_eq, if_pos he]
  refine ⟨hraises, fun hp => ?_⟩
  obtain ⟨final, hfinal, -⟩ := hp.reports
  rw [hraises] at hfinal
  cases hfinal

/-- `follows_protocol_iff` for the default dispatcher and that endpoint. -/
theorem follows_protocol_refused :
    FollowsProtocol (fun _ _ => "") refused (fun _ => true) {} taskHook ↔
      ¬ ((1025 : Int) ≤ ({} : Dispatcher).maxRetries ∧
        ∀ i, 1 ≤ i → i ≤ 1025 → true = true ∧ ¬ (refused i).delivered) :=
  follows_protocol_iff (by decide)

/-- Four requests, three of them retried. -/
example : sentAttempts (deliver (fun _ _ => "") refused (fun _ => true) {} taskHook).1 =
    [1, 2, 3, 4] := by decide +kernel

end Dispatcher

end HermesCluster
