import HermesCluster.Lib.Table
import Mathlib.Data.Rat.Defs
import Mathlib.Algebra.Field.Rat
import Mathlib.Order.WithBotTop
import Mathlib.Algebra.Order.Ring.Rat
import Mathlib.Algebra.Order.Monoid.Unbundled.WithTop

/-!
# Data models

The records of `hermes_cluster/models/__init__.py` that the modelled code reads
and writes, under the source's field names in camel case.

* `Time` is a naive UTC `datetime`, in microseconds since `datetime.min`, and
  `Duration` a `timedelta` in microseconds.  `addTtl` is `now + ttl`, which
  raises `OverflowError` outside the range of `datetime`.
* `Load` is a float: pydantic accepts the infinities and NaN.
* Ids are strings.  Those `_generate_id` makes are a prefix, an underscore and a
  token; the token is an argument of the model (`generateId`).
-/

namespace HermesCluster

abbrev TaskId := String
abbrev NodeId := String
abbrev LeaseId := String
abbrev Capability := String

/-- Microseconds since `datetime.min`. -/
abbrev Time := Int

/-- Microseconds. -/
abbrev Duration := Int

/-- A `datetime` as a client may send it: its wall clock and, when the text
carried one, its UTC offset.  `datetime.utcnow()` carries none. -/
structure DateTime where
  wall : Time
  utcOffset : Option Int := none
deriving DecidableEq, Repr

/-- A Python `float`. -/
inductive Load
  | nan
  | num (x : WithBot (WithTop ℚ))
deriving DecidableEq

/-- `a <= b`, which NaN makes false. -/
def Load.le : Load → Load → Bool
  | .num a, .num b => decide (a ≤ b)
  | _, _ => false

/-- `timedelta(seconds=n)`. -/
def seconds (n : Int) : Duration := n * 1000000

/-- `datetime.max`, 9999-12-31T23:59:59.999999. -/
def maxTime : Time := 315537897599999999

/-- What the modelled code raises. -/
inductive PyError
  | valueError (message : String)
  | overflowError
  | integrityError
  | typeError
  | attributeError (name : String)
  | httpException (statusCode : Nat) (detail : String)
deriving DecidableEq, Repr

/-- `now + ttl`. -/
def addTtl (now : Time) (ttl : Duration) : Except PyError Time :=
  if 0 ≤ now + ttl ∧ now + ttl ≤ maxTime then .ok (now + ttl) else .error .overflowError

/-- `_generate_id(prefix)`, `token` being what `secrets.token_hex(8)` returned. -/
def generateId (idPrefix token : String) : String := idPrefix ++ "_" ++ token

theorem generateId_ne_empty (idPrefix token : String) : generateId idPrefix token ≠ "" := by
  intro h
  have hlen := congrArg String.length h
  have hone : "_".length = 1 := rfl
  have hzero : "".length = 0 := rfl
  rw [generateId, String.length_append, String.length_append, hone, hzero] at hlen
  omega

/-! ### Enums -/

inductive NodeStatus | online | degraded | offline
deriving DecidableEq, Repr

inductive TaskStatus | pending | ready | assigned | running | completed | failed | blocked
deriving DecidableEq, Repr

inductive LeaseStatus | active | expired | revoked
deriving DecidableEq, Repr

inductive SyncEventType | taskCreated | taskAssigned | taskCompleted | taskFailed
deriving DecidableEq, Repr

namespace NodeStatus

/-- `NodeStatus.value`. -/
def value : NodeStatus → String
  | online => "online"
  | degraded => "degraded"
  | offline => "offline"

/-- `NodeStatus(text)`. -/
def ofValue (text : String) : Except PyError NodeStatus :=
  if text = "online" then .ok online
  else if text = "degraded" then .ok degraded
  else if text = "offline" then .ok offline
  else .error (.valueError (text ++ " is not a valid NodeStatus"))

@[simp] theorem ofValue_value (s : NodeStatus) : ofValue s.value = .ok s := by
  cases s <;> rfl

end NodeStatus

namespace TaskStatus

/-- `TaskStatus.value`, the text stored in the database and sent to peers. -/
def value : TaskStatus → String
  | pending => "pending"
  | ready => "ready"
  | assigned => "assigned"
  | running => "running"
  | completed => "completed"
  | failed => "failed"
  | blocked => "blocked"

/-- `TaskStatus(text)`, which raises `ValueError` on any other text. -/
def ofValue (text : String) : Except PyError TaskStatus :=
  if text = "pending" then .ok pending
  else if text = "ready" then .ok ready
  else if text = "assigned" then .ok assigned
  else if text = "running" then .ok running
  else if text = "completed" then .ok completed
  else if text = "failed" then .ok failed
  else if text = "blocked" then .ok blocked
  else .error (.valueError (text ++ " is not a valid TaskStatus"))

@[simp] theorem ofValue_value (s : TaskStatus) : ofValue s.value = .ok s := by
  cases s <;> rfl

theorem eq_value_of_ofValue {text : String} {s : TaskStatus} (h : ofValue text = .ok s) :
    text = s.value := by
  unfold ofValue at h
  repeat' split at h
  all_goals first | (cases h; assumption) | cases h

theorem value_injective {s t : TaskStatus} (h : s.value = t.value) : s = t := by
  have := congrArg ofValue h
  simpa using this

theorem value_inj {s t : TaskStatus} : s.value = t.value ↔ s = t :=
  ⟨value_injective, congrArg value⟩

end TaskStatus

/-! ### Records -/

structure Node where
  id : NodeId
  name : String
  capabilities : List Capability := []
  status : NodeStatus := .online
  lastHeartbeat : DateTime
  load : Load := .num 0
deriving DecidableEq

structure Task where
  id : TaskId
  title : String
  requires : List Capability := []
  dependsOn : List TaskId := []
  priority : Int := 3
  status : TaskStatus := .pending
  assignedTo : Option NodeId := none
  createdAt : Time
  updatedAt : Time
  version : Int := 0
  failReason : Option String := none
deriving DecidableEq, Repr

structure Lease where
  id : LeaseId
  taskId : TaskId
  nodeId : NodeId
  createdAt : Time
  expiresAt : Time
  status : LeaseStatus := .active
deriving DecidableEq, Repr

structure TaskSync where
  taskId : TaskId
  title : String
  status : String
  assignedTo : Option NodeId := none
  version : Int := 0
deriving DecidableEq, Repr

structure SyncMessage where
  version : Int := 0
  senderNode : NodeId := ""
  taskState : Option TaskSync := none
  eventType : SyncEventType := .taskCreated
  timestamp : Int := 0
deriving DecidableEq, Repr

/-- A recovery event.  Its id, a random token nothing reads, is left out. -/
structure RecoveryEvent where
  taskId : TaskId := ""
  nodeId : NodeId := ""
  action : String := ""
  status : String := ""
  message : Option String := none
  timestamp : Time
deriving DecidableEq, Repr

structure SchedulingDecision where
  taskId : TaskId
  taskTitle : String
  priority : Int
  nodeId : NodeId
  score : ℚ
  reason : String
  timestamp : Time
deriving DecidableEq

instance : Keyed Node NodeId := ⟨Node.id⟩
instance : Keyed Task TaskId := ⟨Task.id⟩
instance : Keyed Lease LeaseId := ⟨Lease.id⟩

@[simp] theorem key_node (n : Node) : Keyed.key n = n.id := rfl
@[simp] theorem key_task (t : Task) : Keyed.key t = t.id := rfl
@[simp] theorem key_lease (l : Lease) : Keyed.key l = l.id := rfl

/-- `lease.status == active and lease.expires_at > now`. -/
def Lease.live (now : Time) (l : Lease) : Bool :=
  l.status = .active && decide (now < l.expiresAt)

/-- `lease.status == active and lease.expires_at <= now`. -/
def Lease.lapsed (now : Time) (l : Lease) : Bool :=
  l.status = .active && decide (l.expiresAt ≤ now)

/-- What an expiry scan makes of a lease: expired, if it is active and has run out. -/
def Lease.aged (now : Time) (l : Lease) : Lease :=
  if l.lapsed now then { l with status := .expired } else l

/-- The update of `revoke_lease`. -/
def Lease.revoked (l : Lease) : Lease := { l with status := .revoked }

theorem Lease.key_revoked (l : Lease) : Keyed.key l.revoked = Keyed.key l := rfl

@[simp] theorem Lease.aged_id (now : Time) (l : Lease) : (l.aged now).id = l.id := by
  unfold Lease.aged; split <;> rfl

@[simp] theorem Lease.aged_taskId (now : Time) (l : Lease) : (l.aged now).taskId = l.taskId := by
  unfold Lease.aged; split <;> rfl

@[simp] theorem Lease.aged_nodeId (now : Time) (l : Lease) : (l.aged now).nodeId = l.nodeId := by
  unfold Lease.aged; split <;> rfl

@[simp] theorem Lease.aged_expiresAt (now : Time) (l : Lease) :
    (l.aged now).expiresAt = l.expiresAt := by
  unfold Lease.aged; split <;> rfl

theorem Lease.live_iff {now : Time} {l : Lease} :
    l.live now ↔ l.status = .active ∧ now < l.expiresAt := by simp [Lease.live]

theorem Lease.lapsed_iff {now : Time} {l : Lease} :
    l.lapsed now ↔ l.status = .active ∧ l.expiresAt ≤ now := by simp [Lease.lapsed]

theorem Lease.not_lapsed_of_live {now : Time} {l : Lease} (h : l.live now) : ¬ l.lapsed now := by
  rw [live_iff] at h
  rw [lapsed_iff]
  intro hl
  exact absurd (lt_of_lt_of_le h.2 hl.2) (lt_irrefl _)

/-- A lease a scan leaves active has not run out. -/
theorem Lease.aged_status_active {now : Time} {l : Lease} :
    (l.aged now).status = .active ↔ l.live now := by
  rw [live_iff, aged]
  by_cases h : l.lapsed now
  · rw [if_pos h]
    rw [lapsed_iff] at h
    simp [not_lt.mpr h.2]
  · rw [if_neg h]
    rw [lapsed_iff] at h
    refine ⟨fun hs => ⟨hs, lt_of_not_ge fun hle => h ⟨hs, hle⟩⟩, fun hs => hs.1⟩

theorem Lease.aged_status_expired {now : Time} {l : Lease} :
    (l.aged now).status = .expired ↔ l.status = .expired ∨ l.lapsed now := by
  unfold Lease.aged
  by_cases h : l.lapsed now <;> simp [h]

/-- A scan takes no live lease away. -/
@[simp] theorem Lease.live_aged (now : Time) (l : Lease) : (l.aged now).live now = l.live now := by
  rw [Bool.eq_iff_iff, live_iff, aged_status_active, aged_expiresAt]
  exact ⟨fun h => h.1, fun h => ⟨h, (live_iff.mp h).2⟩⟩

theorem Lease.not_live_revoked (now : Time) (l : Lease) : ¬ l.revoked.live now := by
  rw [live_iff]; intro h; cases h.1

end HermesCluster
