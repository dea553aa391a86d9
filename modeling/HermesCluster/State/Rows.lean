import HermesCluster.Lib.StableSort
import HermesCluster.State.ClusterStore

/-!
# Rows and their decoders

`register_node`, `record_decision`, `register_hook` and `add_delivery` of
`hermes_cluster/state/cluster_store.py` at the level of columns: what is bound to each, and what
the row decoders read back.  JSON and the ISO form of a timestamp are the parameters of a
`RowCodec`, that they round-trip a hypothesis on the values at hand.

`rows_decode_iff`: a node and a decision come back as they were unless SQLite cannot hold a
number of theirs, and a hook always does.  The table of deliveries has six columns for twelve
fields, and drops the oldest rows beyond the thousandth.
-/

namespace HermesCluster

namespace Rows

open ClusterStore (fits64)

/-! ### Columns -/

/-- A REAL column; SQLite stores NaN as NULL. -/
abbrev Real := Option (WithBot (WithTop ℚ))

def bindReal : Load → Real
  | .nan => none
  | .num x => some x

/-- A `float` field of a decoded row, under the name of the field. -/
def floatOf (field : String) : Real → Except PyError Load
  | none => .error (.valueError (field ++ " should be a valid number"))
  | some x => .ok (.num x)

/-- NaN is the one float that is not read back. -/
theorem floatOf_bindReal (field : String) {x : Load} (h : x ≠ .nan) :
    floatOf field (bindReal x) = .ok x := by
  cases x with
  | nan => exact absurd rfl h
  | num x => rfl

/-- The standard library's side of a column; `none` where it raises. -/
structure RowCodec (π : Type) where
  isoformat : DateTime → String
  fromisoformat : String → Option DateTime
  dumpsList : List String → String
  loadsList : String → Option (List String)
  dumpsPayload : π → String
  loadsPayload : String → Option π

variable {π : Type}

namespace RowCodec

/-- `_str_to_dt` -/
def strToDt (c : RowCodec π) (now : Time) (s : String) : DateTime :=
  if s = "" then ⟨now, none⟩ else (c.fromisoformat s).getD ⟨now, none⟩

/-- `_json_loads` of a list. -/
def jsonList (c : RowCodec π) (s : String) : List String :=
  if s = "" then [] else (c.loadsList s).getD []

/-- `_json_loads` of a payload; the list it falls back to is no dictionary. -/
def jsonPayload (c : RowCodec π) (s : String) : Except PyError π :=
  match if s = "" then none else c.loadsPayload s with
  | some payload => .ok payload
  | none => .error (.valueError "payload should be a valid dictionary")

/-- `isoformat` and `fromisoformat` round-trip. -/
structure KeepsTime (c : RowCodec π) (t : DateTime) : Prop where
  nonempty : c.isoformat t ≠ ""
  reads : c.fromisoformat (c.isoformat t) = some t

/-- JSON round-trips. -/
structure KeepsList (c : RowCodec π) (l : List String) : Prop where
  nonempty : c.dumpsList l ≠ ""
  reads : c.loadsList (c.dumpsList l) = some l

structure KeepsPayload (c : RowCodec π) (payload : π) : Prop where
  nonempty : c.dumpsPayload payload ≠ ""
  reads : c.loadsPayload (c.dumpsPayload payload) = some payload

variable {c : RowCodec π}

theorem KeepsTime.strToDt {t : DateTime} (h : c.KeepsTime t) (now : Time) :
    c.strToDt now (c.isoformat t) = t := by
  rw [RowCodec.strToDt, if_neg h.nonempty, h.reads, Option.getD_some]

theorem KeepsList.jsonList {l : List String} (h : c.KeepsList l) :
    c.jsonList (c.dumpsList l) = l := by
  rw [RowCodec.jsonList, if_neg h.nonempty, h.reads, Option.getD_some]

theorem KeepsPayload.jsonPayload {payload : π} (h : c.KeepsPayload payload) :
    c.jsonPayload (c.dumpsPayload payload) = .ok payload := by
  rw [RowCodec.jsonPayload, if_neg h.nonempty, h.reads]

end RowCodec

/-! ### Models -/

/-- A `SchedulingDecision` with any score a float can be. -/
structure Decision where
  taskId : TaskId
  taskTitle : String
  priority : Int
  nodeId : NodeId
  score : Load
  reason : String
  timestamp : DateTime
deriving DecidableEq

inductive EventType | taskCreated | taskAssigned | taskCompleted | taskFailed | nodeOffline
deriving DecidableEq, Repr

namespace EventType

def value : EventType → String
  | taskCreated => "task_created"
  | taskAssigned => "task_assigned"
  | taskCompleted => "task_completed"
  | taskFailed => "task_failed"
  | nodeOffline => "node_offline"

/-- `EventType(text)` -/
def ofValue (text : String) : Except PyError EventType :=
  if text = "task_created" then .ok taskCreated
  else if text = "task_assigned" then .ok taskAssigned
  else if text = "task_completed" then .ok taskCompleted
  else if text = "task_failed" then .ok taskFailed
  else if text = "node_offline" then .ok nodeOffline
  else .error (.valueError (text ++ " is not a valid EventType"))

@[simp] theorem ofValue_value (e : EventType) : ofValue e.value = .ok e := by
  cases e <;> rfl

end EventType

structure Hook where
  id : String
  url : String
  events : List EventType := []
  secret : Option String := none
  active : Bool := true
  createdAt : DateTime
  updatedAt : DateTime
deriving DecidableEq

/-- `DeliveryStatus` of the models. -/
inductive DeliveryStatus | delivered | failed | pending | retrying
deriving DecidableEq, Repr

namespace DeliveryStatus

def value : DeliveryStatus → String
  | delivered => "delivered"
  | failed => "failed"
  | pending => "pending"
  | retrying => "retrying"

/-- The status pydantic makes of a text. -/
def ofValue (text : String) : Except PyError DeliveryStatus :=
  if text = "delivered" then .ok delivered
  else if text = "failed" then .ok failed
  else if text = "pending" then .ok pending
  else if text = "retrying" then .ok retrying
  else .error (.valueError "status should be 'delivered', 'failed', 'pending' or 'retrying'")

@[simp] theorem ofValue_value (d : DeliveryStatus) : ofValue d.value = .ok d := by
  cases d <;> rfl

end DeliveryStatus

structure Delivery (π : Type) where
  id : String
  hookId : String
  eventType : String
  url : String := ""
  payload : π
  status : DeliveryStatus := .delivered
  statusCode : Int := 0
  error : String := ""
  attempts : Int := 0
  maxAttempts : Int := 3
  createdAt : DateTime
  updatedAt : DateTime
deriving DecidableEq

/-! ### Rows -/

structure NodeRow where
  id : String
  name : String
  capabilities : String
  status : String
  lastHeartbeat : String
  load : Real
deriving DecidableEq

structure DecisionRow where
  taskId : String
  taskTitle : String
  priority : Int
  nodeId : String
  score : Real
  reason : String
  timestamp : String
deriving DecidableEq

structure HookRow where
  id : String
  url : String
  events : String
  secret : Option String
  active : Int
  createdAt : String
  updatedAt : String
deriving DecidableEq

structure DeliveryRow where
  id : String
  hookId : String
  eventType : String
  payload : String
  status : String
  createdAt : String
deriving DecidableEq

instance : Keyed NodeRow String := ⟨NodeRow.id⟩
instance : Keyed HookRow String := ⟨HookRow.id⟩
instance : Keyed DeliveryRow String := ⟨DeliveryRow.id⟩

theorem key_hookRow (r : HookRow) : Keyed.key r = r.id := rfl

theorem key_deliveryRow (r : DeliveryRow) : Keyed.key r = r.id := rfl

/-- The tables; `decisions` is in the order of its `id` column. -/
structure Tables where
  nodes : Table NodeRow := Table.empty
  decisions : List DecisionRow := []
  hooks : Table HookRow := Table.empty
  deliveries : Table DeliveryRow := Table.empty
deriving DecidableEq

def maxDecisions : Nat := 200

def maxDeliveries : Nat := 1000

section Methods

variable (c : RowCodec π)

/-! ### Writing -/

def nodeRow (node : Node) : NodeRow :=
  { id := node.id, name := node.name, capabilities := c.dumpsList node.capabilities
    status := node.status.value, lastHeartbeat := c.isoformat node.lastHeartbeat
    load := bindReal node.load }

def registerNode (s : Tables) (node : Node) : Tables :=
  { s with nodes := s.nodes.replaceInto (nodeRow c node) }

def decisionRow (d : Decision) : DecisionRow :=
  { taskId := d.taskId, taskTitle := d.taskTitle, priority := d.priority, nodeId := d.nodeId
    score := bindReal d.score, reason := d.reason, timestamp := c.isoformat d.timestamp }

/-- The last `maxDecisions` rows stay. -/
def recordDecision (s : Tables) (d : Decision) : Except PyError Tables :=
  if fits64 d.priority then
    let rows := s.decisions ++ [decisionRow c d]
    .ok { s with decisions :=
      if rows.length > maxDecisions then rows.drop (rows.length - maxDecisions) else rows }
  else .error .overflowError

/-- The hook `register_hook` makes; `token` is what its id is made of. -/
def newHook (now : Time) (token url : String) (events : List EventType) (secret : String) : Hook :=
  { id := generateId "hook" token, url := url, events := events
    secret := if secret ≠ "" then some secret else none, active := true
    createdAt := ⟨now, none⟩, updatedAt := ⟨now, none⟩ }

/-- What the columns of a new hook are bound to. -/
def hookRow (hook : Hook) : HookRow :=
  { id := hook.id, url := hook.url, events := c.dumpsList (hook.events.map EventType.value)
    secret := hook.secret, active := 1, createdAt := c.isoformat hook.createdAt
    updatedAt := c.isoformat hook.updatedAt }

/-- `register_hook`: the hook it returns, and the tables. -/
def registerHook (s : Tables) (now : Time) (token url : String) (events : List EventType)
    (secret : String) : Except PyError (Hook × Tables) :=
  let hook := newHook now token url events secret
  if h : s.hooks.get? (hookRow c hook).id = none then
    .ok (hook, { s with hooks := s.hooks.append (hookRow c hook) h })
  else .error .integrityError

def deliveryRow (d : Delivery π) : DeliveryRow :=
  { id := d.id, hookId := d.hookId, eventType := d.eventType
    payload := c.dumpsPayload d.payload, status := d.status.value
    createdAt := c.isoformat d.createdAt }

/-- `SELECT id … ORDER BY created_at DESC LIMIT ?`, equal rows in the order of the table. -/
def newestIds (rows : List DeliveryRow) : List String :=
  ((rows.mergeSort fun a b => b.createdAt ≤ a.createdAt).take maxDeliveries).map DeliveryRow.id

/-- `DELETE … WHERE id NOT IN (…)`, when there are more rows than that. -/
def trimDeliveries (t : Table DeliveryRow) : Table DeliveryRow :=
  if t.rows.length > maxDeliveries then
    ⟨t.rows.filter fun r => r.id ∈ newestIds t.rows, (List.filter_sublist.map _).nodup t.nodup⟩
  else t

def addDelivery (s : Tables) (d : Delivery π) : Tables :=
  { s with deliveries := trimDeliveries (s.deliveries.replaceInto (deliveryRow c d)) }

/-! ### Reading -/

/-- `_row_to_node` -/
def rowToNode (now : Time) (row : NodeRow) : Except PyError Node := do
  let status ← NodeStatus.ofValue row.status
  let load ← floatOf "load" row.load
  return { id := row.id, name := row.name, capabilities := c.jsonList row.capabilities
           status := status, lastHeartbeat := c.strToDt now row.lastHeartbeat, load := load }

/-- `_row_to_decision` -/
def rowToDecision (now : Time) (row : DecisionRow) : Except PyError Decision := do
  let score ← floatOf "score" row.score
  return { taskId := row.taskId, taskTitle := row.taskTitle, priority := row.priority
           nodeId := row.nodeId, score := score, reason := row.reason
           timestamp := c.strToDt now row.timestamp }

/-- `_row_to_hook` -/
def rowToHook (now : Time) (row : HookRow) : Except PyError Hook := do
  let events ← (c.jsonList row.events).mapM EventType.ofValue
  return { id := row.id, url := row.url, events := events, secret := row.secret
           active := row.active ≠ 0, createdAt := c.strToDt now row.createdAt
           updatedAt := c.strToDt now row.updatedAt }

/-- `_row_to_delivery`; the other fields have their defaults. -/
def rowToDelivery (now : Time) (row : DeliveryRow) : Except PyError (Delivery π) := do
  let payload ← c.jsonPayload row.payload
  let status ← DeliveryStatus.ofValue row.status
  return { id := row.id, hookId := row.hookId, eventType := row.eventType, payload := payload
           status := status, createdAt := c.strToDt now row.createdAt, updatedAt := ⟨now, none⟩ }

/-! ### What is read back -/

variable (readAt : Time)

def NodeKept (s : Tables) (node : Node) : Prop :=
  ((registerNode c s node).nodes.get? node.id).map (rowToNode c readAt) = some (.ok node)

/-- The last decision read is the one recorded. -/
def DecisionKept (s : Tables) (d : Decision) : Prop :=
  ∃ s', recordDecision c s d = .ok s' ∧
    s'.decisions.getLast?.map (rowToDecision c readAt) = some (.ok d)

/-- The hook that `register_hook` returns. -/
def HookKept (s : Tables) (now : Time) (token url : String) (events : List EventType)
    (secret : String) : Prop :=
  ∀ hook s', registerHook c s now token url events secret = .ok (hook, s') →
    (s'.hooks.get? hook.id).map (rowToHook c readAt) = some (.ok hook)

def DeliveryKept (s : Tables) (d : Delivery π) : Prop :=
  ((addDelivery c s d).deliveries.get? d.id).map (rowToDelivery c readAt) = some (.ok d)

/-- The other deliveries with a timestamp that is not less as a text. -/
def notOlder (s : Tables) (d : Delivery π) : Nat :=
  (s.deliveries.rows.filter fun r => r.id ≠ d.id).countP
    fun r => c.isoformat d.createdAt ≤ r.createdAt

variable {c readAt} {s : Tables}

theorem nodeKept_iff {node : Node} (hcaps : c.KeepsList node.capabilities)
    (hbeat : c.KeepsTime node.lastHeartbeat) :
    NodeKept c readAt s node ↔ node.load ≠ .nan := by
  have hget : (registerNode c s node).nodes.get? node.id = some (nodeRow c node) :=
    (Table.get?_replaceInto _ _ _).trans (if_pos rfl)
  rw [NodeKept, hget, Option.map_some, Option.some.injEq, rowToNode, nodeRow]
  dsimp only
  rw [NodeStatus.ofValue_value, hcaps.jsonList, hbeat.strToDt]
  by_cases hnan : node.load = .nan
  · rw [hnan]
    exact iff_of_false (fun h => by cases h) (not_not.mpr rfl)
  · rw [floatOf_bindReal "load" hnan]
    exact iff_of_true rfl hnan

theorem rowToDecision_iff {d : Decision} (htime : c.KeepsTime d.timestamp) :
    rowToDecision c readAt (decisionRow c d) = .ok d ↔ d.score ≠ .nan := by
  rw [rowToDecision, decisionRow]
  dsimp only
  rw [htime.strToDt]
  by_cases hnan : d.score = .nan
  · rw [hnan]
    exact iff_of_false (fun h => by cases h) (not_not.mpr rfl)
  · rw [floatOf_bindReal "score" hnan]
    exact iff_of_true rfl hnan

theorem decisionKept_iff {d : Decision} (htime : c.KeepsTime d.timestamp) :
    DecisionKept c readAt s d ↔ fits64 d.priority = true ∧ d.score ≠ .nan := by
  have hlast : ∀ rows : List DecisionRow, rows = s.decisions ++ [decisionRow c d] →
      (if rows.length > maxDecisions then rows.drop (rows.length - maxDecisions)
        else rows).getLast? = some (decisionRow c d) := by
    intro rows hrows
    have hget : rows.getLast? = some (decisionRow c d) := by rw [hrows, List.getLast?_concat]
    have hpos : 0 < maxDecisions := by decide
    split
    · rw [List.getLast?_drop, if_neg (by omega), hget]
    · exact hget
  rw [DecisionKept, recordDecision]
  by_cases hp : fits64 d.priority = true
  · rw [if_pos hp, and_iff_right hp, ← rowToDecision_iff htime]
    simp only [Except.ok.injEq, exists_eq_left']
    rw [hlast _ rfl, Option.map_some, Option.some.injEq]
  · rw [if_neg hp]
    exact iff_of_false (fun ⟨s', h, _⟩ => by cases h) fun h => hp h.1

theorem mapM_ofValue (events : List EventType) :
    (events.map EventType.value).mapM EventType.ofValue = .ok events := by
  induction events with
  | nil => rfl
  | cons e events ih =>
    rw [List.map_cons, List.mapM_cons, EventType.ofValue_value, ih]
    rfl

theorem hookKept {now : Time} {token url secret : String} {events : List EventType}
    (hevents : c.KeepsList (events.map EventType.value)) (htime : c.KeepsTime ⟨now, none⟩) :
    HookKept c readAt s now token url events secret := by
  intro hook s' h
  have hread : ∀ row, row = hookRow c (newHook now token url events secret) →
      rowToHook c readAt row = .ok (newHook now token url events secret) := by
    intro row hrow
    rw [hrow, rowToHook, hookRow]
    dsimp only [newHook]
    rw [hevents.jsonList, htime.strToDt, mapM_ofValue]
    rfl
  rw [registerHook] at h
  split at h
  · cases h
    have hget := Table.get?_append s.hooks (hookRow c (newHook now token url events secret))
      ‹_› (newHook now token url events secret).id
    rw [hget, key_hookRow, if_pos (by rfl), Option.map_some, hread _ rfl]
  · cases h

theorem newest_total (a b : DeliveryRow) :
    (decide (b.createdAt ≤ a.createdAt) || decide (a.createdAt ≤ b.createdAt)) = true := by
  rw [Bool.or_eq_true, decide_eq_true_eq, decide_eq_true_eq]
  exact String.le_total _ _

theorem newest_trans (a b d : DeliveryRow) (hab : decide (b.createdAt ≤ a.createdAt) = true)
    (hbd : decide (d.createdAt ≤ b.createdAt) = true) :
    decide (d.createdAt ≤ a.createdAt) = true := by
  rw [decide_eq_true_eq] at hab hbd ⊢
  exact String.le_trans hbd hab

/-- The row just written is trimmed at once if enough others are not older. -/
theorem get?_trimDeliveries (t : Table DeliveryRow) (x : DeliveryRow) :
    (trimDeliveries (t.replaceInto x)).get? x.id =
      if (t.rows.filter fun r => r.id ≠ x.id).countP (fun r => x.createdAt ≤ r.createdAt) <
          maxDeliveries then some x else none := by
  have hx : (t.replaceInto x).get? x.id = some x :=
    (Table.get?_replaceInto t x x.id).trans (if_pos rfl)
  have hrows : (t.replaceInto x).rows = (t.rows.filter fun r => r.id ≠ x.id) ++ [x] := rfl
  have honly : ∀ r ∈ (t.replaceInto x).rows, r.id = x.id → r = x := by
    intro r hr hid
    have hr' := Table.get?_of_mem hr
    rw [key_deliveryRow, hid, hx] at hr'
    exact (Option.some.inj hr').symm
  rw [trimDeliveries]
  by_cases hfull : (t.replaceInto x).rows.length > maxDeliveries
  · have hnodup : (t.replaceInto x).rows.Nodup := (t.replaceInto x).nodup.of_map
    rw [hrows] at hnodup
    have hnewest : x.id ∈ newestIds (t.replaceInto x).rows ↔
        (t.rows.filter fun r => r.id ≠ x.id).countP (fun r => x.createdAt ≤ r.createdAt) <
          maxDeliveries := by
      rw [← StableSort.mem_take_mergeSort_concat newest_trans newest_total hnodup, ← hrows,
        newestIds, List.mem_map]
      refine ⟨?_, fun h => ⟨x, h, rfl⟩⟩
      rintro ⟨r, hr, hid⟩
      have hmem := (List.mergeSort_perm _ _).mem_iff.mp (List.mem_of_mem_take hr)
      rwa [honly r hmem hid] at hr
    rw [if_pos hfull]
    by_cases hin : x.id ∈ newestIds (t.replaceInto x).rows
    · rw [if_pos (hnewest.mp hin)]
      refine Table.get?_of_mem (r := x) (List.mem_filter.mpr ⟨Table.mem_of_get? hx, ?_⟩)
      exact decide_eq_true hin
    · rw [if_neg fun h => hin (hnewest.mpr h)]
      refine Table.get?_eq_none_iff.mpr fun r hr hid => ?_
      obtain ⟨hmem, hnew⟩ := List.mem_filter.mp hr
      rw [honly r hmem hid] at hnew
      exact hin (of_decide_eq_true hnew)
  · have hle : (t.rows.filter fun r => r.id ≠ x.id).countP
        (fun r => x.createdAt ≤ r.createdAt) ≤ (t.rows.filter fun r => r.id ≠ x.id).length :=
      List.countP_le_length
    rw [if_neg hfull, hx]
    rw [hrows, List.length_append, List.length_singleton] at hfull
    rw [if_pos (by omega)]

theorem deliveryKept_iff {d : Delivery π} (hpayload : c.KeepsPayload d.payload)
    (htime : c.KeepsTime d.createdAt) :
    DeliveryKept c readAt s d ↔
      (d.url = "" ∧ d.statusCode = 0 ∧ d.error = "" ∧ d.attempts = 0 ∧ d.maxAttempts = 3 ∧
        d.updatedAt = ⟨readAt, none⟩) ∧ notOlder c s d < maxDeliveries := by
  have hget : (addDelivery c s d).deliveries.get? d.id =
      if notOlder c s d < maxDeliveries then some (deliveryRow c d) else none :=
    get?_trimDeliveries s.deliveries (deliveryRow c d)
  rw [DeliveryKept, hget]
  by_cases hnew : notOlder c s d < maxDeliveries
  · rw [if_pos hnew, and_iff_left hnew, Option.map_some, Option.some.injEq, rowToDelivery,
      deliveryRow]
    dsimp only
    rw [hpayload.jsonPayload, DeliveryStatus.ofValue_value, htime.strToDt]
    show Except.ok _ = Except.ok d ↔ _
    rw [Except.ok.injEq]
    obtain ⟨id, hookId, eventType, url, payload, status, statusCode, error, attempts,
      maxAttempts, createdAt, updatedAt⟩ := d
    simp only [Delivery.mk.injEq, true_and, eq_comm]
  · rw [if_neg hnew]
    exact iff_of_false (fun h => by cases h) fun h => hnew h.2

/-- **Rows decode to what was stored**: a node whose load is not NaN, a decision whose numbers
SQLite holds, every hook, and a delivery with nothing in the fields without a column, if it is
not trimmed. -/
theorem rows_decode_iff {node : Node} {decision : Decision} {now : Time}
    {token url secret : String} {events : List EventType} {delivery : Delivery π}
    (hcaps : c.KeepsList node.capabilities) (hbeat : c.KeepsTime node.lastHeartbeat)
    (hdecided : c.KeepsTime decision.timestamp)
    (hevents : c.KeepsList (events.map EventType.value)) (hnow : c.KeepsTime ⟨now, none⟩)
    (hpayload : c.KeepsPayload delivery.payload) (hcreated : c.KeepsTime delivery.createdAt) :
    (NodeKept c readAt s node ↔ node.load ≠ .nan) ∧
      (DecisionKept c readAt s decision ↔
        fits64 decision.priority = true ∧ decision.score ≠ .nan) ∧
      HookKept c readAt s now token url events secret ∧
      (DeliveryKept c readAt s delivery ↔
        (delivery.url = "" ∧ delivery.statusCode = 0 ∧ delivery.error = "" ∧
          delivery.attempts = 0 ∧ delivery.maxAttempts = 3 ∧
          delivery.updatedAt = ⟨readAt, none⟩) ∧
        notOlder c s delivery < maxDeliveries) :=
  ⟨nodeKept_iff hcaps hbeat, decisionKept_iff hdecided, hookKept hevents hnow,
    deliveryKept_iff hpayload hcreated⟩

end Methods

/-! ### A delivery that failed -/

/-- 2026-01-01T00:00:00 -/
def newYear : Time := 63902822400000000

/-- The codec at that time, the empty list and the empty dictionary. -/
def newYearCodec : RowCodec Unit where
  isoformat _ := "2026-01-01T00:00:00"
  fromisoformat _ := some ⟨newYear, none⟩
  dumpsList _ := "[]"
  loadsList _ := some []
  dumpsPayload _ := "\x7b\x7d"
  loadsPayload _ := some ()

theorem keepsTime_newYear : newYearCodec.KeepsTime ⟨newYear, none⟩ := ⟨by decide, rfl⟩

theorem keepsList_nil : newYearCodec.KeepsList [] := ⟨by decide, rfl⟩

def idleNode : Node := { id := "n1", name := "worker", lastHeartbeat := ⟨newYear, none⟩ }

def firstDecision : Decision :=
  { taskId := "task_a", taskTitle := "train", priority := 3, nodeId := "n1", score := .num 1
    reason := "only node", timestamp := ⟨newYear, none⟩ }

def refusedDelivery : Delivery Unit :=
  { id := "deliv_1", hookId := "hook_1", eventType := "task_created", url := "http://127.0.0.1:9/"
    payload := (), status := .failed, statusCode := 503, error := "status 503", attempts := 4
    maxAttempts := 4, createdAt := ⟨newYear, none⟩, updatedAt := ⟨newYear, none⟩ }

/-- It comes back without its address, its answer and its attempts, and a node with a load that
is NaN does not come back at all. -/
theorem delivery_not_kept :
    ¬ DeliveryKept newYearCodec newYear {} refusedDelivery ∧
      ¬ NodeKept newYearCodec newYear {} { idleNode with load := .nan } := by
  refine ⟨?_, ?_⟩
  · rw [DeliveryKept]
    decide +kernel
  · rw [NodeKept]
    decide +kernel

/-- `rows_decode_iff` for empty tables. -/
theorem rows_decode_newYear :
    (NodeKept newYearCodec newYear {} idleNode ↔ idleNode.load ≠ .nan) ∧
      (DecisionKept newYearCodec newYear {} firstDecision ↔
        fits64 firstDecision.priority = true ∧ firstDecision.score ≠ .nan) ∧
      HookKept newYearCodec newYear {} newYear "0a1b" "http://127.0.0.1:9/" [] "" ∧
      (DeliveryKept newYearCodec newYear {} refusedDelivery ↔
        (refusedDelivery.url = "" ∧ refusedDelivery.statusCode = 0 ∧ refusedDelivery.error = "" ∧
          refusedDelivery.attempts = 0 ∧ refusedDelivery.maxAttempts = 3 ∧
          refusedDelivery.updatedAt = ⟨newYear, none⟩) ∧
        notOlder newYearCodec {} refusedDelivery < maxDeliveries) :=
  rows_decode_iff keepsList_nil keepsTime_newYear keepsTime_newYear keepsList_nil
    keepsTime_newYear ⟨by decide, rfl⟩ keepsTime_newYear

end Rows

end HermesCluster
