import HermesCluster.Lib.Autoincrement
import HermesCluster.Lib.Raise
import HermesCluster.Lib.Run
import HermesCluster.State.Rows
import HermesCluster.State.Scheduling

/-!
# The decision log

`record_decision`, `schedule_pending`, `get_decisions` and `get_schedule_stats` of both stores,
with the log apart from the other tables: a list for `ClusterState`, the table
`scheduling_decisions` with its ids for `ClusterStore`.  The calls are written for any way to
record a decision, so that the decisions made so far are what the same calls leave in a log that
is never trimmed (`appended`).

`decisionLog_iff`: the log of a `ClusterState` is always the last 200 decisions, and that of a
`ClusterStore` is if and only if no score recorded in it is NaN.
-/

namespace HermesCluster

namespace DecisionLog

open ClusterState (fits maxDecisions)
open ClusterStore (fits64)
open Rows (Decision bindReal floatOf floatOf_bindReal)
open Run (exec)

/-! ### Statistics -/

/-- An entry of `decisions_by_priority`. -/
structure PriorityCount where
  priority : Int
  count : Nat
deriving DecidableEq, Repr

instance : Keyed PriorityCount Int := ⟨PriorityCount.priority⟩

structure SchedulingStats where
  totalDecisions : Nat
  decisionsByPriority : Table PriorityCount
  lastDecisions : List Decision
deriving DecidableEq

/-- `by_priority[d.priority] = by_priority.get(d.priority, 0) + 1` -/
def countOne (byPriority : Table PriorityCount) (d : Decision) : Table PriorityCount :=
  byPriority.put ⟨d.priority, (byPriority.get? d.priority).elim 0 PriorityCount.count + 1⟩

/-- The statistics of `total` entries that are these decisions. -/
def statsOf (total : Nat) (decisions : List Decision) : SchedulingStats where
  totalDecisions := total
  decisionsByPriority := decisions.foldl countOne Table.empty
  lastDecisions := if decisions ≠ [] then keepLast 10 decisions else []

/-- The sum of the counts. -/
def SchedulingStats.counted (stats : SchedulingStats) : Nat :=
  (stats.decisionsByPriority.rows.map PriorityCount.count).sum

theorem totalDecisions_statsOf (total : Nat) (decisions : List Decision) :
    (statsOf total decisions).totalDecisions = total := rfl

theorem counted_statsOf (total : Nat) (decisions : List Decision) :
    (statsOf total decisions).counted = decisions.length := by
  have hsum := Table.sum_foldl_put PriorityCount.count
    (fun byPriority (d : Decision) =>
      ⟨d.priority, (byPriority.get? d.priority).elim 0 PriorityCount.count + 1⟩)
    (fun _ _ => rfl) decisions Table.empty
  exact hsum.trans (Nat.zero_add _)

/-! ### The calls -/

/-- The tables of a store and its decision log; the field `decisions` of `store` plays no
part. -/
structure Logged (σ L : Type) where
  store : σ
  log : L

/-- A call, or what other methods do to the other tables in between. -/
inductive Op (σ : Type)
  | record (d : Decision)
  | schedule
  | elsewhere (store : σ)

/-- The decision `schedule_pending` makes when it assigns a task. -/
def newDecision (now : Time) (task : Task) (node : Node) : Decision :=
  { taskId := task.id, taskTitle := task.title, priority := task.priority, nodeId := node.id
    score := .num 1, reason := "capability_match", timestamp := ⟨now, none⟩ }

/-- The body of the loop of `schedule_pending` over the ready tasks. -/
def scheduleOne {σ L : Type} (assign : σ → TaskId → NodeId → σ) (record : L → Decision → L)
    (online : List Node) (now : Time) (acc : Nat × Logged σ L) (task : Task) :
    Nat × Logged σ L :=
  match online.find? (fits task.requires) with
  | some node => (acc.1 + 1,
      { store := assign acc.2.store task.id node.id
        log := record acc.2.log (newDecision now task node) })
  | none => acc

/-- Recording in a log that is never trimmed. -/
def appended (log : List Decision) (d : Decision) : List Decision := log ++ [d]

namespace InMemory

/-- `record_decision` on the list. -/
def recordDecision (log : List Decision) (d : Decision) : List Decision :=
  let decisions := log ++ [d]
  if decisions.length > maxDecisions then decisions.drop (decisions.length - maxDecisions)
  else decisions

def getDecisions (log : List Decision) : List Decision := log

def getScheduleStats (log : List Decision) : SchedulingStats := statsOf log.length log

section Calls

variable {L : Type} (record : L → Decision → L)

/-- `schedule_pending` -/
def schedulePending (s : Logged ClusterState L) (now : Time) : Nat × Logged ClusterState L :=
  if s.store.onlineNodes = [] then (0, s)
  else s.store.readyTasks.foldl
    (scheduleOne (fun s t n => s.assignTask now t n) record s.store.onlineNodes now) (0, s)

def step (s : Logged ClusterState L) (i : Time × Op ClusterState) : Logged ClusterState L :=
  match i.2 with
  | .record d => { s with log := record s.log d }
  | .schedule => (schedulePending record s i.1).2
  | .elsewhere store => { s with store := store }

end Calls

/-- The log after a run. -/
def logAfter (store : ClusterState) (run : List (Time × Op ClusterState)) : List Decision :=
  (exec (step recordDecision) ⟨store, []⟩ run).log

/-- The decisions made in a run. -/
def history (store : ClusterState) (run : List (Time × Op ClusterState)) : List Decision :=
  (exec (step appended) ⟨store, []⟩ run).log

end InMemory

namespace Sqlite

/-- A row of `scheduling_decisions`; its id is apart. -/
structure Row where
  taskId : TaskId
  taskTitle : String
  priority : Int
  nodeId : NodeId
  score : Rows.Real
  reason : String
  timestamp : DateTime
deriving DecidableEq

/-- What the columns are bound to. -/
def decisionRow (d : Decision) : Row :=
  { taskId := d.taskId, taskTitle := d.taskTitle, priority := d.priority, nodeId := d.nodeId
    score := bindReal d.score, reason := d.reason, timestamp := d.timestamp }

/-- `_row_to_decision` -/
def rowToDecision (row : Row) : Except PyError Decision := do
  let score ← floatOf "score" row.score
  return { taskId := row.taskId, taskTitle := row.taskTitle, priority := row.priority
           nodeId := row.nodeId, score := score, reason := row.reason
           timestamp := row.timestamp }

/-- The statements of `record_decision`, which stand in `schedule_pending` once more; the
priority bound there comes from a row. -/
def recordDecision (log : Autoincrement Row) (d : Decision) : Autoincrement Row :=
  (log.insert (decisionRow d)).trim maxDecisions

def getDecisions (log : Autoincrement Row) : Except PyError (List Decision) :=
  log.ordered.mapM rowToDecision

def getScheduleStats (log : Autoincrement Row) : Except PyError SchedulingStats := do
  let decisions ← log.scan.mapM rowToDecision
  return statsOf log.scan.length decisions

section Calls

variable {L : Type} (record : L → Decision → L)

/-- `schedule_pending` -/
def schedulePending (s : Logged ClusterStore L) (now : Time) :
    Except PyError (Nat × Logged ClusterStore L) := do
  let online ← s.store.onlineRows.mapM ClusterStore.rowToNode
  if online = [] then return (0, s)
  let ready ← s.store.readyRows.mapM ClusterStore.rowToTask
  return ready.foldl (scheduleOne (fun s t n => s.assignTask now t n) record online now) (0, s)

/-- A call that raises is rolled back: `record_decision` does for a priority that SQLite cannot
bind. -/
def step (s : Logged ClusterStore L) (i : Time × Op ClusterStore) : Logged ClusterStore L :=
  match i.2 with
  | .record d => if fits64 d.priority then { s with log := record s.log d } else s
  | .schedule =>
    match schedulePending record s i.1 with
    | .ok (_, s') => s'
    | .error _ => s
  | .elsewhere store => { s with store := store }

end Calls

/-- The log after a run. -/
def logAfter (store : ClusterStore) (run : List (Time × Op ClusterStore)) : Autoincrement Row :=
  (exec (step recordDecision) ⟨store, Autoincrement.empty⟩ run).log

/-- The decisions made in a run. -/
def history (store : ClusterStore) (run : List (Time × Op ClusterStore)) : List Decision :=
  (exec (step appended) ⟨store, []⟩ run).log

end Sqlite

/-! ### The same calls on two logs -/

section Related

variable {σ L L' : Type} {R : L → L' → Prop} {record : L → Decision → L}
  {record' : L' → Decision → L'}

/-- The same store, with logs that are related. -/
structure Related (R : L → L' → Prop) (s : Logged σ L) (s' : Logged σ L') : Prop where
  store : s.store = s'.store
  log : R s.log s'.log

/-- The loop does not look at the log. -/
theorem foldl_scheduleOne_related (assign : σ → TaskId → NodeId → σ) (online : List Node)
    {now : Time} (hrecord : ∀ l l' task node, R l l' →
      R (record l (newDecision now task node)) (record' l' (newDecision now task node)))
    (tasks : List Task) {s : Logged σ L} {s' : Logged σ L'} (h : Related R s s') :
    (tasks.foldl (scheduleOne assign record online now) (0, s)).1 =
        (tasks.foldl (scheduleOne assign record' online now) (0, s')).1 ∧
      Related R (tasks.foldl (scheduleOne assign record online now) (0, s)).2
        (tasks.foldl (scheduleOne assign record' online now) (0, s')).2 := by
  refine List.foldl_rel (r := fun (acc : Nat × Logged σ L) (acc' : Nat × Logged σ L') =>
    acc.1 = acc'.1 ∧ Related R acc.2 acc'.2) ⟨rfl, h⟩ ?_
  intro task _ acc acc' hacc
  obtain ⟨hcount, hstore, hlog⟩ := hacc
  rw [scheduleOne, scheduleOne]
  cases online.find? (fits task.requires) with
  | none => exact ⟨hcount, hstore, hlog⟩
  | some node =>
    refine ⟨congrArg (· + 1) hcount, ?_, hrecord _ _ task node hlog⟩
    rw [hstore]

namespace InMemory

variable {s : Logged ClusterState L} {s' : Logged ClusterState L'}

theorem schedulePending_related (now : Time) (hrecord : ∀ l l' task node, R l l' →
      R (record l (newDecision now task node)) (record' l' (newDecision now task node)))
    (h : Related R s s') :
    (schedulePending record s now).1 = (schedulePending record' s' now).1 ∧
      Related R (schedulePending record s now).2 (schedulePending record' s' now).2 := by
  rw [schedulePending, schedulePending, h.store]
  split
  · exact ⟨rfl, h⟩
  · exact foldl_scheduleOne_related _ _ hrecord _ h

/-- Calls on related logs, when recording keeps the relation. -/
theorem exec_related (hrecord : ∀ l l' d, R l l' → R (record l d) (record' l' d))
    (run : List (Time × Op ClusterState)) (h : Related R s s') :
    Related R (exec (step record) s run) (exec (step record') s' run) := by
  refine List.foldl_rel h ?_
  rintro ⟨now, op⟩ _ s s' h
  cases op with
  | record d => exact ⟨h.store, hrecord _ _ d h.log⟩
  | schedule => exact (schedulePending_related now (fun l l' _ _ => hrecord l l' _) h).2
  | elsewhere store => exact ⟨rfl, h.log⟩

end InMemory

namespace Sqlite

variable {s : Logged ClusterStore L} {s' : Logged ClusterStore L'}

/-- The pass when there are online nodes. -/
theorem schedulePending_of_online {now : Time} {online : List Node}
    (honline : s.store.onlineRows.mapM ClusterStore.rowToNode = .ok online) (hne : online ≠ []) :
    schedulePending record s now = (s.store.readyRows.mapM ClusterStore.rowToTask).map
      fun ready => ready.foldl
        (scheduleOne (fun s t n => s.assignTask now t n) record online now) (0, s) :=
  ClusterStore.pass_of_online (0, s) (s.store.readyRows.mapM ClusterStore.rowToTask)
    (fun online ready => ready.foldl
      (scheduleOne (fun s t n => s.assignTask now t n) record online now) (0, s)) honline hne

/-- Both passes raise, or neither. -/
theorem schedulePending_related (now : Time) (hrecord : ∀ l l' task node, R l l' →
      R (record l (newDecision now task node)) (record' l' (newDecision now task node)))
    (h : Related R s s') :
    (∃ e, schedulePending record s now = .error e ∧ schedulePending record' s' now = .error e) ∨
      ∃ n t t', schedulePending record s now = .ok (n, t) ∧
        schedulePending record' s' now = .ok (n, t') ∧ Related R t t' := by
  cases honline : s'.store.onlineRows.mapM ClusterStore.rowToNode with
  | error e =>
    rw [schedulePending, schedulePending, h.store, honline]
    exact .inl ⟨e, rfl, rfl⟩
  | ok online =>
    by_cases hne : online = []
    · rw [schedulePending, schedulePending, h.store, honline, hne]
      exact .inr ⟨0, s, s', rfl, rfl, h⟩
    · rw [schedulePending_of_online (h.store ▸ honline) hne, h.store,
        schedulePending_of_online honline hne]
      cases s'.store.readyRows.mapM ClusterStore.rowToTask with
      | error e => exact .inl ⟨e, rfl, rfl⟩
      | ok ready =>
        obtain ⟨hcount, hrelated⟩ := foldl_scheduleOne_related
          (fun s t n => s.assignTask now t n) online hrecord ready h
        exact .inr ⟨_, _, _, rfl, congrArg Except.ok (Prod.ext hcount.symm rfl), hrelated⟩

/-- What recording keeps, a pass keeps. -/
theorem schedulePending_keeps {P : L → Prop} {now : Time} {n : Nat} {t : Logged ClusterStore L}
    (hrecord : ∀ l task node, P l → P (record l (newDecision now task node))) (h : P s.log)
    (ht : schedulePending record s now = .ok (n, t)) : P t.log := by
  -- the pass beside itself
  rcases @schedulePending_related L L (fun l _ => P l) record record s s now
    (fun l _ task node => hrecord l task node) ⟨rfl, h⟩ with ⟨e, he, -⟩ | ⟨n', t', t'', ht', -, hp⟩
  · rw [ht] at he
    cases he
  · rw [ht] at ht'
    obtain rfl : t = t' := congrArg Prod.snd (Except.ok.inj ht')
    exact hp.log

/-- Calls on related logs, when recording keeps the relation. -/
theorem exec_related (hrecord : ∀ l l' d, R l l' → R (record l d) (record' l' d))
    (run : List (Time × Op ClusterStore)) (h : Related R s s') :
    Related R (exec (step record) s run) (exec (step record') s' run) := by
  refine List.foldl_rel h ?_
  rintro ⟨now, op⟩ _ s s' h
  cases op with
  | record d =>
    show Related R (if fits64 d.priority then _ else _) (if fits64 d.priority then _ else _)
    split
    · exact ⟨h.store, hrecord _ _ d h.log⟩
    · exact h
  | schedule =>
    rcases schedulePending_related now (fun l l' _ _ => hrecord l l' _) h with
      ⟨e, he, he'⟩ | ⟨n, t, t', ht, ht', hrelated⟩
    · simp only [step, he, he']
      exact h
    · simp only [step, ht, ht']
      exact hrelated
  | elsewhere store => exact ⟨rfl, h.log⟩

end Sqlite

end Related

/-! ### The law -/

/-- What the two readers return when these are the decisions made so far: the last 200 of them,
and statistics that count these. -/
structure ShowsLast (history : List Decision) (decisions : Except PyError (List Decision))
    (stats : Except PyError SchedulingStats) : Prop where
  decisions : decisions = .ok (keepLast maxDecisions history)
  length : (keepLast maxDecisions history).length = min history.length 200
  stats : ∃ shown, stats = .ok shown ∧ shown.totalDecisions = min history.length 200 ∧
    shown.counted = min history.length 200

theorem length_keepLast {α : Type*} (n : Nat) (l : List α) :
    (keepLast n l).length = min l.length n := by
  rw [keepLast, List.length_drop]
  omega

theorem keepLast_nil {α : Type*} (n : Nat) : keepLast n ([] : List α) = [] := List.drop_nil

theorem map_keepLast {α β : Type*} (f : α → β) (n : Nat) (l : List α) :
    (keepLast n l).map f = keepLast n (l.map f) := by
  rw [keepLast, keepLast, List.map_drop, List.length_map]

/-- Both readers, of a log that shows the last decisions. -/
theorem showsLast_of_eq {history : List Decision} {decisions : Except PyError (List Decision)}
    {stats : Except PyError SchedulingStats}
    (hdecisions : decisions = .ok (keepLast maxDecisions history))
    (hstats : stats = .ok (statsOf (keepLast maxDecisions history).length
      (keepLast maxDecisions history))) : ShowsLast history decisions stats := by
  have hlength : (keepLast maxDecisions history).length = min history.length 200 :=
    length_keepLast maxDecisions history
  refine ⟨hdecisions, hlength, _, hstats, ?_, ?_⟩
  · rw [totalDecisions_statsOf, hlength]
  · rw [counted_statsOf, hlength]

namespace InMemory

theorem recordDecision_keepLast (history : List Decision) (d : Decision) :
    recordDecision (keepLast maxDecisions history) d =
      keepLast maxDecisions (appended history d) := by
  rw [recordDecision, appended, ← keepLast_append, ← keepLast_eq]

/-- The list is the last 200 decisions. -/
theorem logAfter_eq (store : ClusterState) (run : List (Time × Op ClusterState)) :
    logAfter store run = keepLast maxDecisions (history store run) := by
  have hstart : Related (fun log history => log = keepLast maxDecisions history)
      (⟨store, []⟩ : Logged ClusterState (List Decision)) ⟨store, []⟩ :=
    ⟨rfl, (keepLast_nil maxDecisions).symm⟩
  refine (exec_related ?_ run hstart).log
  intro log history d hlog
  rw [hlog, recordDecision_keepLast]

theorem showsLast (store : ClusterState) (run : List (Time × Op ClusterState)) :
    ShowsLast (history store run) (.ok (getDecisions (logAfter store run)))
      (.ok (getScheduleStats (logAfter store run))) := by
  refine showsLast_of_eq ?_ ?_
  · rw [getDecisions, logAfter_eq]
  · rw [getScheduleStats, logAfter_eq]

end InMemory

namespace Sqlite

variable {store : ClusterStore} {run : List (Time × Op ClusterStore)}

theorem scan_recordDecision (log : Autoincrement Row) (d : Decision) :
    (recordDecision log d).scan = keepLast maxDecisions (log.scan ++ [decisionRow d]) := by
  rw [recordDecision, Autoincrement.scan_trim, Autoincrement.scan_insert, keepLast]

/-- The rows are those of the last 200 decisions. -/
theorem scan_logAfter (store : ClusterStore) (run : List (Time × Op ClusterStore)) :
    (logAfter store run).scan =
      (keepLast maxDecisions (history store run)).map decisionRow := by
  have hstart : Related (fun (log : Autoincrement Row) history =>
        log.scan = (keepLast maxDecisions history).map decisionRow)
      (⟨store, Autoincrement.empty⟩ : Logged ClusterStore (Autoincrement Row)) ⟨store, []⟩ := by
    refine ⟨rfl, ?_⟩
    rw [keepLast_nil]
    rfl
  refine (exec_related ?_ run hstart).log
  intro log history d hlog
  rw [scan_recordDecision, hlog, map_keepLast, keepLast_append, map_keepLast, appended,
    List.map_append, List.map_singleton]

theorem rowToDecision_iff (d : Decision) :
    rowToDecision (decisionRow d) = .ok d ↔ d.score ≠ .nan := by
  rw [rowToDecision, decisionRow]
  by_cases hnan : d.score = .nan
  · rw [hnan]
    exact iff_of_false (fun h => by cases h) (not_not.mpr rfl)
  · dsimp only
    rw [floatOf_bindReal "score" hnan]
    exact iff_of_true rfl hnan

theorem mapM_rowToDecision_iff (decisions : List Decision) :
    (decisions.map decisionRow).mapM rowToDecision = .ok decisions ↔
      ∀ d ∈ decisions, d.score ≠ .nan := by
  refine ⟨fun h d hd hnan => ?_, fun h => ?_⟩
  · have herror : ∃ e, rowToDecision (decisionRow d) = .error e := by
      refine ⟨.valueError "score should be a valid number", ?_⟩
      rw [rowToDecision, decisionRow, hnan]
      rfl
    obtain ⟨e, he⟩ := herror
    obtain ⟨e', he'⟩ := Raise.mapM_error (List.mem_map_of_mem hd) he
    rw [he'] at h
    cases h
  · induction decisions with
    | nil => rfl
    | cons d decisions ih =>
      rw [List.map_cons, List.mapM_cons,
        (rowToDecision_iff d).mpr (h d List.mem_cons_self),
        ih fun d' hd' => h d' (List.mem_cons_of_mem d hd')]
      rfl

/-- The readers show the log exactly when no score in it is NaN. -/
theorem showsLast_iff_mem : ShowsLast (history store run) (getDecisions (logAfter store run))
      (getScheduleStats (logAfter store run)) ↔
    ∀ d ∈ keepLast maxDecisions (history store run), d.score ≠ .nan := by
  have hread : getDecisions (logAfter store run) =
      ((keepLast maxDecisions (history store run)).map decisionRow).mapM rowToDecision := by
    rw [getDecisions, Autoincrement.ordered_eq, scan_logAfter]
  refine ⟨fun h => ?_, fun h => showsLast_of_eq ?_ ?_⟩
  · rw [← mapM_rowToDecision_iff, ← hread, h.decisions]
  · rw [hread, (mapM_rowToDecision_iff _).mpr h]
  · rw [getScheduleStats, scan_logAfter, (mapM_rowToDecision_iff _).mpr h, List.length_map]
    rfl

/-- A decision that has just been recorded is in the log. -/
theorem mem_keepLast_record {l : List (Time × Op ClusterStore)} {now : Time} {d : Decision}
    (hfits : fits64 d.priority = true) :
    d ∈ keepLast maxDecisions (history store (l ++ [(now, .record d)])) := by
  have hstep : history store (l ++ [(now, .record d)]) = history store l ++ [d] := by
    rw [history, Run.exec_concat]
    show (if fits64 d.priority then _ else _ : Logged ClusterStore (List Decision)).log = _
    rw [if_pos hfits]
    rfl
  have hpos : 0 < maxDecisions := by decide
  rw [hstep, keepLast, List.length_append, List.length_singleton,
    List.drop_append_of_le_length (by omega)]
  exact List.mem_append_right _ (List.mem_singleton_self d)

/-- Every decision made was recorded, or comes from the scheduler with the score 1. -/
theorem history_score (hrun : ∀ now d, (now, Op.record d) ∈ run → fits64 d.priority = true →
      d.score ≠ .nan) : ∀ d ∈ history store run, d.score ≠ .nan := by
  have hnew : ∀ (log : List Decision) d, (∀ d ∈ log, d.score ≠ .nan) → d.score ≠ .nan →
      ∀ d' ∈ appended log d, d'.score ≠ .nan := by
    intro log d hlog hd d' hd'
    rcases List.mem_append.mp hd' with hd' | hd'
    · exact hlog d' hd'
    · rw [List.mem_singleton.mp hd']
      exact hd
  have hexec : ∀ s : Logged ClusterStore (List Decision), (∀ d ∈ s.log, d.score ≠ .nan) →
      ∀ d ∈ (exec (step appended) s run).log, d.score ≠ .nan := by
    induction run with
    | nil => exact fun s hs => hs
    | cons i run ih =>
      intro s hs
      refine ih (fun now d hd => hrun now d (List.mem_cons_of_mem i hd)) _ ?_
      obtain ⟨now, op⟩ := i
      cases op with
      | record d =>
        show ∀ d' ∈ (if fits64 d.priority then _ else _ : Logged _ (List Decision)).log, _
        split
        · rename_i hfits
          exact hnew s.log d hs (hrun now d List.mem_cons_self hfits)
        · exact hs
      | schedule =>
        rw [step]
        dsimp only
        split
        · rename_i n t ht
          exact schedulePending_keeps (P := fun log => ∀ d ∈ log, d.score ≠ .nan)
            (fun log task node hlog => hnew log _ hlog (fun h => by cases h)) hs ht
        · exact hs
      | elsewhere store => exact hs
  exact hexec ⟨store, []⟩ fun d hd => absurd hd List.not_mem_nil

theorem showsLast_iff : (∀ l, l <+: run → ShowsLast (history store l)
      (getDecisions (logAfter store l)) (getScheduleStats (logAfter store l))) ↔
    ∀ now d, (now, Op.record d) ∈ run → fits64 d.priority = true → d.score ≠ .nan := by
  refine ⟨fun h now d hd hfits => ?_, fun h l hl => ?_⟩
  · obtain ⟨l, m, rfl⟩ := List.append_of_mem hd
    have hprefix : l ++ [(now, Op.record d)] <+: l ++ (now, Op.record d) :: m :=
      ⟨m, by rw [List.append_assoc, List.singleton_append]⟩
    exact showsLast_iff_mem.mp (h _ hprefix) d (mem_keepLast_record hfits)
  · refine showsLast_iff_mem.mpr fun d hd => ?_
    exact history_score (fun now d hd => h now d (hl.subset hd)) d (List.mem_of_mem_drop hd)

end Sqlite

/-- **The decision log is the last 200 decisions**, in every state of every run of a
`ClusterState`; of a `ClusterStore` exactly in the runs that record no score that is NaN. -/
theorem decisionLog_iff (state : ClusterState) (stateRun : List (Time × Op ClusterState))
    (store : ClusterStore) (storeRun : List (Time × Op ClusterStore)) :
    (∀ l, l <+: stateRun →
      ShowsLast (InMemory.history state l) (.ok (InMemory.getDecisions (InMemory.logAfter state l)))
        (.ok (InMemory.getScheduleStats (InMemory.logAfter state l)))) ∧
    ((∀ l, l <+: storeRun → ShowsLast (Sqlite.history store l)
        (Sqlite.getDecisions (Sqlite.logAfter store l))
        (Sqlite.getScheduleStats (Sqlite.logAfter store l))) ↔
      ∀ now d, (now, Op.record d) ∈ storeRun → fits64 d.priority = true → d.score ≠ .nan) :=
  ⟨fun l _ => InMemory.showsLast state l, Sqlite.showsLast_iff⟩

def nanDecision : Decision := { Rows.firstDecision with score := .nan }

/-- A score that is NaN is stored as NULL: a `ClusterState` shows the decision, and of a
`ClusterStore` neither reader returns from then on. -/
theorem nan_score_unread :
    InMemory.getDecisions (InMemory.logAfter {} [(Rows.newYear, .record nanDecision)]) =
        [nanDecision] ∧
      Sqlite.getDecisions (Sqlite.logAfter {} [(Rows.newYear, .record nanDecision)]) =
        .error (.valueError "score should be a valid number") ∧
      Sqlite.getScheduleStats (Sqlite.logAfter {} [(Rows.newYear, .record nanDecision)]) =
        .error (.valueError "score should be a valid number") ∧
      ¬ ∀ l, l <+: [(Rows.newYear, Op.record nanDecision)] → ShowsLast (Sqlite.history {} l)
        (Sqlite.getDecisions (Sqlite.logAfter {} l))
        (Sqlite.getScheduleStats (Sqlite.logAfter {} l)) := by
  have hdecisions :
      Sqlite.getDecisions (Sqlite.logAfter {} [(Rows.newYear, .record nanDecision)]) =
        .error (.valueError "score should be a valid number") := by decide +kernel
  refine ⟨by decide +kernel, hdecisions, by decide +kernel, fun h => ?_⟩
  have hshown := (h _ (List.prefix_refl _)).decisions
  rw [hdecisions] at hshown
  cases hshown

/-! ### The log of the other models -/

/-- The decision as `ClusterState` and `ClusterStore` keep it elsewhere. -/
def ofScheduling (d : SchedulingDecision) : Decision :=
  { taskId := d.taskId, taskTitle := d.taskTitle, priority := d.priority, nodeId := d.nodeId
    score := .num d.score, reason := d.reason, timestamp := ⟨d.timestamp, none⟩ }

/-- A loop over another store counts the same and agrees afterwards, if each turn that assigns
a task does. -/
theorem foldl_scheduleOne_agrees {σ L τ : Type} {A : Logged σ L → τ → Prop}
    {assign : σ → TaskId → NodeId → σ} {record : L → Decision → L} {online : List Node}
    {now : Time} {f : Nat × τ → Task → Nat × τ}
    (hnone : ∀ acc task, online.find? (fits task.requires) = none → f acc task = acc)
    (hsome : ∀ s acc task node, online.find? (fits task.requires) = some node → A s acc.2 →
      (f acc task).1 = acc.1 + 1 ∧ A { store := assign s.store task.id node.id
                                       log := record s.log (newDecision now task node) }
        (f acc task).2)
    (tasks : List Task) {s : Logged σ L} {t : τ} (h : A s t) :
    (tasks.foldl (scheduleOne assign record online now) (0, s)).1 = (tasks.foldl f (0, t)).1 ∧
      A (tasks.foldl (scheduleOne assign record online now) (0, s)).2
        (tasks.foldl f (0, t)).2 := by
  refine List.foldl_rel (r := fun (acc : Nat × Logged σ L) (acc' : Nat × τ) =>
    acc.1 = acc'.1 ∧ A acc.2 acc'.2) ⟨rfl, h⟩ ?_
  rintro task - acc acc' ⟨hcount, hacc⟩
  rw [scheduleOne]
  cases hfind : online.find? (fits task.requires) with
  | none =>
    rw [hnone acc' task hfind]
    exact ⟨hcount, hacc⟩
  | some node =>
    obtain ⟨hone, hagrees⟩ := hsome acc.2 acc' task node hfind hacc
    refine ⟨?_, hagrees⟩
    rw [hone, ← hcount]

namespace InMemory

variable {s : Logged ClusterState (List Decision)} {t : ClusterState}

/-- The same nodes, tasks and decisions. -/
structure Agrees (s : Logged ClusterState (List Decision)) (t : ClusterState) : Prop where
  nodes : s.store.nodes = t.nodes
  tasks : s.store.tasks = t.tasks
  log : s.log = t.decisions.map ofScheduling

theorem Agrees.recordDecision (h : Agrees s t) (d : SchedulingDecision) :
    Agrees { s with log := recordDecision s.log (ofScheduling d) } (t.recordDecision d) := by
  refine ⟨h.nodes, h.tasks, ?_⟩
  rw [ClusterState.decisions_recordDecision, recorded, if_neg (List.cons_ne_nil d []),
    map_keepLast, List.map_append, ← h.log, List.map_singleton, keepLast_eq]
  rfl

theorem Agrees.assignTask (h : Agrees s t) (now : Time) (k : TaskId) (n : NodeId) :
    Agrees { s with store := s.store.assignTask now k n } (t.assignTask now k n) := by
  refine ⟨h.nodes, ?_, h.log⟩
  rw [ClusterState.assignTask, ClusterState.assignTask, h.tasks]

/-- `schedule_pending` counts and logs the same. -/
theorem Agrees.schedulePending (h : Agrees s t) (now : Time) :
    (schedulePending InMemory.recordDecision s now).1 = (t.schedulePending now).1 ∧
      Agrees (schedulePending InMemory.recordDecision s now).2 (t.schedulePending now).2 := by
  have honline : s.store.onlineNodes = t.onlineNodes := by
    rw [ClusterState.onlineNodes, ClusterState.onlineNodes, h.nodes]
  have hready : s.store.readyTasks = t.readyTasks := by
    rw [ClusterState.readyTasks, ClusterState.readyTasks, h.tasks]
  rw [InMemory.schedulePending, ClusterState.schedulePending, honline, hready]
  split
  · exact ⟨rfl, h⟩
  · refine foldl_scheduleOne_agrees ?_ ?_ _ h
    · intro acc task hfind
      rw [ClusterState.scheduleOne, hfind]
    · intro s acc task node hfind hacc
      rw [ClusterState.scheduleOne, hfind]
      exact ⟨rfl, (hacc.assignTask now task.id node.id).recordDecision
        { taskId := task.id, taskTitle := task.title, priority := task.priority
          nodeId := node.id, score := 1, reason := "capability_match", timestamp := now }⟩

end InMemory

namespace Sqlite

variable {s : Logged ClusterStore (Autoincrement Row)} {t : ClusterStore}

/-- The same nodes and tasks, and the rows of the same decisions. -/
structure Agrees (s : Logged ClusterStore (Autoincrement Row)) (t : ClusterStore) : Prop where
  nodes : s.store.nodes = t.nodes
  tasks : s.store.tasks = t.tasks
  log : s.log.scan = t.decisions.map fun d => decisionRow (ofScheduling d)

theorem Agrees.recordDecision (h : Agrees s t) (d : SchedulingDecision) :
    Agrees { s with log := recordDecision s.log (ofScheduling d) } (t.recordDecision d) := by
  refine ⟨h.nodes, h.tasks, ?_⟩
  rw [ClusterStore.decisions_recordDecision, recorded, if_neg (List.cons_ne_nil d []),
    map_keepLast, List.map_append, ← h.log, List.map_singleton, ← scan_recordDecision]

theorem Agrees.assignTask (h : Agrees s t) (now : Time) (k : TaskId) (n : NodeId) :
    Agrees { s with store := s.store.assignTask now k n } (t.assignTask now k n) := by
  refine ⟨h.nodes, ?_, h.log⟩
  rw [ClusterStore.assignTask, ClusterStore.assignTask, h.tasks]

/-- A turn that assigns a task. -/
theorem Agrees.scheduleOne (h : Agrees s t) {online : List Node} {now : Time} {task : Task}
    {node : Node} (hfind : online.find? (fits task.requires) = some node) (count : Nat) :
    (ClusterStore.scheduleOne online now (count, t) task).1 = count + 1 ∧
      Agrees
        { store := s.store.assignTask now task.id node.id
          log := Sqlite.recordDecision s.log (newDecision now task node) }
        (ClusterStore.scheduleOne online now (count, t) task).2 := by
  rw [ClusterStore.scheduleOne, hfind]
  exact ⟨rfl, (h.assignTask now task.id node.id).recordDecision
    { taskId := task.id, taskTitle := task.title, priority := task.priority
      nodeId := node.id, score := 1, reason := "capability_match", timestamp := now }⟩

/-- The loop over the ready tasks. -/
theorem Agrees.foldl_scheduleOne (h : Agrees s t) (online : List Node) (now : Time)
    (ready : List Task) :
    (ready.foldl (DecisionLog.scheduleOne (fun s t n => s.assignTask now t n)
        Sqlite.recordDecision online now) (0, s)).1 =
      (ready.foldl (ClusterStore.scheduleOne online now) (0, t)).1 ∧
    Agrees (ready.foldl (DecisionLog.scheduleOne (fun s t n => s.assignTask now t n)
        Sqlite.recordDecision online now) (0, s)).2
      (ready.foldl (ClusterStore.scheduleOne online now) (0, t)).2 := by
  refine foldl_scheduleOne_agrees ?_ ?_ ready h
  · intro acc task hfind
    rw [ClusterStore.scheduleOne, hfind]
  · exact fun s acc task node hfind hacc => hacc.scheduleOne hfind acc.1

/-- `schedule_pending` raises the same, or counts and logs the same. -/
theorem Agrees.schedulePending (h : Agrees s t) (now : Time) :
    (∃ e, schedulePending Sqlite.recordDecision s now = .error e ∧
        t.schedulePending now = .error e) ∨
      ∃ n s' t', schedulePending Sqlite.recordDecision s now = .ok (n, s') ∧
        t.schedulePending now = .ok (n, t') ∧ Agrees s' t' := by
  have honline : s.store.onlineRows = t.onlineRows := by
    rw [ClusterStore.onlineRows, ClusterStore.onlineRows, h.nodes]
  have hready : s.store.readyRows = t.readyRows := by
    rw [ClusterStore.readyRows, ClusterStore.readyRows, h.tasks]
  cases hread : t.onlineRows.mapM ClusterStore.rowToNode with
  | error e =>
    rw [Sqlite.schedulePending, ClusterStore.schedulePending, honline, hread]
    exact .inl ⟨e, rfl, rfl⟩
  | ok online =>
    by_cases hne : online = []
    · rw [Sqlite.schedulePending, ClusterStore.schedulePending, honline, hread, hne]
      exact .inr ⟨0, s, t, rfl, rfl, h⟩
    · rw [schedulePending_of_online (honline ▸ hread) hne, hready,
        ClusterStore.schedulePending_of_online hread hne]
      cases t.readyRows.mapM ClusterStore.rowToTask with
      | error e => exact .inl ⟨e, rfl, rfl⟩
      | ok ready =>
        obtain ⟨hcount, hagrees⟩ := h.foldl_scheduleOne online now ready
        exact .inr ⟨_, _, _, rfl, congrArg Except.ok (Prod.ext hcount.symm rfl), hagrees⟩

end Sqlite

end DecisionLog

end HermesCluster
