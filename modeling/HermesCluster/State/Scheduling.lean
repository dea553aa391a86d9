import HermesCluster.State.StoreSpec
import HermesCluster.State.TaskSpec

/-!
# `schedule_pending` in both stores

`SchedulesAll` says what a pass of the scheduler is to do with a table of tasks, a table of
nodes and the decision log, for any kind of task record: `view` reads a record as a task.
`schedulesAll_of` shows it of a loop that goes through the ready tasks in order.

The two loops differ only in the record they update: `ClusterState` holds tasks and
`ClusterStore` rows.  A `ClusterStore` has to read its rows first, and raises if it cannot.
-/

namespace HermesCluster

open ClusterState (fits scheduledBefore)

/-! ### The decision log -/

/-- The last `n` entries of a list. -/
def keepLast {α : Type*} (n : Nat) (l : List α) : List α := l.drop (l.length - n)

theorem keepLast_eq {α : Type*} (n : Nat) (l : List α) :
    keepLast n l = if l.length > n then l.drop (l.length - n) else l := by
  rw [keepLast]
  split
  · rfl
  · rename_i h
    rw [Nat.sub_eq_zero_of_le (not_lt.mp h), List.drop_zero]

theorem keepLast_append {α : Type*} (n : Nat) (l l' : List α) :
    keepLast n (keepLast n l ++ l') = keepLast n (l ++ l') := by
  obtain ⟨k, hk⟩ : ∃ k, l.length - n = k := ⟨_, rfl⟩
  have hle : k ≤ l.length := by omega
  have hsplit : l.drop k ++ l' = (l ++ l').drop k := (List.drop_append_of_le_length hle).symm
  rw [keepLast, keepLast, keepLast, hk, hsplit, List.drop_drop, List.length_drop,
    List.length_append]
  congr 1
  omega

/-- The log after `new` has been recorded: it is trimmed to the last 200 whenever something
is. -/
def recorded (log new : List SchedulingDecision) : List SchedulingDecision :=
  if new = [] then log else keepLast ClusterState.maxDecisions (log ++ new)

theorem recorded_nil (log : List SchedulingDecision) : recorded log [] = log := if_pos rfl

/-- Recording one decision and then others. -/
theorem recorded_cons (log : List SchedulingDecision) (d : SchedulingDecision)
    (new : List SchedulingDecision) :
    recorded (recorded log [d]) new = recorded log (d :: new) := by
  rw [recorded, recorded, recorded, if_neg (List.cons_ne_nil d new),
    if_neg (List.cons_ne_nil d [])]
  by_cases h : new = []
  · rw [if_pos h, h]
  · rw [if_neg h, keepLast_append, List.append_assoc, List.singleton_append]

theorem ClusterState.decisions_recordDecision (s : ClusterState) (d : SchedulingDecision) :
    (s.recordDecision d).decisions = recorded s.decisions [d] := by
  rw [recorded, if_neg (List.cons_ne_nil d []), keepLast_eq, recordDecision]

theorem ClusterStore.decisions_recordDecision (s : ClusterStore) (d : SchedulingDecision) :
    (s.recordDecision d).decisions = recorded s.decisions [d] := by
  rw [recorded, if_neg (List.cons_ne_nil d []), keepLast_eq, recordDecision]

/-- The decision the loop takes for a ready task. -/
def decisionFor (online : List Node) (now : Time) (x : Task) : Option SchedulingDecision :=
  (online.find? (fits x.requires)).map fun node =>
    { taskId := x.id, taskTitle := x.title, priority := x.priority, nodeId := node.id,
      score := 1, reason := "capability_match", timestamp := now }

/-- A loop that counts and records what it decides. -/
theorem foldl_decisions {σ : Type*} (log : σ → List SchedulingDecision) {online : List Node}
    {now : Time} {f : Nat × σ → Task → Nat × σ}
    (hf : ∀ acc x, (f acc x).1 = acc.1 + (decisionFor online now x).toList.length ∧
      log (f acc x).2 = recorded (log acc.2) (decisionFor online now x).toList) :
    ∀ (l : List Task) (acc : Nat × σ),
      (l.foldl f acc).1 = acc.1 + (l.filterMap (decisionFor online now)).length ∧
      log (l.foldl f acc).2 = recorded (log acc.2) (l.filterMap (decisionFor online now)) := by
  intro l
  induction l with
  | nil => exact fun acc => ⟨rfl, rfl⟩
  | cons x l ih =>
    intro acc
    obtain ⟨hcount, hlog⟩ := hf acc x
    obtain ⟨hcount', hlog'⟩ := ih (f acc x)
    rw [List.foldl_cons, hcount', hlog', hcount, hlog]
    cases hd : decisionFor online now x with
    | none =>
      rw [List.filterMap_cons_none hd, Option.toList_none, recorded_nil]
      exact ⟨rfl, rfl⟩
    | some d =>
      rw [List.filterMap_cons_some hd, Option.toList_some, recorded_cons, List.length_cons]
      refine ⟨?_, rfl⟩
      rw [List.length_cons, List.length_nil]
      omega

/-! ### What a pass of the scheduler is to do -/

/-- `x` runs on a registered online node that has all its capabilities. -/
def RunsSuitably (nodes : Table Node) (x : Task) : Prop :=
  x.status = .running ∧ ∃ n node, x.assignedTo = some n ∧ nodes.get? n = some node ∧
    node.status = .online ∧ ∀ cap ∈ x.requires, cap ∈ node.capabilities

/-- `x` is ready, and an online node has all its capabilities. -/
def Placeable (nodes : Table Node) (x : Task) : Prop :=
  x.status = .ready ∧ ∃ node ∈ nodes.rows, node.status = .online ∧
    ∀ cap ∈ x.requires, cap ∈ node.capabilities

/-- A pass over the tasks `before` that leaves `after`, extends the log and returns `count`:
every placeable task is placed and no other changes, `count` is the number of tasks that
changed, and there is one decision for each of them, in the order of the scheduler. -/
structure SchedulesAll {ρ : Type*} [Keyed ρ TaskId] [DecidableEq ρ] (view : ρ → Task)
    (nodes : Table Node) (before after : Table ρ) (log log' : List SchedulingDecision)
    (count : Nat) : Prop where
  placed : ∀ k r, before.get? k = some r → Placeable nodes (view r) →
    ∃ r', after.get? k = some r' ∧ RunsSuitably nodes (view r') ∧
      (view r').requires = (view r).requires ∧ (view r').version = (view r).version + 1
  others : ∀ k, (∀ r, before.get? k = some r → ¬ Placeable nodes (view r)) →
    after.get? k = before.get? k
  counted : count = before.keys.countP (fun k => after.get? k ≠ before.get? k)
  logged : ∃ new, log' = recorded log new ∧ (new.map SchedulingDecision.taskId).Nodup ∧
    (∀ k, k ∈ new.map SchedulingDecision.taskId ↔ after.get? k ≠ before.get? k) ∧
    (∀ d ∈ new, ∃ r', after.get? d.taskId = some r' ∧ (view r').assignedTo = some d.nodeId) ∧
    new.Pairwise (fun d e => ∀ x y, before.get? d.taskId = some x →
      before.get? e.taskId = some y → scheduledBefore (view x) (view y))

theorem fits_iff {requires : List Capability} {node : Node} :
    fits requires node = true ↔ ∀ cap ∈ requires, cap ∈ node.capabilities := by
  rw [fits]
  by_cases h : requires = []
  · simp [h]
  · simp [h]

section Pass

variable {ρ : Type*} [Keyed ρ TaskId] {view : ρ → Task} {nodes : Table Node}
  {before after : Table ρ} {assign : NodeId → ρ → ρ} {now : Time} {l : List Task}

/-- The online nodes. -/
def onlineOf (nodes : Table Node) : List Node := nodes.rows.filter (·.status = .online)

theorem mem_onlineOf {node : Node} :
    node ∈ onlineOf nodes ↔ node ∈ nodes.rows ∧ node.status = .online := by
  rw [onlineOf, List.mem_filter, decide_eq_true_eq]

/-- The node the loop stops at is registered, online and fits. -/
theorem find?_online {requires : List Capability} {node : Node}
    (h : (onlineOf nodes).find? (fits requires) = some node) :
    nodes.get? node.id = some node ∧ node.status = .online ∧
      ∀ cap ∈ requires, cap ∈ node.capabilities := by
  have hmem := mem_onlineOf.mp (List.mem_of_find?_eq_some h)
  exact ⟨Table.get?_of_mem hmem.1, hmem.2, fits_iff.mp (List.find?_some h)⟩

theorem placeable_iff {x : Task} : Placeable nodes x ↔
    x.status = .ready ∧ ((onlineOf nodes).find? (fits x.requires)).isSome := by
  rw [Placeable, List.find?_isSome]
  refine and_congr_right fun _ => ⟨?_, ?_⟩
  · rintro ⟨node, hmem, honline, hcaps⟩
    exact ⟨node, mem_onlineOf.mpr ⟨hmem, honline⟩, fits_iff.mpr hcaps⟩
  · rintro ⟨node, hmem, hfits⟩
    obtain ⟨hmem, honline⟩ := mem_onlineOf.mp hmem
    exact ⟨node, hmem, honline, fits_iff.mp hfits⟩

/-- The tasks a decision is taken for. -/
theorem map_taskId_decisions (now : Time) (online : List Node) (l : List Task) :
    (l.filterMap (decisionFor online now)).map SchedulingDecision.taskId =
      (l.filter fun x => (online.find? (fits x.requires)).isSome).map Task.id := by
  induction l with
  | nil => rfl
  | cons x l ih =>
    cases hf : online.find? (fits x.requires) with
    | none =>
      have hd : decisionFor online now x = none := by rw [decisionFor, hf]; rfl
      rw [List.filterMap_cons_none hd, ih, List.filter_cons_of_neg (by rw [hf]; decide)]
    | some node =>
      have hd : ∃ d, decisionFor online now x = some d ∧ d.taskId = x.id := by
        rw [decisionFor, hf]
        exact ⟨_, rfl, rfl⟩
      obtain ⟨d, hd, hid⟩ := hd
      rw [List.filterMap_cons_some hd, List.map_cons, ih, hid,
        List.filter_cons_of_pos (by rw [hf]; rfl), List.map_cons]

/-- What the loop does to a record of the table. -/
def placedRecord (nodes : Table Node) (view : ρ → Task) (assign : NodeId → ρ → ρ) (r : ρ) : ρ :=
  if (view r).status = .ready then
    ((onlineOf nodes).find? (fits (view r).requires)).elim r fun node => assign node.id r
  else r

omit [Keyed ρ TaskId] in
theorem placedRecord_of_not {r : ρ} (h : ¬ Placeable nodes (view r)) :
    placedRecord nodes view assign r = r := by
  rw [placeable_iff] at h
  rw [placedRecord]
  split
  · rename_i hr
    cases hf : (onlineOf nodes).find? (fits (view r).requires) with
    | none => rfl
    | some node => exact absurd ⟨hr, by rw [hf]; rfl⟩ h
  · rfl

omit [Keyed ρ TaskId] in
theorem placedRecord_of_find {r : ρ} {node : Node} (hr : (view r).status = .ready)
    (hf : (onlineOf nodes).find? (fits (view r).requires) = some node) :
    placedRecord nodes view assign r = assign node.id r := by
  rw [placedRecord, if_pos hr, hf]
  rfl

/-- The records that change are those of the placeable tasks. -/
theorem changed_iff
    (hget : ∀ k, after.get? k = (before.get? k).map (placedRecord nodes view assign))
    (hassign : ∀ k r n, before.get? k = some r → Placeable nodes (view r) →
      view (assign n r) = ClusterState.assignedOn now n (view r)) (k : TaskId) :
    after.get? k ≠ before.get? k ↔ ∃ r, before.get? k = some r ∧ Placeable nodes (view r) := by
  rw [hget]
  cases hk : before.get? k with
  | none => simp
  | some r =>
    rw [Option.map_some]
    by_cases hp : Placeable nodes (view r)
    · refine iff_of_true (fun heq => ?_) ⟨r, rfl, hp⟩
      obtain ⟨hr, hsome⟩ := placeable_iff.mp hp
      obtain ⟨node, hf⟩ := Option.isSome_iff_exists.mp hsome
      rw [placedRecord_of_find hr hf, Option.some.injEq] at heq
      -- the version has grown
      have hv := congrArg Task.version (hassign k r node.id hk hp)
      rw [heq] at hv
      have : (ClusterState.assignedOn now node.id (view r)).version = (view r).version + 1 := rfl
      omega
    · rw [placedRecord_of_not hp]
      refine iff_of_false (fun h => h rfl) ?_
      rintro ⟨r', hr', hp'⟩
      cases hr'
      exact hp hp'

/-- A placeable task is assigned to the node the loop stops at. -/
theorem get?_placed
    (hget : ∀ k, after.get? k = (before.get? k).map (placedRecord nodes view assign))
    {k : TaskId} {r : ρ} (hr : before.get? k = some r) (hp : Placeable nodes (view r)) :
    ∃ node, (onlineOf nodes).find? (fits (view r).requires) = some node ∧
      after.get? k = some (assign node.id r) := by
  obtain ⟨hready, hsome⟩ := placeable_iff.mp hp
  obtain ⟨node, hf⟩ := Option.isSome_iff_exists.mp hsome
  refine ⟨node, hf, ?_⟩
  rw [hget, hr, Option.map_some, placedRecord_of_find hready hf]

/-- There is a decision for each task that changes, and for no other. -/
theorem mem_decided_iff
    (hget : ∀ k, after.get? k = (before.get? k).map (placedRecord nodes view assign))
    (hassign : ∀ k r n, before.get? k = some r → Placeable nodes (view r) →
      view (assign n r) = ClusterState.assignedOn now n (view r))
    (hmem : ∀ x, x ∈ l ↔ ∃ r, before.get? x.id = some r ∧ view r = x ∧ x.status = .ready)
    (hid : ∀ k r, before.get? k = some r → (view r).id = k) (k : TaskId) :
    k ∈ (l.filterMap (decisionFor (onlineOf nodes) now)).map SchedulingDecision.taskId ↔
      after.get? k ≠ before.get? k := by
  rw [changed_iff hget hassign, map_taskId_decisions, List.mem_map]
  refine ⟨?_, ?_⟩
  · rintro ⟨x, hx, rfl⟩
    obtain ⟨hx, hfit⟩ := List.mem_filter.mp hx
    obtain ⟨r, hr, rfl, hready⟩ := (hmem x).mp hx
    exact ⟨r, hr, placeable_iff.mpr ⟨hready, hfit⟩⟩
  · rintro ⟨r, hr, hp⟩
    obtain ⟨hready, hfit⟩ := placeable_iff.mp hp
    refine ⟨view r, List.mem_filter.mpr ⟨(hmem _).mpr ⟨r, ?_, rfl, hready⟩, hfit⟩, hid k r hr⟩
    rw [hid k r hr]
    exact hr

variable [DecidableEq ρ]

/-- Distinct ids that are those of the records that changed are as many as these. -/
theorem length_changed {ids : List TaskId} (hnodup : ids.Nodup)
    (hids : ∀ k, k ∈ ids ↔ after.get? k ≠ before.get? k)
    (hthere : ∀ k ∈ ids, ∃ r, before.get? k = some r) :
    ids.length = before.keys.countP fun k => after.get? k ≠ before.get? k := by
  have hkeys : (before.keys.filter fun k => after.get? k ≠ before.get? k).Nodup :=
    List.filter_sublist.nodup before.nodup
  have hperm : ids.Perm (before.keys.filter fun k => after.get? k ≠ before.get? k) := by
    rw [List.perm_ext_iff_of_nodup hnodup hkeys]
    intro k
    rw [List.mem_filter, decide_eq_true_eq, ← hids, iff_and_self]
    exact fun hk => Table.mem_keys.mpr (hthere k hk)
  rw [List.countP_eq_length_filter, ← hperm.length_eq]

/-- **A pass of the scheduler**, from what its loop does to each record: `l` lists the ready
tasks in order, and `assign` is the update that assigns a record to a node. -/
theorem schedulesAll_of (assign : NodeId → ρ → ρ) (log : List SchedulingDecision)
    (hget : ∀ k, after.get? k = (before.get? k).map (placedRecord nodes view assign))
    (hassign : ∀ k r n, before.get? k = some r → Placeable nodes (view r) →
      view (assign n r) = ClusterState.assignedOn now n (view r))
    (hmem : ∀ x, x ∈ l ↔ ∃ r, before.get? x.id = some r ∧ view r = x ∧ x.status = .ready)
    (hid : ∀ k r, before.get? k = some r → (view r).id = k)
    (hnodup : (l.map Task.id).Nodup) (hsorted : l.Pairwise scheduledBefore) :
    SchedulesAll view nodes before after log
      (recorded log (l.filterMap (decisionFor (onlineOf nodes) now)))
      (l.filterMap (decisionFor (onlineOf nodes) now)).length := by
  have hchanged := changed_iff hget hassign
  have hdecided := mem_decided_iff hget hassign hmem hid
  have hdistinct : ((l.filterMap (decisionFor (onlineOf nodes) now)).map
      SchedulingDecision.taskId).Nodup := by
    rw [map_taskId_decisions]
    exact (List.filter_sublist.map Task.id).nodup hnodup
  refine ⟨?_, ?_, ?_, _, rfl, hdistinct, hdecided, ?_, ?_⟩
  · intro k r hr hp
    obtain ⟨node, hf, hafter⟩ := get?_placed hget hr hp
    obtain ⟨hnode, honline, hcaps⟩ := find?_online hf
    refine ⟨assign node.id r, hafter, ?_, ?_, ?_⟩
    · rw [hassign k r node.id hr hp]
      exact ⟨rfl, node.id, node, rfl, hnode, honline, hcaps⟩
    · rw [hassign k r node.id hr hp]
      rfl
    · rw [hassign k r node.id hr hp]
      rfl
  · intro k hk
    by_contra hne
    obtain ⟨r, hr, hp⟩ := (hchanged k).mp hne
    exact hk r hr hp
  · rw [← length_changed hdistinct hdecided, List.length_map]
    intro k hk
    obtain ⟨r, hr, -⟩ := (hchanged k).mp ((hdecided k).mp hk)
    exact ⟨r, hr⟩
  · intro d hd
    obtain ⟨x, hx, hdx⟩ := List.mem_filterMap.mp hd
    obtain ⟨r, hr, rfl, hready⟩ := (hmem x).mp hx
    obtain ⟨node, hf, rfl⟩ := Option.map_eq_some_iff.mp hdx
    refine ⟨assign node.id r, ?_, ?_⟩
    · rw [hget, hr, Option.map_some, placedRecord_of_find hready hf]
    · rw [hassign _ r node.id hr (placeable_iff.mpr ⟨hready, by rw [hf]; rfl⟩)]
      rfl
  · refine (List.Pairwise.and_mem.mp hsorted).filterMap _ ?_
    rintro x y ⟨hx, hy, hxy⟩ d hd e he rx ry hrx hry
    obtain ⟨r, hr, rfl, -⟩ := (hmem x).mp hx
    obtain ⟨r', hr', rfl, -⟩ := (hmem y).mp hy
    obtain ⟨node, -, rfl⟩ := Option.map_eq_some_iff.mp hd
    obtain ⟨node', -, rfl⟩ := Option.map_eq_some_iff.mp he
    obtain rfl := Option.some.inj (hr.symm.trans hrx)
    obtain rfl := Option.some.inj (hr'.symm.trans hry)
    exact hxy

end Pass

/-! ### The order of the ready tasks -/

theorem keyBefore_total (p q : Int) (t u : Time) :
    (p < q ∨ (p = q ∧ t ≤ u)) ∨ (q < p ∨ (q = p ∧ u ≤ t)) := by
  rcases lt_trichotomy p q with h | h | h
  · exact .inl (.inl h)
  · rcases le_total t u with ht | ht
    · exact .inl (.inr ⟨h, ht⟩)
    · exact .inr (.inr ⟨h.symm, ht⟩)
  · exact .inr (.inl h)

theorem keyBefore_trans {p q r : Int} {t u v : Time} (h : p < q ∨ (p = q ∧ t ≤ u))
    (g : q < r ∨ (q = r ∧ u ≤ v)) : p < r ∨ (p = r ∧ t ≤ v) := by
  rcases h with h | ⟨rfl, ht⟩
  · rcases g with g | ⟨rfl, -⟩
    · exact .inl (h.trans g)
    · exact .inl h
  · rcases g with g | ⟨rfl, hu⟩
    · exact .inl g
    · exact .inr ⟨rfl, ht.trans hu⟩

/-! ### `ClusterState` -/

namespace ClusterState

variable {s : ClusterState} {now : Time}

instance : Std.Total scheduledBefore :=
  ⟨fun a b => keyBefore_total a.priority b.priority a.createdAt b.createdAt⟩

instance : IsTrans Task scheduledBefore := ⟨fun _ _ _ => keyBefore_trans⟩

theorem pairwise_readyTasks (s : ClusterState) : s.readyTasks.Pairwise scheduledBefore :=
  List.pairwise_insertionSort _ _

theorem scheduleOne_decisions (now : Time) (online : List Node) (acc : Nat × ClusterState)
    (x : Task) :
    (scheduleOne online now acc x).1 = acc.1 + (decisionFor online now x).toList.length ∧
      (scheduleOne online now acc x).2.decisions =
        recorded acc.2.decisions (decisionFor online now x).toList := by
  rw [scheduleOne, decisionFor]
  cases online.find? (fits x.requires) with
  | none => exact ⟨rfl, (recorded_nil _).symm⟩
  | some node => exact ⟨rfl, decisions_recordDecision _ _⟩

/-- The count and the log `schedule_pending` ends with. -/
theorem schedulePending_decisions (s : ClusterState) (now : Time) :
    (s.schedulePending now).1 =
      (s.readyTasks.filterMap (decisionFor s.onlineNodes now)).length ∧
    (s.schedulePending now).2.decisions =
      recorded s.decisions (s.readyTasks.filterMap (decisionFor s.onlineNodes now)) := by
  rw [schedulePending]
  by_cases he : s.onlineNodes = []
  · have hnone : decisionFor s.onlineNodes now = fun _ => none := by
      funext x
      rw [decisionFor, he]
      rfl
    rw [if_pos he, hnone, List.filterMap_none, recorded_nil]
    exact ⟨rfl, rfl⟩
  · rw [if_neg he]
    have h := foldl_decisions ClusterState.decisions
      (scheduleOne_decisions now s.onlineNodes) s.readyTasks (0, s)
    exact ⟨h.1.trans (Nat.zero_add _), h.2⟩

theorem scheduled_eq (x : Task) :
    s.scheduled now x = placedRecord s.nodes id (assignedOn now) x := by
  have hfit : s.firstFit x.requires = (onlineOf s.nodes).find? (fits x.requires) := rfl
  rw [scheduled, placedRecord, hfit, id]
  cases (onlineOf s.nodes).find? (fits x.requires) with
  | none => rfl
  | some node => rfl

theorem schedulesAll_schedulePending (s : ClusterState) (now : Time) :
    SchedulesAll id s.nodes s.tasks (s.schedulePending now).2.tasks s.decisions
      (s.schedulePending now).2.decisions (s.schedulePending now).1 := by
  obtain ⟨hcount, hlog⟩ := schedulePending_decisions s now
  rw [hcount, hlog]
  refine schedulesAll_of (assignedOn now) s.decisions ?_ (fun _ _ _ _ _ => rfl) ?_
    (fun _ _ => Table.key_of_get?) nodup_readyTasks (pairwise_readyTasks s)
  · intro k
    rw [get?_schedulePending]
    congr 1
    funext x
    exact scheduled_eq x
  · intro x
    rw [mem_readyTasks]
    refine ⟨fun ⟨hx, hr⟩ => ⟨x, hx, rfl, hr⟩, ?_⟩
    rintro ⟨x', hx', rfl, hr⟩
    exact ⟨hx', hr⟩

end ClusterState

/-! ### `ClusterStore` -/

namespace ClusterStore

variable {s : ClusterStore} {now : Time}

instance : Std.Total scheduledBefore :=
  ⟨fun a b => keyBefore_total a.priority b.priority a.createdAt b.createdAt⟩

instance : IsTrans TaskRow scheduledBefore := ⟨fun _ _ _ => keyBefore_trans⟩

theorem scheduleOne_decisions (now : Time) (online : List Node) (acc : Nat × ClusterStore)
    (x : Task) :
    (scheduleOne online now acc x).1 = acc.1 + (decisionFor online now x).toList.length ∧
      (scheduleOne online now acc x).2.decisions =
        recorded acc.2.decisions (decisionFor online now x).toList := by
  rw [scheduleOne, decisionFor]
  cases online.find? (fits x.requires) with
  | none => exact ⟨rfl, (recorded_nil _).symm⟩
  | some node => exact ⟨rfl, decisions_recordDecision _ _⟩

/-- A ready row of a store that can be scheduled reads as a ready task. -/
theorem readRow_status_iff (r : TaskRow) (status : TaskStatus) (h : status ≠ .pending) :
    (readRow r).status = status ↔ r.status = status.value := by
  cases hs : TaskStatus.ofValue r.status with
  | ok s =>
    have hvalue := TaskStatus.eq_value_of_ofValue hs
    rw [readRow_of_status hvalue, hvalue, TaskStatus.value_inj]
    exact Iff.rfl
  | error e =>
    have hpending : (readRow r).status = .pending := by
      rw [readRow, hs]
      rfl
    rw [hpending]
    refine iff_of_false (fun he => h he.symm) fun he => ?_
    rw [he, TaskStatus.ofValue_value] at hs
    cases hs

theorem pairwise_readyRows (s : ClusterStore) :
    (s.readyRows.map readRow).Pairwise ClusterState.scheduledBefore :=
  List.pairwise_map.mpr (List.pairwise_insertionSort scheduledBefore _)

/-- The count and the log of a pass that does not raise. -/
theorem schedulePending_decisions (now : Time) (h : Schedulable s) :
    ∃ s', s.schedulePending now = .ok
        (((s.readyRows.map readRow).filterMap (decisionFor s.onlineRows now)).length, s') ∧
      s'.decisions = recorded s.decisions
        ((s.readyRows.map readRow).filterMap (decisionFor s.onlineRows now)) := by
  rw [schedulePending_eq h]
  by_cases he : s.onlineRows = []
  · have hnone : decisionFor s.onlineRows now = fun _ => none := by
      funext x
      rw [decisionFor, he]
      rfl
    rw [if_pos he, hnone, List.filterMap_none, recorded_nil]
    exact ⟨s, rfl, rfl⟩
  · rw [if_neg he]
    have hloop := foldl_decisions ClusterStore.decisions
      (scheduleOne_decisions now s.onlineRows) (s.readyRows.map readRow) (0, s)
    exact ⟨_, congrArg Except.ok (Prod.ext (hloop.1.trans (Nat.zero_add _)) rfl), hloop.2⟩

theorem scheduled_eq (r : TaskRow) :
    s.scheduled now r = placedRecord s.nodes readRow (assignedOn now) r := by
  have hfit : s.firstFit r.requires = (onlineOf s.nodes).find? (fits (readRow r).requires) := rfl
  simp only [scheduled, placedRecord, readRow_status_iff r .ready (by decide), hfit]
  cases (onlineOf s.nodes).find? (fits (readRow r).requires) with
  | none => rfl
  | some node => rfl

/-- The row of a placeable task is read before it is assigned. -/
theorem readRow_assignedOn (h : Schedulable s) {k : TaskId} {r : TaskRow} (n : NodeId)
    (hr : s.tasks.get? k = some r) (hp : Placeable s.nodes (readRow r)) :
    readRow (assignedOn now n r) = ClusterState.assignedOn now n (readRow r) := by
  obtain ⟨hready, node, hnode, honline, -⟩ := hp
  have hmem : node ∈ s.onlineRows := mem_onlineOf.mpr ⟨hnode, honline⟩
  have hstatus := (readRow_status_iff r .ready (by decide)).mp hready
  have hid : r.id = k := Table.key_of_get? hr
  have hdecodes := h.2 (List.ne_nil_of_mem hmem) r (mem_readyRows.mpr ⟨hid ▸ hr, hstatus⟩)
  obtain ⟨-, -, hfits⟩ := decodes_iff.mp hdecodes
  have hrunning : (assignedOn now n r).status = TaskStatus.running.value := rfl
  rw [readRow_of_status hrunning, readRow_of_status hstatus, taskOf, taskOf,
    ClusterState.assignedOn, assignedOn, bumped_of_fits hfits]

theorem schedulesAll_schedulePending (now : Time) (h : Schedulable s) :
    ∃ n s', s.schedulePending now = .ok (n, s') ∧
      SchedulesAll readRow s.nodes s.tasks s'.tasks s.decisions s'.decisions n := by
  obtain ⟨s', hs', hlog⟩ := schedulePending_decisions now h
  obtain ⟨n, s'', hs'', -, hget⟩ := schedulePending_ok now h
  obtain rfl : s'' = s' := congrArg Prod.snd (Except.ok.inj (hs''.symm.trans hs'))
  refine ⟨_, _, hs', ?_⟩
  rw [hlog]
  refine schedulesAll_of (assignedOn now) s.decisions ?_
    (fun k r n => readRow_assignedOn h n) ?_ (fun k r => Table.key_of_get?) ?_
    (pairwise_readyRows s)
  · intro k
    rw [hget]
    congr 1
    funext r
    exact scheduled_eq r
  · intro x
    rw [List.mem_map]
    refine ⟨?_, ?_⟩
    · rintro ⟨r, hr, rfl⟩
      obtain ⟨hget, hstatus⟩ := mem_readyRows.mp hr
      exact ⟨r, hget, rfl, (readRow_status_iff r .ready (by decide)).mpr hstatus⟩
    · rintro ⟨r, hr, rfl, hready⟩
      exact ⟨r, mem_readyRows.mpr ⟨hr, (readRow_status_iff r .ready (by decide)).mp hready⟩, rfl⟩
  · rw [List.map_map]
    exact nodup_readyRows

end ClusterStore

/-! ### Both -/

/-- **`schedule_pending`** places every placeable task, changes no other, and counts and
logs what it did: in every `ClusterState`, and in a `ClusterStore` exactly when the rows it
has to read decode. -/
theorem schedulePending_schedulesAll_iff (now : Time) :
    (∀ s : ClusterState, SchedulesAll id s.nodes s.tasks (s.schedulePending now).2.tasks
      s.decisions (s.schedulePending now).2.decisions (s.schedulePending now).1) ∧
    ∀ s : ClusterStore,
      (∃ n s', s.schedulePending now = .ok (n, s') ∧ SchedulesAll ClusterStore.readRow s.nodes
        s.tasks s'.tasks s.decisions s'.decisions n) ↔ s.Schedulable := by
  refine ⟨fun s => ClusterState.schedulesAll_schedulePending s now, fun s => ⟨?_, ?_⟩⟩
  · rintro ⟨n, s', hs', -⟩
    exact ClusterStore.schedulable_of_ok hs'
  · exact ClusterStore.schedulesAll_schedulePending now

def readyRow : TaskRow :=
  { id := "task_a", title := "build", status := "ready", createdAt := 1, updatedAt := 1,
    version := 1 }

/-- A store with two online nodes, of which the second has the load NaN. -/
def nanStore : ClusterStore where
  nodes := (Table.empty.put { id := "n1", name := "worker", lastHeartbeat := ⟨0, none⟩ }).put
    { id := "n2", name := "worker", lastHeartbeat := ⟨0, none⟩, load := .nan }
  tasks := Table.empty.put readyRow

/-- The first node fits the task, but the row of the second does not decode. -/
theorem schedulePending_unread :
    nanStore.schedulePending 2 = .error (.valueError "load should be a valid number") ∧
      nanStore.tasks.get? "task_a" = some readyRow ∧
      Placeable nanStore.nodes (ClusterStore.readRow readyRow) ∧
      ¬ ∃ n s', nanStore.schedulePending 2 = .ok (n, s') ∧
        SchedulesAll ClusterStore.readRow nanStore.nodes nanStore.tasks s'.tasks
          nanStore.decisions s'.decisions n := by
  refine ⟨by decide, by decide, placeable_iff.mpr ⟨by decide, by decide⟩, ?_⟩
  rintro ⟨n, s', hs', -⟩
  cases hs'

end HermesCluster
