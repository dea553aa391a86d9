import HermesCluster.Lib.Gossip
import HermesCluster.Sync.Reapply
import HermesCluster.Sync.StaleSnapshot

/-!
# Gossip between the stores

Any number of stores that push full-state snapshots to each other, as `_do_full_sync` does.  A
snapshot may come late, out of order, several times or not at all, and what one store has merged
it pushes on.

* `gathered_merge`: the merge gathers what the two stores have gathered.
* `gossip`: in every run, what a store holds is what those it has heard of held at first: their
  tasks, and of each node one of their records, one of the highest load.
* `agree_of_heard_eq`: two stores that have heard of the same know the same tasks, and the same
  nodes at the same loads.
* `converge`: after a full exchange all stores agree.
-/

namespace HermesCluster

/-! ### Loads -/

section Loads

variable {a b c : Load}

theorem Load.le_trans (h₁ : a.le b = true) (h₂ : b.le c = true) : a.le c = true := by
  cases a with
  | nan => cases h₁
  | num a =>
    cases b with
    | nan => cases h₁
    | num b =>
      cases c with
      | nan => cases h₂
      | num c => exact decide_eq_true ((of_decide_eq_true h₁).trans (of_decide_eq_true h₂))

/-- Numbers are comparable. -/
theorem Load.le_total (ha : a ≠ .nan) (hb : b ≠ .nan) : a.le b = true ∨ b.le a = true := by
  cases a with
  | nan => exact absurd rfl ha
  | num a =>
    cases b with
    | nan => exact absurd rfl hb
    | num b =>
      have htotal : a ≤ b ∨ b ≤ a := Std.le_total
      rcases htotal with h | h
      · exact .inl (decide_eq_true h)
      · exact .inr (decide_eq_true h)

theorem Load.le_refl (ha : a ≠ .nan) : a.le a = true := (Load.le_total ha ha).elim id id

theorem Load.le_antisymm (h₁ : a.le b = true) (h₂ : b.le a = true) : a = b := by
  cases a with
  | nan => cases h₁
  | num a =>
    cases b with
    | nan => cases h₁
    | num b =>
      exact congrArg num ((of_decide_eq_true h₁).antisymm (of_decide_eq_true h₂))

end Loads

namespace SyncReceiver

open Gossip ClusterStore

variable {ι : Type}

/-- The two sides of a full sync: `_build_full_state`, which may raise, and
`receive_full_state`. -/
def fullSync : Protocol SyncReceiver FullState Int where
  snapshot r timestamp :=
    (({ store := r.store, nodeId := r.nodeId } : SyncCoordinator).buildFullState timestamp).toOption
  merge r now snap := (r.receiveFullState now snap).2

/-- The receivers after a run of pushes and deliveries. -/
def gossiped [DecidableEq ι] (start : ι → SyncReceiver) (run : List (Event ι Int)) :
    ι → SyncReceiver :=
  (Run.exec (step fullSync) { replica := start } run).replica

/-- The rows all decode, and the priorities are integers SQLite can hold. -/
structure Legible (s : ClusterStore) : Prop where
  tasks : ∀ t row, s.tasks.get? t = some row → decodes row = true ∧ fits64 row.priority = true
  nodes : ∀ k x, s.nodes.get? k = some x → x.load ≠ .nan

/-- What no merge changes of a task. -/
structure SameTask (a b : TaskRow) : Prop where
  title : a.title = b.title
  requires : a.requires = b.requires
  priority : a.priority = b.priority

theorem SameTask.trans {a b c : TaskRow} (h₁ : SameTask a b) (h₂ : SameTask b c) : SameTask a c :=
  ⟨h₁.title.trans h₂.title, h₁.requires.trans h₂.requires, h₁.priority.trans h₂.priority⟩

/-- The receiver holds what those of `b` held at first: each of its tasks and records is one of
theirs, it has all their tasks, and of each of their nodes a record of no lower load. -/
structure Gathered (start : ι → SyncReceiver) (r : SyncReceiver) (b : Finset ι) : Prop where
  legible : Legible r.store
  task : ∀ t row, r.store.tasks.get? t = some row →
    ∃ i ∈ b, ∃ old, (start i).store.tasks.get? t = some old ∧ SameTask old row
  hasTask : ∀ i ∈ b, ∀ t old, (start i).store.tasks.get? t = some old →
    ∃ row, r.store.tasks.get? t = some row
  node : ∀ k x, r.store.nodes.get? k = some x →
    ∃ i ∈ b, (start i).store.nodes.get? k = some x
  hasNode : ∀ i ∈ b, ∀ k old, (start i).store.nodes.get? k = some old →
    ∃ x, r.store.nodes.get? k = some x ∧ old.load.le x.load = true

/-- The snapshot is that of a receiver that has gathered so much. -/
def Carries (start : ι → SyncReceiver) (snap : FullState) (b : Finset ι) : Prop :=
  ∃ r timestamp, Gathered start r b ∧ fullSync.snapshot r timestamp = some snap

/-! ### Taking a snapshot -/

theorem buildFullState_of_legible {c : SyncCoordinator} (h : Legible c.store) (timestamp : Int) :
    ∃ snap, c.buildFullState timestamp = .ok snap := by
  obtain ⟨tasks, htasks⟩ := getAllTasks_ok_iff.mpr fun r hr =>
    (h.tasks r.id r (Table.get?_of_mem hr)).1
  obtain ⟨nodes, hnodes⟩ := mapM_rowToNode_iff.mpr fun n hn =>
    h.nodes n.id n (Table.get?_of_mem hn)
  have hall : c.store.getAllNodes = .ok nodes := hnodes
  exact ⟨_, by rw [SyncCoordinator.buildFullState, hall, htasks]; rfl⟩

theorem buildFullState_of_snapshot {r : SyncReceiver} {timestamp : Int} {snap : FullState}
    (h : fullSync.snapshot r timestamp = some snap) :
    ({ store := r.store, nodeId := r.nodeId } : SyncCoordinator).buildFullState timestamp =
      .ok snap := by
  have h : (({ store := r.store, nodeId := r.nodeId } : SyncCoordinator).buildFullState
    timestamp).toOption = some snap := h
  cases hb : ({ store := r.store, nodeId := r.nodeId } : SyncCoordinator).buildFullState
      timestamp with
  | error e => rw [hb] at h; cases h
  | ok snap' => rw [hb] at h; exact congrArg _ (Option.some.inj h)

/-! ### Merging a snapshot -/

/-- The rows a snapshot with distinct ids leaves, whether it names them or not. -/
theorem get?_receiveFullState_tasks {snap : FullState}
    (hids : (snap.tasks.map TaskData.id).Nodup) (r : SyncReceiver) (now : Time) (t : TaskId) :
    (r.receiveFullState now snap).2.store.tasks.get? t =
      (snap.tasks.find? (fun d => d.id = t)).elim (r.store.tasks.get? t)
        (fun d => mergedRow now d (r.store.tasks.get? t)) := by
  rw [store_receiveFullState]
  refine (Table.look_foldl_keyed (I := fun _ => True) (fun s k => s.tasks.get? k)
    (fun s d => (mergeTask s now d).2) TaskData.id (mergedRow now) (fun _ _ _ => trivial)
    (fun s d k _ => (mergesTo_mergeTask s now d).2 k) _ hids _ trivial t).trans ?_
  rw [tasks_foldl_mergeNode]
  cases snap.tasks.find? (fun d => d.id = t) with
  | none => rfl
  | some d => rfl

section Merge

variable {r r' : SyncReceiver} {timestamp : Int} {snap : FullState}
  (hsnap : fullSync.snapshot r' timestamp = some snap) (now : Time)

include hsnap

theorem get?_merge_tasks (t : TaskId) : (fullSync.merge r now snap).store.tasks.get? t =
    (r'.store.tasks.get? t).elim (r.store.tasks.get? t)
      (fun row => mergedRow now row.data (r.store.tasks.get? t)) := by
  obtain ⟨-, htasks, -⟩ := SyncCoordinator.buildFullState_ok (buildFullState_of_snapshot hsnap)
  have hids : (snap.tasks.map TaskData.id).Nodup := by
    rw [htasks, List.map_map]
    exact r'.store.tasks.nodup
  have hfind : snap.tasks.find? (fun d => d.id = t) = (r'.store.tasks.get? t).map TaskRow.data := by
    rw [htasks]
    exact List.find?_map
  show (r.receiveFullState now snap).2.store.tasks.get? t = _
  rw [get?_receiveFullState_tasks hids, hfind]
  cases r'.store.tasks.get? t with
  | none => rfl
  | some row => rfl

theorem get?_merge_nodes (k : NodeId) : (fullSync.merge r now snap).store.nodes.get? k =
    (r'.store.nodes.get? k).elim (r.store.nodes.get? k)
      (fun x => mergedNode (SyncCoordinator.nodeData x) (r.store.nodes.get? k)) := by
  obtain ⟨hnodes, -, -⟩ := SyncCoordinator.buildFullState_ok (buildFullState_of_snapshot hsnap)
  have hids : (snap.nodes.map NodeData.id).Nodup := by
    rw [hnodes, List.map_map]
    exact r'.store.nodes.nodup
  have hfind : snap.nodes.find? (fun d => d.id = k) =
      (r'.store.nodes.get? k).map SyncCoordinator.nodeData := by
    rw [hnodes]
    exact List.find?_map
  show (r.receiveFullState now snap).2.store.nodes.get? k = _
  rw [get?_receiveFullState_nodes hids, hfind]
  cases r'.store.nodes.get? k with
  | none => rfl
  | some x => rfl

end Merge

theorem mergedNode_nodeData (x : Node) (old : Option Node) :
    mergedNode (SyncCoordinator.nodeData x) old =
      old.elim (some x) (fun y => if y.load.le x.load then some x else some y) := by
  have hnode : (SyncCoordinator.nodeData x).node = .ok x := by
    rw [NodeData.node, SyncCoordinator.nodeData, NodeStatus.ofValue_value]
    rfl
  simp only [mergedNode, hnode]
  cases old with
  | none => rfl
  | some y => rfl

/-- The merge of a task leaves one, with the title, the requirements and the priority of the
local one if there is one. -/
theorem mergedRow_of_legible (now : Time) {row : TaskRow} (hdec : decodes row = true)
    (hfits : fits64 row.priority = true) {old : Option TaskRow}
    (hold : ∀ r, old = some r → decodes r = true ∧ fits64 r.priority = true) :
    ∃ new, mergedRow now row.data old = some new ∧ decodes new = true ∧
      fits64 new.priority = true ∧ SameTask (old.getD row) new := by
  obtain ⟨status, hst, hver⟩ := decodes_iff.mp hdec
  have hdata : TaskStatus.ofValue row.data.status = .ok status := by
    rw [TaskRow.data, hst, TaskStatus.ofValue_value]
  have hfits' : fits64 row.data.priority = true := hfits
  cases old with
  | none =>
    have hcreated : decodes (createdRow now row.data) = true := decodes_iff.mpr ⟨.ready, rfl, rfl⟩
    by_cases hp : status = .pending
    · refine ⟨createdRow now row.data, ?_, hcreated, hfits, rfl, rfl, rfl⟩
      simp only [mergedRow, hdata, if_pos hfits', if_pos hp]
    · refine ⟨withStatus now status "" (createdRow now row.data), ?_, ?_, hfits, rfl, rfl, rfl⟩
      · simp only [mergedRow, hdata, if_pos hfits', if_neg hp]
      · rw [decodes_withStatus now status "" hcreated]
        rfl
  | some r =>
    obtain ⟨hr, hrfits⟩ := hold r rfl
    by_cases hv : decodes r = true ∧ r.version < row.data.version
    · refine ⟨withStatus now status (row.data.failReason.getD "") r, ?_, ?_, hrfits, rfl, rfl, rfl⟩
      · simp only [mergedRow, hdata, if_pos hv]
      · have hlt : r.version < row.version := hv.2
        rw [fits64_iff] at hver
        rw [decodes_withStatus now status _ hr]
        exact decide_eq_true (by omega)
    · exact ⟨r, by simp only [mergedRow, hdata, if_neg hv], hr, hrfits, rfl, rfl, rfl⟩

/-- Of two records the merge leaves one, of no lower load than either. -/
theorem merge_node {r r' : SyncReceiver} (h : Legible r.store) (h' : Legible r'.store)
    {timestamp : Int} {snap : FullState} (hsnap : fullSync.snapshot r' timestamp = some snap)
    (now : Time) (k : NodeId) :
    ((fullSync.merge r now snap).store.nodes.get? k = r.store.nodes.get? k ∨
      (fullSync.merge r now snap).store.nodes.get? k = r'.store.nodes.get? k) ∧
    ∀ y, r.store.nodes.get? k = some y ∨ r'.store.nodes.get? k = some y →
      ∃ x, (fullSync.merge r now snap).store.nodes.get? k = some x ∧ y.load.le x.load = true := by
  rw [get?_merge_nodes hsnap]
  cases hx' : r'.store.nodes.get? k with
  | none =>
    refine ⟨.inl rfl, fun y hy => ?_⟩
    rcases hy with hy | hy
    · exact ⟨y, hy, Load.le_refl (h.nodes k y hy)⟩
    · cases hy
  | some x' =>
    have hnum' : x'.load ≠ .nan := h'.nodes k x' hx'
    rw [Option.elim_some, mergedNode_nodeData]
    cases hx : r.store.nodes.get? k with
    | none =>
      refine ⟨.inr rfl, fun y hy => ?_⟩
      rcases hy with hy | hy
      · cases hy
      · obtain rfl := Option.some.inj hy
        exact ⟨x', rfl, Load.le_refl hnum'⟩
    | some x =>
      have hnum : x.load ≠ .nan := h.nodes k x hx
      rw [Option.elim_some]
      by_cases hle : x.load.le x'.load = true
      · rw [if_pos hle]
        refine ⟨.inr rfl, fun y hy => ⟨x', rfl, ?_⟩⟩
        rcases hy with hy | hy
        · exact Option.some.inj hy ▸ hle
        · exact Option.some.inj hy ▸ Load.le_refl hnum'
      · have hge : x'.load.le x.load = true := (Load.le_total hnum hnum').resolve_left hle
        rw [if_neg hle]
        refine ⟨.inl rfl, fun y hy => ⟨x, rfl, ?_⟩⟩
        rcases hy with hy | hy
        · exact Option.some.inj hy ▸ Load.le_refl hnum
        · exact Option.some.inj hy ▸ hge

/-- Of two rows the merge leaves a legible one of the same task. -/
theorem merge_task {r r' : SyncReceiver} (h : Legible r.store) (h' : Legible r'.store)
    {timestamp : Int} {snap : FullState} (hsnap : fullSync.snapshot r' timestamp = some snap)
    (now : Time) (t : TaskId) :
    (∀ new, (fullSync.merge r now snap).store.tasks.get? t = some new →
      (decodes new = true ∧ fits64 new.priority = true) ∧
        ∃ row, (r.store.tasks.get? t = some row ∨ r'.store.tasks.get? t = some row) ∧
          SameTask row new) ∧
    ∀ row, r.store.tasks.get? t = some row ∨ r'.store.tasks.get? t = some row →
      ∃ new, (fullSync.merge r now snap).store.tasks.get? t = some new := by
  rw [get?_merge_tasks hsnap]
  cases hrow' : r'.store.tasks.get? t with
  | none =>
    refine ⟨fun new hnew => ⟨h.tasks t new hnew, new, .inl hnew, rfl, rfl, rfl⟩, fun row hrow => ?_⟩
    rcases hrow with hrow | hrow
    · exact ⟨row, hrow⟩
    · cases hrow
  | some row' =>
    obtain ⟨hdec, hfits⟩ := h'.tasks t row' hrow'
    obtain ⟨new, hnew, hdec, hfits, hsame⟩ := mergedRow_of_legible now hdec hfits (h.tasks t)
    rw [Option.elim_some, hnew]
    refine ⟨fun new' hnew' => ?_, fun _ _ => ⟨new, rfl⟩⟩
    obtain rfl := Option.some.inj hnew'
    refine ⟨⟨hdec, hfits⟩, _, ?_, hsame⟩
    cases r.store.tasks.get? t with
    | none => exact .inr rfl
    | some row => exact .inl rfl

/-- **One merge.**  The receiver has then gathered what both had. -/
theorem gathered_merge {start : ι → SyncReceiver} [DecidableEq ι] {r r' : SyncReceiver}
    {b b' : Finset ι} (h : Gathered start r b) (h' : Gathered start r' b') {timestamp : Int}
    {snap : FullState} (hsnap : fullSync.snapshot r' timestamp = some snap) (now : Time) :
    Gathered start (fullSync.merge r now snap) (b ∪ b') where
  legible := by
    refine ⟨fun t new hnew => ?_, fun k x hx => ?_⟩
    · exact ((merge_task h.legible h'.legible hsnap now t).1 new hnew).1
    · rcases (merge_node h.legible h'.legible hsnap now k).1 with heq | heq
      · exact h.legible.nodes k x (heq ▸ hx)
      · exact h'.legible.nodes k x (heq ▸ hx)
  task t new hnew := by
    obtain ⟨-, row, hrow, hsame⟩ := (merge_task h.legible h'.legible hsnap now t).1 new hnew
    rcases hrow with hrow | hrow
    · obtain ⟨i, hi, old, hold, hsame'⟩ := h.task t row hrow
      exact ⟨i, Finset.mem_union_left b' hi, old, hold, hsame'.trans hsame⟩
    · obtain ⟨i, hi, old, hold, hsame'⟩ := h'.task t row hrow
      exact ⟨i, Finset.mem_union_right b hi, old, hold, hsame'.trans hsame⟩
  hasTask i hi t old hold := by
    have hrow : ∃ row, r.store.tasks.get? t = some row ∨ r'.store.tasks.get? t = some row := by
      rcases Finset.mem_union.mp hi with hi | hi
      · exact (h.hasTask i hi t old hold).imp fun _ => .inl
      · exact (h'.hasTask i hi t old hold).imp fun _ => .inr
    obtain ⟨row, hrow⟩ := hrow
    exact (merge_task h.legible h'.legible hsnap now t).2 row hrow
  node k x hx := by
    rcases (merge_node h.legible h'.legible hsnap now k).1 with heq | heq
    · obtain ⟨i, hi, hstart⟩ := h.node k x (heq ▸ hx)
      exact ⟨i, Finset.mem_union_left b' hi, hstart⟩
    · obtain ⟨i, hi, hstart⟩ := h'.node k x (heq ▸ hx)
      exact ⟨i, Finset.mem_union_right b hi, hstart⟩
  hasNode i hi k old hold := by
    have hy : ∃ y, (r.store.nodes.get? k = some y ∨ r'.store.nodes.get? k = some y) ∧
        old.load.le y.load = true := by
      rcases Finset.mem_union.mp hi with hi | hi
      · obtain ⟨y, hy, hle⟩ := h.hasNode i hi k old hold
        exact ⟨y, .inl hy, hle⟩
      · obtain ⟨y, hy, hle⟩ := h'.hasNode i hi k old hold
        exact ⟨y, .inr hy, hle⟩
    obtain ⟨y, hy, hle⟩ := hy
    obtain ⟨x, hx, hle'⟩ := (merge_node h.legible h'.legible hsnap now k).2 y hy
    exact ⟨x, hx, Load.le_trans hle hle'⟩

/-- The two know the same tasks and the same nodes, each at the same load. -/
structure Agree (a b : ClusterStore) : Prop where
  tasks : ∀ t, t ∈ a.tasks.keys ↔ t ∈ b.tasks.keys
  loads : ∀ k, (a.nodes.get? k).map Node.load = (b.nodes.get? k).map Node.load

/-- Stores that have gathered the same agree. -/
theorem Gathered.agree {start : ι → SyncReceiver} {r r' : SyncReceiver} {b : Finset ι}
    (h : Gathered start r b) (h' : Gathered start r' b) : Agree r.store r'.store := by
  have htask : ∀ {r r' : SyncReceiver}, Gathered start r b → Gathered start r' b →
      ∀ t, t ∈ r.store.tasks.keys → t ∈ r'.store.tasks.keys := by
    intro r r' h h' t ht
    rw [Table.mem_keys] at ht ⊢
    obtain ⟨row, hrow⟩ := ht
    obtain ⟨i, hi, old, hold, -⟩ := h.task t row hrow
    exact h'.hasTask i hi t old hold
  have hload : ∀ {r r' : SyncReceiver}, Gathered start r b → Gathered start r' b →
      ∀ k x, r.store.nodes.get? k = some x →
        ∃ x', r'.store.nodes.get? k = some x' ∧ x.load.le x'.load = true := by
    intro r r' h h' k x hx
    obtain ⟨i, hi, hold⟩ := h.node k x hx
    exact h'.hasNode i hi k x hold
  refine ⟨fun t => ⟨htask h h' t, htask h' h t⟩, fun k => ?_⟩
  cases hx : r.store.nodes.get? k with
  | none =>
    cases hx' : r'.store.nodes.get? k with
    | none => rfl
    | some x' =>
      obtain ⟨x, hx'', -⟩ := hload h' h k x' hx'
      rw [hx] at hx''
      cases hx''
  | some x =>
    obtain ⟨x', hx', hle⟩ := hload h h' k x hx
    obtain ⟨x'', hx'', hge⟩ := hload h' h k x' hx'
    obtain rfl := Option.some.inj (hx.symm.trans hx'')
    rw [hx', Option.map_some, Option.map_some, Load.le_antisymm hle hge]

/-! ### Runs -/

/-- A store that has heard of no other. -/
theorem gathered_self (start : ι → SyncReceiver) (i : ι) (h : Legible (start i).store) :
    Gathered start (start i) {i} where
  legible := h
  task t row hrow := ⟨i, Finset.mem_singleton_self i, row, hrow, rfl, rfl, rfl⟩
  hasTask j hj t old hold := ⟨old, by rwa [Finset.mem_singleton.mp hj] at hold⟩
  node k x hx := ⟨i, Finset.mem_singleton_self i, hx⟩
  hasNode j hj k old hold := by
    rw [Finset.mem_singleton.mp hj] at hold
    exact ⟨old, hold, Load.le_refl (h.nodes k old hold)⟩

variable [DecidableEq ι]

theorem gathered_gossiped (start : ι → SyncReceiver) (hstart : ∀ i, Legible (start i).store)
    (run : List (Event ι Int)) (j : ι) : Gathered start (gossiped start run j) (heard run j) := by
  refine gathered (R := Gathered start) (M := Carries start)
    (fun i => gathered_self start i (hstart i)) (fun r b timestamp h => ?_)
    (fun r b now snap b' h hcarries => ?_) run j
  · obtain ⟨snap, hsnap⟩ := buildFullState_of_legible
      (c := { store := r.store, nodeId := r.nodeId }) h.legible timestamp
    have hsome : fullSync.snapshot r timestamp = some snap := by
      show (SyncCoordinator.buildFullState _ timestamp).toOption = some snap
      rw [hsnap]
      rfl
    exact ⟨snap, hsome, r, timestamp, h, hsome⟩
  · obtain ⟨r', timestamp, h', hsnap⟩ := hcarries
    exact gathered_merge h h' hsnap now

/-- **Gossip.**  Whatever is pushed and delivered, in whatever order, how often and how late, a
store knows exactly the tasks that those it has heard of knew at first, and of each of their
nodes it holds a record of theirs, one of the highest load. -/
theorem gossip (start : ι → SyncReceiver) (hstart : ∀ i, Legible (start i).store)
    (run : List (Event ι Int)) (j : ι) :
    (∀ t, t ∈ (gossiped start run j).store.tasks.keys ↔
      ∃ i ∈ heard run j, t ∈ (start i).store.tasks.keys) ∧
    (∀ k, k ∈ (gossiped start run j).store.nodes.keys ↔
      ∃ i ∈ heard run j, k ∈ (start i).store.nodes.keys) ∧
    ∀ k x, (gossiped start run j).store.nodes.get? k = some x →
      (∃ i ∈ heard run j, (start i).store.nodes.get? k = some x) ∧
        ∀ i ∈ heard run j, ∀ y, (start i).store.nodes.get? k = some y →
          y.load.le x.load = true := by
  have h := gathered_gossiped start hstart run j
  simp only [Table.mem_keys]
  refine ⟨fun t => ⟨?_, ?_⟩, fun k => ⟨?_, ?_⟩, fun k x hx => ⟨h.node k x hx, ?_⟩⟩
  · rintro ⟨row, hrow⟩
    obtain ⟨i, hi, old, hold, -⟩ := h.task t row hrow
    exact ⟨i, hi, old, hold⟩
  · rintro ⟨i, hi, old, hold⟩
    exact h.hasTask i hi t old hold
  · rintro ⟨x, hx⟩
    obtain ⟨i, hi, hold⟩ := h.node k x hx
    exact ⟨i, hi, x, hold⟩
  · rintro ⟨i, hi, old, hold⟩
    obtain ⟨x, hx, -⟩ := h.hasNode i hi k old hold
    exact ⟨x, hx⟩
  · intro i hi y hy
    obtain ⟨x', hx', hle⟩ := h.hasNode i hi k y hy
    rw [hx] at hx'
    exact Option.some.inj hx' ▸ hle

/-- Two stores that know the node `n1` at different loads, one of them a task of its own. -/
def neighbours : Bool → SyncReceiver
  | false => offlineKnown
  | true =>
    { store := { runningStore with
        nodes := Table.empty.put { id := "n1", name := "worker", lastHeartbeat := ⟨15, none⟩,
                                   load := .num 1 } } }

theorem legible_of_rows {s : ClusterStore}
    (htasks : ∀ row ∈ s.tasks.rows, decodes row = true ∧ fits64 row.priority = true)
    (hnodes : ∀ x ∈ s.nodes.rows, x.load ≠ .nan) : Legible s :=
  ⟨fun _ row hrow => htasks row (Table.mem_of_get? hrow),
    fun _ x hx => hnodes x (Table.mem_of_get? hx)⟩

theorem legible_neighbours : ∀ i, Legible (neighbours i).store
  | false => legible_of_rows (by decide) (by decide)
  | true => legible_of_rows (by decide) (by decide)

/-- Each pushes, the second snapshot arrives, and then the first twice. -/
def bothWays : List (Event Bool Int) :=
  [.push false 7, .push true 7, .deliver false 1 20, .deliver true 0 21, .deliver true 0 22]

theorem gossip_bothWays :
    (∀ t, t ∈ (gossiped neighbours bothWays false).store.tasks.keys ↔
      ∃ i ∈ heard bothWays false, t ∈ (neighbours i).store.tasks.keys) ∧
    (∀ k, k ∈ (gossiped neighbours bothWays false).store.nodes.keys ↔
      ∃ i ∈ heard bothWays false, k ∈ (neighbours i).store.nodes.keys) ∧
    ∀ k x, (gossiped neighbours bothWays false).store.nodes.get? k = some x →
      (∃ i ∈ heard bothWays false, (neighbours i).store.nodes.get? k = some x) ∧
        ∀ i ∈ heard bothWays false, ∀ y, (neighbours i).store.nodes.get? k = some y →
          y.load.le x.load = true :=
  gossip neighbours legible_neighbours bothWays false

theorem agree_of_heard_eq (start : ι → SyncReceiver) (hstart : ∀ i, Legible (start i).store)
    (run : List (Event ι Int)) {i j : ι} (h : heard run i = heard run j) :
    Agree (gossiped start run i).store (gossiped start run j).store :=
  (gathered_gossiped start hstart run i).agree (h ▸ gathered_gossiped start hstart run j)

/-- **Convergence.**  Once a snapshot of each store has come to each other one, whatever else
was sent before, in between and after, all of them agree. -/
theorem converge [Fintype ι] (start : ι → SyncReceiver) (hstart : ∀ i, Legible (start i).store)
    (run : List (Event ι Int)) (hall : ∀ i j, i ≠ j → Exchanged run i j) (i j : ι) :
    Agree (gossiped start run i).store (gossiped start run j).store := by
  refine agree_of_heard_eq start hstart run ?_
  rw [heard_eq_univ hall i, heard_eq_univ hall j]

theorem converge_bothWays :
    Agree (gossiped neighbours bothWays false).store (gossiped neighbours bothWays true).store := by
  refine converge neighbours legible_neighbours bothWays (fun i j hij => ?_) false true
  match i, j with
  | false, false | true, true => exact absurd rfl hij
  | false, true =>
    exact ⟨[], 7, [.push true 7, .deliver false 1 20], 21, [.deliver true 0 22], rfl⟩
  | true, false =>
    exact ⟨[.push false 7], 7, [], 20, [.deliver true 0 21, .deliver true 0 22], rfl⟩

end SyncReceiver

end HermesCluster
