import HermesCluster.Sync.ReceiverSpec

/-!
# Batches

The three receivers of a batch keep their gate in three ways: a `ClusterState` has a
counter, a `ClusterStore` asks its log for the largest version, and a `SyncReceiver` asks
the store and then hands the message to it.  `BatchSafe` is what they have in common:
exactly the messages that set a record are accepted, the sync version ends at the largest
version, and the same batch once more does nothing.

A `ClusterStore` raises on a message SQLite cannot store, in the middle of the batch.
-/

namespace HermesCluster

open VersionGate ClusterStore

/-- What handling a batch shows: what it returns as the number of accepted messages, and the
answer to each message. -/
abbrev BatchAnswer := Except PyError Nat × List (Except PyError Bool)

/-- `deliver` handles the batch `msgs` at `now` and again at `later`: the first time it accepts
the messages whose version is above the sync version and above those of all messages before
them, and the second time none. -/
def BatchSafe {σ τ : Type} (deliver : σ → Time → List SyncMessage → BatchAnswer × σ)
    (version : σ → Int) (tasks : σ → τ) (s : σ) (now later : Time) (msgs : List SyncMessage) :
    Prop :=
  let r := deliver s now msgs
  r.1 = (.ok ((records SyncMessage.version (version s) msgs).count true),
    (records SyncMessage.version (version s) msgs).map .ok) ∧
  version r.2 = level SyncMessage.version (version s) msgs ∧
  (deliver r.2 later msgs).1 = (.ok 0, msgs.map fun _ => .ok false) ∧
  tasks (deliver r.2 later msgs).2 = tasks r.2

theorem count_records_cons (v : Int) (m : SyncMessage) (l : List SyncMessage) :
    (records SyncMessage.version v (m :: l)).count true =
      (records SyncMessage.version (max v m.version) l).count true +
        if v < m.version then 1 else 0 := by
  rw [records_cons, List.count_cons]
  by_cases h : v < m.version
  · simp [h]
  · simp [h]

/-- A handler that accepts the record-setting messages of each batch is safe to retry. -/
theorem batchSafe_of {σ τ : Type} {deliver : σ → Time → List SyncMessage → BatchAnswer × σ}
    {version : σ → Int} {tasks : σ → τ} {s : σ} {now later : Time} {msgs : List SyncMessage}
    (ready : σ → Prop) (hready : ready s) (hnext : ready (deliver s now msgs).2)
    (hanswers : ∀ s now, ready s → (deliver s now msgs).1 =
      (.ok ((records SyncMessage.version (version s) msgs).count true),
        (records SyncMessage.version (version s) msgs).map .ok))
    (hversion : version (deliver s now msgs).2 = level SyncMessage.version (version s) msgs)
    (htasks : ∀ s now, (∀ m ∈ msgs, m.version ≤ version s) →
      tasks (deliver s now msgs).2 = tasks s) :
    BatchSafe deliver version tasks s now later msgs := by
  have hle : ∀ m ∈ msgs, m.version ≤ version (deliver s now msgs).2 := by
    intro m hm
    rw [hversion]
    exact le_level _ hm
  have hzero : (msgs.map fun _ => false).count true = 0 := by
    rw [List.count_eq_zero, List.mem_map]
    rintro ⟨m, -, hm⟩
    cases hm
  refine ⟨hanswers s now hready, hversion, ?_, htasks _ later hle⟩
  rw [hanswers _ later hnext, records_of_le _ msgs hle, List.map_map, hzero]
  rfl

/-! ### `ClusterState` -/

namespace ClusterState

variable {s : ClusterState} {now : Time}

/-- The answers of `handle_sync_message` to the messages of a batch. -/
def batchAnswers (s : ClusterState) (now : Time) : List SyncMessage → List (Except PyError Bool)
  | [] => []
  | msg :: messages =>
    let (applied, s) := s.handleSyncMessage now msg
    .ok applied :: s.batchAnswers now messages

def deliverBatch (s : ClusterState) (now : Time) (msgs : List SyncMessage) :
    BatchAnswer × ClusterState :=
  ((.ok (s.handleBatchSync now msgs).1, s.batchAnswers now msgs), (s.handleBatchSync now msgs).2)

theorem syncVersion_applyTaskState (ts : TaskSync) :
    (s.applyTaskState now ts).syncVersion = s.syncVersion := by
  rw [applyTaskState]
  split
  · rfl
  · rfl

theorem handleSyncMessage_stale {m : SyncMessage} (h : m.version ≤ s.syncVersion) :
    s.handleSyncMessage now m = (false, s) := if_pos h

/-- A message above the counter is accepted and sets it. -/
theorem handleSyncMessage_fresh (now : Time) {m : SyncMessage} (h : s.syncVersion < m.version) :
    (s.handleSyncMessage now m).1 = true ∧
      (s.handleSyncMessage now m).2.syncVersion = m.version := by
  rw [handleSyncMessage, if_neg (not_le.mpr h)]
  refine ⟨rfl, ?_⟩
  cases m.taskState with
  | none => rfl
  | some ts => exact syncVersion_applyTaskState ts

/-- The answer to a message, and the counter after it. -/
theorem handleSyncMessage_spec (s : ClusterState) (now : Time) (m : SyncMessage) :
    (s.handleSyncMessage now m).1 = decide (s.syncVersion < m.version) ∧
      (s.handleSyncMessage now m).2.syncVersion = max s.syncVersion m.version := by
  by_cases h : s.syncVersion < m.version
  · obtain ⟨happlied, hversion⟩ := handleSyncMessage_fresh now h
    rw [happlied, hversion, decide_eq_true h, max_eq_right h.le]
    exact ⟨rfl, rfl⟩
  · rw [handleSyncMessage_stale (not_lt.mp h), decide_eq_false h, max_eq_left (not_lt.mp h)]
    exact ⟨rfl, rfl⟩

theorem deliverBatch_spec (now : Time) (msgs : List SyncMessage) (s : ClusterState) :
    (s.deliverBatch now msgs).1 =
      (.ok ((records SyncMessage.version s.syncVersion msgs).count true),
        (records SyncMessage.version s.syncVersion msgs).map .ok) ∧
    (s.deliverBatch now msgs).2.syncVersion = level SyncMessage.version s.syncVersion msgs := by
  induction msgs generalizing s with
  | nil => exact ⟨rfl, rfl⟩
  | cons m msgs ih =>
    obtain ⟨happlied, hversion⟩ := handleSyncMessage_spec s now m
    obtain ⟨hanswers, hlevel⟩ := ih (s.handleSyncMessage now m).2
    rw [hversion] at hanswers hlevel
    have hcount := congrArg Prod.fst hanswers
    have hlist := congrArg Prod.snd hanswers
    simp only [deliverBatch, Except.ok.injEq] at hcount hlist hlevel
    refine ⟨Prod.ext ?_ ?_, hlevel⟩
    · simp only [deliverBatch, handleBatchSync]
      rw [hcount, happlied, count_records_cons]
      simp only [decide_eq_true_eq]
    · simp only [deliverBatch, batchAnswers]
      rw [hlist, happlied, records_cons, List.map_cons]

/-- A batch of stale messages does nothing. -/
theorem handleBatchSync_stale (now : Time) (msgs : List SyncMessage) (s : ClusterState)
    (h : ∀ m ∈ msgs, m.version ≤ s.syncVersion) : (s.handleBatchSync now msgs).2 = s := by
  induction msgs generalizing s with
  | nil => rfl
  | cons m msgs ih =>
    rw [handleBatchSync, handleSyncMessage_stale (h m List.mem_cons_self)]
    exact ih s fun n hn => h n (List.mem_cons_of_mem m hn)

theorem batchSafe (s : ClusterState) (now later : Time) (msgs : List SyncMessage) :
    BatchSafe deliverBatch syncVersion tasks s now later msgs :=
  batchSafe_of (fun _ => True) trivial trivial
    (fun s now _ => (deliverBatch_spec now msgs s).1) (deliverBatch_spec now msgs s).2
    (fun s now h => congrArg tasks (handleBatchSync_stale now msgs s h))

end ClusterState

/-! ### `ClusterStore` -/

/-- Every message that sets a record has integers SQLite can store. -/
def RecordsStorable (v : Int) (msgs : List SyncMessage) : Prop :=
  ∀ m ∈ passed SyncMessage.version v msgs, storable m

theorem recordsStorable_cons_of_lt {v : Int} {m : SyncMessage} {msgs : List SyncMessage}
    (h : v < m.version) :
    RecordsStorable v (m :: msgs) ↔ storable m ∧ RecordsStorable m.version msgs := by
  rw [RecordsStorable, passed_cons_of_lt _ h, List.forall_mem_cons, RecordsStorable]

theorem recordsStorable_cons_of_le {v : Int} {m : SyncMessage} {msgs : List SyncMessage}
    (h : m.version ≤ v) : RecordsStorable v (m :: msgs) ↔ RecordsStorable v msgs := by
  rw [RecordsStorable, passed_cons_of_le _ h, RecordsStorable]

theorem recordsStorable_of_le {v : Int} {msgs : List SyncMessage}
    (h : ∀ m ∈ msgs, m.version ≤ v) : RecordsStorable v msgs := by
  rw [RecordsStorable, passed_eq_nil h]
  exact fun m hm => absurd hm List.not_mem_nil

namespace ClusterStore

variable {s : ClusterStore} {now : Time}

/-- The answers of `handle_sync_message` to the messages of a batch, until one raises. -/
def batchAnswers (s : ClusterStore) (now : Time) : List SyncMessage → List (Except PyError Bool)
  | [] => []
  | msg :: messages =>
    match s.handleSyncMessage now msg with
    | .error e => [.error e]
    | .ok (applied, s) => .ok applied :: s.batchAnswers now messages

def deliverBatch (s : ClusterStore) (now : Time) (msgs : List SyncMessage) :
    BatchAnswer × ClusterStore :=
  (((s.handleBatchSync now msgs).1, s.batchAnswers now msgs), (s.handleBatchSync now msgs).2)

theorem handleSyncMessage_stale {m : SyncMessage} (now : Time) (h : m.version ≤ s.syncVersion) :
    s.handleSyncMessage now m = .ok (false, s) := if_pos h

theorem deliverBatch_stale {m : SyncMessage} (now : Time) (h : m.version ≤ s.syncVersion)
    (msgs : List SyncMessage) :
    s.deliverBatch now (m :: msgs) =
      (((s.deliverBatch now msgs).1.1.map (· + 0), .ok false :: (s.deliverBatch now msgs).1.2),
        (s.deliverBatch now msgs).2) := by
  simp only [deliverBatch, handleBatchSync, batchAnswers, handleSyncMessage_stale now h]
  rfl

theorem deliverBatch_applied {m : SyncMessage} (now : Time) (h : s.syncVersion < m.version)
    (hs : storable m) (msgs : List SyncMessage) :
    s.deliverBatch now (m :: msgs) =
      ((((s.logged now m).deliverBatch now msgs).1.1.map (· + 1),
          .ok true :: ((s.logged now m).deliverBatch now msgs).1.2),
        ((s.logged now m).deliverBatch now msgs).2) := by
  simp only [deliverBatch, handleBatchSync, batchAnswers, handleSyncMessage_applied now h hs]
  rfl

theorem deliverBatch_spec (now : Time) (msgs : List SyncMessage) (s : ClusterStore)
    (h : RecordsStorable s.syncVersion msgs) :
    (s.deliverBatch now msgs).1 =
      (.ok ((records SyncMessage.version s.syncVersion msgs).count true),
        (records SyncMessage.version s.syncVersion msgs).map .ok) ∧
    (s.deliverBatch now msgs).2.syncVersion = level SyncMessage.version s.syncVersion msgs := by
  induction msgs generalizing s with
  | nil => exact ⟨rfl, rfl⟩
  | cons m msgs ih =>
    by_cases hv : s.syncVersion < m.version
    · obtain ⟨hm, hrest⟩ := (recordsStorable_cons_of_lt hv).mp h
      have hlogged := syncVersion_logged now hv
      obtain ⟨hanswers, hlevel⟩ := ih (s.logged now m) (by rw [hlogged]; exact hrest)
      rw [hlogged] at hanswers hlevel
      rw [deliverBatch_applied now hv hm, hanswers, count_records_cons, records_cons, level_cons,
        max_eq_right hv.le, if_pos hv, decide_eq_true hv]
      exact ⟨rfl, hlevel⟩
    · have hle := not_lt.mp hv
      obtain ⟨hanswers, hlevel⟩ := ih s ((recordsStorable_cons_of_le hle).mp h)
      rw [deliverBatch_stale now hle, hanswers, count_records_cons, records_cons, level_cons,
        max_eq_left hle, if_neg hv, decide_eq_false hv]
      exact ⟨rfl, hlevel⟩

/-- A message that sets a record and cannot be stored makes the batch raise. -/
theorem handleBatchSync_raises (now : Time) (msgs : List SyncMessage) (s : ClusterStore)
    (h : ¬ RecordsStorable s.syncVersion msgs) :
    ∃ e, (s.handleBatchSync now msgs).1 = .error e := by
  induction msgs generalizing s with
  | nil => exact absurd (recordsStorable_of_le fun m hm => absurd hm List.not_mem_nil) h
  | cons m msgs ih =>
    by_cases hv : s.syncVersion < m.version
    · rw [recordsStorable_cons_of_lt hv, not_and] at h
      by_cases hm : storable m = true
      · obtain ⟨e, he⟩ := ih (s.logged now m) (by rw [syncVersion_logged now hv]; exact h hm)
        refine ⟨e, ?_⟩
        simp only [handleBatchSync, handleSyncMessage_applied now hv hm, he]
        rfl
      · refine ⟨.overflowError, ?_⟩
        simp only [handleBatchSync, handleSyncMessage_raises now hv hm]
    · rw [recordsStorable_cons_of_le (not_lt.mp hv)] at h
      obtain ⟨e, he⟩ := ih s h
      refine ⟨e, ?_⟩
      simp only [handleBatchSync, handleSyncMessage_stale now (not_lt.mp hv), he]
      rfl

theorem handleBatchSync_stale (now : Time) (msgs : List SyncMessage) (s : ClusterStore)
    (h : ∀ m ∈ msgs, m.version ≤ s.syncVersion) : (s.handleBatchSync now msgs).2 = s := by
  induction msgs generalizing s with
  | nil => rfl
  | cons m msgs ih =>
    simp only [handleBatchSync, handleSyncMessage_stale now (h m List.mem_cons_self)]
    exact ih s fun n hn => h n (List.mem_cons_of_mem m hn)

theorem batchSafe_iff (s : ClusterStore) (now later : Time) (msgs : List SyncMessage) :
    BatchSafe deliverBatch syncVersion tasks s now later msgs ↔
      RecordsStorable s.syncVersion msgs := by
  refine ⟨?_, fun h => ?_⟩
  · rintro ⟨hanswers, -⟩
    by_contra hs
    obtain ⟨e, he⟩ := handleBatchSync_raises now msgs s hs
    have hraised : (s.handleBatchSync now msgs).1 = .ok _ := congrArg Prod.fst hanswers
    rw [he] at hraised
    cases hraised
  · have hspec := deliverBatch_spec now msgs s h
    refine batchSafe_of (fun s => RecordsStorable s.syncVersion msgs) h ?_
      (fun s now hs => (deliverBatch_spec now msgs s hs).1) hspec.2
      (fun s now hle => congrArg tasks (handleBatchSync_stale now msgs s hle))
    refine recordsStorable_of_le fun m hm => ?_
    rw [hspec.2]
    exact le_level _ hm

end ClusterStore

/-! ### `SyncReceiver` -/

namespace SyncReceiver

variable {r : SyncReceiver} {now : Time}

/-- A batch and its answers: the number of accepted messages is in the result. -/
def deliverBatch (r : SyncReceiver) (now : Time) (msgs : List SyncMessage) :
    BatchAnswer × SyncReceiver :=
  (((r.receiveBatch now msgs).1.map BatchResult.accepted,
      (r.receiveCalls now msgs).1.map (Except.map SyncResult.isApplied)),
    (r.receiveBatch now msgs).2)

/-- The calls of a batch whose record-setting messages can be stored. -/
theorem receiveCalls_spec (now : Time) (msgs : List SyncMessage) (r : SyncReceiver)
    (h : RecordsStorable r.store.syncVersion msgs) :
    ∃ details : List SyncResult, (r.receiveCalls now msgs).1 = details.map .ok ∧
      details.map SyncResult.isApplied = records SyncMessage.version r.store.syncVersion msgs ∧
      (r.receiveCalls now msgs).2.store.syncVersion =
        level SyncMessage.version r.store.syncVersion msgs := by
  induction msgs generalizing r with
  | nil => exact ⟨[], rfl, rfl, rfl⟩
  | cons m msgs ih =>
    obtain ⟨answer, r', hone⟩ : ∃ answer r', r.receiveSingle now m = (answer, r') := ⟨_, _, rfl⟩
    have hstore : r'.store = (r.receiveSingle now m).2.store := by rw [hone]
    have hanswer : answer = (r.receiveSingle now m).1 := by rw [hone]
    by_cases hv : r.store.syncVersion < m.version
    · obtain ⟨hm, hrest⟩ := (recordsStorable_cons_of_lt hv).mp h
      obtain ⟨happlied, hlogged⟩ := receiveSingle_applied now hv hm
      have hversion : r'.store.syncVersion = m.version := by
        rw [hstore, hlogged, syncVersion_logged now hv]
      obtain ⟨details, hcalls, hdetails, hlevel⟩ := ih r' (by rw [hversion]; exact hrest)
      rw [hversion] at hdetails hlevel
      refine ⟨.applied m.version m.eventType :: details, ?_, ?_, ?_⟩
      · rw [receiveCalls, hone, hanswer, happlied]
        dsimp only
        rw [hcalls, List.map_cons]
      · rw [records_cons, max_eq_right hv.le, decide_eq_true hv, List.map_cons, hdetails]
        rfl
      · rw [receiveCalls, hone, hanswer, happlied, level_cons, max_eq_right hv.le]
        exact hlevel
    · have hle := not_lt.mp hv
      obtain ⟨hstale, hkept⟩ := receiveSingle_stale now hle
      have hversion : r'.store.syncVersion = r.store.syncVersion := by rw [hstore, hkept]
      obtain ⟨details, hcalls, hdetails, hlevel⟩ := ih r'
        (by rw [hversion]; exact (recordsStorable_cons_of_le hle).mp h)
      rw [hversion] at hdetails hlevel
      refine ⟨.staleVersion m.version r.store.syncVersion :: details, ?_, ?_, ?_⟩
      · rw [receiveCalls, hone, hanswer, hstale]
        dsimp only
        rw [hcalls, List.map_cons]
      · rw [records_cons, max_eq_left hle, decide_eq_false hv, List.map_cons, hdetails]
        rfl
      · rw [receiveCalls, hone, hanswer, hstale, level_cons, max_eq_left hle]
        exact hlevel

/-- A record-setting message that cannot be stored is answered by an exception. -/
theorem receiveCalls_raises (now : Time) (msgs : List SyncMessage) (r : SyncReceiver)
    (h : ¬ RecordsStorable r.store.syncVersion msgs) :
    ∃ e, .error e ∈ (r.receiveCalls now msgs).1 := by
  induction msgs generalizing r with
  | nil => exact absurd (recordsStorable_of_le fun m hm => absurd hm List.not_mem_nil) h
  | cons m msgs ih =>
    obtain ⟨answer, r', hone⟩ : ∃ answer r', r.receiveSingle now m = (answer, r') := ⟨_, _, rfl⟩
    have hstore : r'.store = (r.receiveSingle now m).2.store := by rw [hone]
    have hanswer : answer = (r.receiveSingle now m).1 := by rw [hone]
    rw [receiveCalls, hone]
    by_cases hv : r.store.syncVersion < m.version
    · rw [recordsStorable_cons_of_lt hv, not_and] at h
      by_cases hm : storable m = true
      · obtain ⟨happlied, hlogged⟩ := receiveSingle_applied now hv hm
        obtain ⟨e, he⟩ := ih r' (by rw [hstore, hlogged, syncVersion_logged now hv]; exact h hm)
        rw [hanswer, happlied]
        exact ⟨e, List.mem_cons_of_mem _ he⟩
      · rw [hanswer, (receiveSingle_raises now hv hm).1]
        exact ⟨_, List.mem_singleton_self _⟩
    · have hle := not_lt.mp hv
      obtain ⟨hstale, hkept⟩ := receiveSingle_stale now hle
      rw [recordsStorable_cons_of_le hle] at h
      obtain ⟨e, he⟩ := ih r' (by rw [hstore, hkept]; exact h)
      rw [hanswer, hstale]
      exact ⟨e, List.mem_cons_of_mem _ he⟩

theorem receiveCalls_stale (now : Time) (msgs : List SyncMessage) (r : SyncReceiver)
    (h : ∀ m ∈ msgs, m.version ≤ r.store.syncVersion) :
    (r.receiveCalls now msgs).2.store = r.store := by
  induction msgs generalizing r with
  | nil => rfl
  | cons m msgs ih =>
    obtain ⟨answer, r', hone⟩ : ∃ answer r', r.receiveSingle now m = (answer, r') := ⟨_, _, rfl⟩
    obtain ⟨hstale, hkept⟩ := receiveSingle_stale now (h m List.mem_cons_self)
    rw [hone] at hstale hkept
    dsimp only at hstale hkept
    rw [receiveCalls, hone, hstale]
    refine (ih r' fun n hn => ?_).trans hkept
    rw [hkept]
    exact h n (List.mem_cons_of_mem m hn)

theorem deliverBatch_spec (now : Time) (msgs : List SyncMessage) (r : SyncReceiver)
    (h : RecordsStorable r.store.syncVersion msgs) :
    (r.deliverBatch now msgs).1 =
      (.ok ((records SyncMessage.version r.store.syncVersion msgs).count true),
        (records SyncMessage.version r.store.syncVersion msgs).map .ok) ∧
    (r.deliverBatch now msgs).2.store.syncVersion =
      level SyncMessage.version r.store.syncVersion msgs := by
  obtain ⟨details, hcalls, hdetails, hlevel⟩ := receiveCalls_spec now msgs r h
  have hcollect : (r.receiveCalls now msgs).1.mapM id = .ok details := by
    rw [hcalls, List.mapM_map]
    exact (Raise.mapM_ok (g := id) fun _ _ => rfl).trans (by rw [List.map_id])
  have hbatch : (r.receiveBatch now msgs).1.map BatchResult.accepted =
      .ok (details.countP (·.isApplied)) := by
    obtain ⟨results, r', hr⟩ : ∃ results r', r.receiveCalls now msgs = (results, r') :=
      ⟨_, _, rfl⟩
    rw [hr] at hcollect
    rw [receiveBatch, hr]
    dsimp only at hcollect ⊢
    rw [hcollect]
    rfl
  have hcount : (details.map SyncResult.isApplied).count true = details.countP (·.isApplied) := by
    rw [List.count_eq_countP, List.countP_map]
    congr 1
    funext result
    exact beq_true result.isApplied
  refine ⟨Prod.ext ?_ ?_, ?_⟩
  · rw [deliverBatch, hbatch, ← hdetails, hcount]
  · rw [deliverBatch, hcalls, ← hdetails, List.map_map, List.map_map]
    rfl
  · rw [deliverBatch, store_receiveBatch]
    exact hlevel

theorem batchSafe_iff (r : SyncReceiver) (now later : Time) (msgs : List SyncMessage) :
    BatchSafe deliverBatch (fun r => r.store.syncVersion) (fun r => r.store.tasks) r now later
      msgs ↔ RecordsStorable r.store.syncVersion msgs := by
  refine ⟨?_, fun h => ?_⟩
  · rintro ⟨hanswers, -⟩
    by_contra hs
    obtain ⟨e, he⟩ := receiveCalls_raises now msgs r hs
    have hlist : (r.receiveCalls now msgs).1.map (Except.map SyncResult.isApplied) = _ :=
      congrArg Prod.snd hanswers
    have hmem : Except.error e ∈
        (r.receiveCalls now msgs).1.map (Except.map SyncResult.isApplied) :=
      List.mem_map.mpr ⟨_, he, rfl⟩
    rw [hlist, List.mem_map] at hmem
    obtain ⟨_, -, hbad⟩ := hmem
    cases hbad
  · have hspec := deliverBatch_spec now msgs r h
    refine batchSafe_of (fun r => RecordsStorable r.store.syncVersion msgs) h ?_
      (fun r now hs => (deliverBatch_spec now msgs r hs).1) hspec.2 (fun r now hle => ?_)
    · refine recordsStorable_of_le fun m hm => ?_
      rw [hspec.2]
      exact le_level _ hm
    · rw [deliverBatch, store_receiveBatch, receiveCalls_stale now msgs r hle]

end SyncReceiver

/-! ### The three receivers -/

/-- **Batches.**  All three receivers accept exactly the messages that set a record, end at the
largest version, and do nothing when the batch comes again: a `ClusterState` always, a
`ClusterStore` and a `SyncReceiver` over one exactly when SQLite can store the integers of
the messages that set a record. -/
theorem batches_safe_iff (now later : Time) (msgs : List SyncMessage) :
    (∀ s : ClusterState, BatchSafe ClusterState.deliverBatch ClusterState.syncVersion
      ClusterState.tasks s now later msgs) ∧
    (∀ s : ClusterStore, BatchSafe ClusterStore.deliverBatch ClusterStore.syncVersion
      ClusterStore.tasks s now later msgs ↔ RecordsStorable s.syncVersion msgs) ∧
    (∀ r : SyncReceiver, BatchSafe SyncReceiver.deliverBatch (fun r => r.store.syncVersion)
      (fun r => r.store.tasks) r now later msgs ↔ RecordsStorable r.store.syncVersion msgs) :=
  ⟨fun s => ClusterState.batchSafe s now later msgs,
    fun s => ClusterStore.batchSafe_iff s now later msgs,
    fun r => SyncReceiver.batchSafe_iff r now later msgs⟩

/-- A message with version 1 whose time stamp has more than 64 bits. -/
def longAgo : SyncMessage := { version := 1, timestamp := 9223372036854775808 }

/-- A `ClusterState` accepts it; a `ClusterStore` raises, and so does a receiver. -/
theorem batch_unsafe :
    ClusterState.handleBatchSync {} 0 [longAgo] = (1, { syncVersion := 1 }) ∧
      (ClusterStore.handleBatchSync {} 0 [longAgo]).1 = .error .overflowError ∧
      ¬ BatchSafe ClusterStore.deliverBatch ClusterStore.syncVersion ClusterStore.tasks {} 0 1
        [longAgo] ∧
      ¬ BatchSafe SyncReceiver.deliverBatch (fun r => r.store.syncVersion)
        (fun r => r.store.tasks) {} 0 1 [longAgo] := by
  refine ⟨by decide, by decide, ?_, ?_⟩
  · rintro ⟨hanswers, -⟩
    exact absurd hanswers (by decide)
  · rintro ⟨hanswers, -⟩
    exact absurd hanswers (by decide)

end HermesCluster
