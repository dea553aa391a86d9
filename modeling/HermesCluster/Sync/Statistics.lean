import HermesCluster.Lib.Raise
import HermesCluster.Lib.Run
import HermesCluster.Sync.ReceiverSpec

/-!
# The statistics of a receiver

`receive_single` counts a message as received and then as applied or rejected.  A message that
raises is only received, and `receive_batch` counts those of a batch that returns as received a
second time.  A receiver takes any store, here a `SyncStore`; over a `ClusterStore` it is
`SyncReceiver` (`toSyncReceiver_receiveBatch`).

* `balance_iff`: along a run over any store the numbers balance exactly if every batch is empty
  and no single message raises.
* `statistics_balance_iff`: what that says of the two stores there are.  The counts a batch
  returns add up in any case.
-/

namespace HermesCluster

open Run

/-- The methods of its store that a receiver calls. -/
class SyncStore (σ : Type) where
  syncVersion : σ → Int
  handleSyncMessage : σ → Time → SyncMessage → Except PyError (Bool × σ)

instance : SyncStore ClusterStore := ⟨ClusterStore.syncVersion, ClusterStore.handleSyncMessage⟩

instance : SyncStore ClusterState :=
  ⟨ClusterState.syncVersion, fun s now msg => .ok (s.handleSyncMessage now msg)⟩

/-- A receiver over any store. -/
structure StoreReceiver (σ : Type) where
  store : σ
  nodeId : NodeId := "node_main"
  stats : SyncStats := {}

/-- A call of the receiver. -/
inductive Receipt
  | single (msg : SyncMessage)
  | batch (messages : List SyncMessage)
deriving DecidableEq, Repr

namespace StoreReceiver

variable {σ : Type} [SyncStore σ]

/-- `receive_single` -/
def receiveSingle (r : StoreReceiver σ) (now : Time) (msg : SyncMessage) :
    Except PyError SyncResult × StoreReceiver σ :=
  let r := { r with stats.received := r.stats.received + 1 }
  let localVersion := SyncStore.syncVersion r.store
  if msg.version ≤ localVersion then
    (.ok (.staleVersion msg.version localVersion),
      { r with stats.rejectedStale := r.stats.rejectedStale + 1 })
  else match SyncStore.handleSyncMessage r.store now msg with
    | .ok (true, store) =>
      (.ok (.applied msg.version msg.eventType),
        { r with store := store, stats.applied := r.stats.applied + 1 })
    | .ok (false, store) =>
      (.ok (.storeRejected msg.version),
        { r with store := store, stats.rejectedStale := r.stats.rejectedStale + 1 })
    | .error e => (.error e, r)

/-- The calls of `receive_single` a batch makes: one for each message, until one raises. -/
def receiveCalls (r : StoreReceiver σ) (now : Time) :
    List SyncMessage → List (Except PyError SyncResult) × StoreReceiver σ
  | [] => ([], r)
  | msg :: rest =>
    match r.receiveSingle now msg with
    | (.ok result, r) =>
      let (results, r) := receiveCalls r now rest
      (.ok result :: results, r)
    | (.error e, r) => ([.error e], r)

/-- `receive_batch` -/
def receiveBatch (r : StoreReceiver σ) (now : Time) (messages : List SyncMessage) :
    Except PyError BatchResult × StoreReceiver σ :=
  let (results, r) := r.receiveCalls now messages
  match results.mapM id with
  | .ok details =>
    (.ok { accepted := details.countP (·.isApplied)
           rejected := details.countP (fun result => !result.isApplied)
           total := messages.length
           details := details },
      { r with stats.received := r.stats.received + messages.length })
  | .error e => (.error e, r)

/-- One call at a clock reading. -/
def receiptStep (r : StoreReceiver σ) : Time × Receipt → StoreReceiver σ
  | (now, .single msg) => (r.receiveSingle now msg).2
  | (now, .batch messages) => (r.receiveBatch now messages).2

omit [SyncStore σ] in
/-- The messages counted as applied or rejected. -/
def handled (r : StoreReceiver σ) : Nat := r.stats.applied + r.stats.rejectedStale

def StatsBalance (r : StoreReceiver σ) : Prop := r.stats.received = r.handled

/-- What a batch that returns says about itself adds up. -/
def AddsUp (r : StoreReceiver σ) : Time × Receipt → Prop
  | (_, .single _) => True
  | (now, .batch messages) => ∀ result, (r.receiveBatch now messages).1 = .ok result →
      result.accepted + result.rejected = result.total ∧ result.total = messages.length

/-- A call that counts no message twice and none half. -/
def CountsOnce (r : StoreReceiver σ) : Time × Receipt → Prop
  | (now, .single msg) => msg.version ≤ SyncStore.syncVersion r.store ∨
      (SyncStore.handleSyncMessage r.store now msg).isOk = true
  | (_, .batch messages) => messages = []

variable {r : StoreReceiver σ} {now : Time} {messages : List SyncMessage}

/-! ### One message -/

/-- A message counts as received, and as handled unless it raises. -/
theorem stats_receiveSingle (r : StoreReceiver σ) (now : Time) (msg : SyncMessage) :
    (r.receiveSingle now msg).2.stats.received = r.stats.received + 1 ∧
      handled (r.receiveSingle now msg).2 =
        handled r + if (r.receiveSingle now msg).1.isOk then 1 else 0 := by
  rw [receiveSingle]
  dsimp only
  by_cases hv : msg.version ≤ SyncStore.syncVersion r.store
  · rw [if_pos hv]
    exact ⟨rfl, rfl⟩
  · rw [if_neg hv]
    rcases SyncStore.handleSyncMessage r.store now msg with e | ⟨_ | _, store⟩
    · exact ⟨rfl, rfl⟩
    · exact ⟨rfl, rfl⟩
    · exact ⟨rfl, Nat.add_right_comm _ 1 _⟩

theorem isOk_receiveSingle (r : StoreReceiver σ) (now : Time) (msg : SyncMessage) :
    (r.receiveSingle now msg).1.isOk = true ↔ r.CountsOnce (now, .single msg) := by
  rw [receiveSingle, CountsOnce]
  dsimp only
  by_cases hv : msg.version ≤ SyncStore.syncVersion r.store
  · rw [if_pos hv]
    exact iff_of_true rfl (.inl hv)
  · rw [if_neg hv, or_iff_right hv]
    rcases SyncStore.handleSyncMessage r.store now msg with e | ⟨_ | _, store⟩
    · exact Iff.rfl
    · exact Iff.rfl
    · exact Iff.rfl

/-! ### A batch -/

/-- The calls of a batch count as they do one by one, and are as many as the messages if none
raises. -/
theorem stats_receiveCalls (now : Time) (messages : List SyncMessage) (r : StoreReceiver σ) :
    (r.receiveCalls now messages).2.stats.received =
        r.stats.received + (r.receiveCalls now messages).1.length ∧
      handled (r.receiveCalls now messages).2 =
        handled r + (r.receiveCalls now messages).1.countP Except.isOk ∧
      ((∀ result ∈ (r.receiveCalls now messages).1, result.isOk = true) →
        (r.receiveCalls now messages).1.length = messages.length) := by
  induction messages generalizing r with
  | nil => exact ⟨rfl, rfl, fun _ => rfl⟩
  | cons msg rest ih =>
    obtain ⟨hreceived, hhandled⟩ := stats_receiveSingle r now msg
    rcases hone : r.receiveSingle now msg with ⟨e | result, r'⟩
    · rw [hone] at hreceived hhandled
      rw [receiveCalls, hone]
      refine ⟨hreceived, hhandled, fun hall => ?_⟩
      have herror := hall _ (List.mem_singleton_self _)
      cases herror
    · rw [hone] at hreceived hhandled
      obtain ⟨hrest, hsum, hlength⟩ := ih r'
      rw [receiveCalls, hone]
      dsimp only at hreceived hhandled ⊢
      rw [List.length_cons, List.countP_cons, List.length_cons, hrest, hsum, hreceived, hhandled]
      refine ⟨Nat.add_right_comm _ 1 _, ?_, fun hall => ?_⟩
      · exact Nat.add_right_comm _ 1 _
      · rw [hlength fun result hr => hall result (List.mem_cons_of_mem _ hr)]

/-- A batch adds up, and is counted once too often for each of its messages. -/
theorem receiveBatch_returns {details : List SyncResult}
    (h : (r.receiveCalls now messages).1.mapM id = .ok details) :
    (∀ result, (r.receiveBatch now messages).1 = .ok result →
      result.accepted + result.rejected = result.total ∧ result.total = messages.length) ∧
    (r.receiveBatch now messages).2.stats.received =
      r.stats.received + messages.length + messages.length ∧
    handled (r.receiveBatch now messages).2 = handled r + messages.length := by
  have hdetails := Raise.eq_map_of_mapM h
  obtain ⟨hreceived, hhandled, hlength⟩ := stats_receiveCalls now messages r
  have hok : ∀ result ∈ (r.receiveCalls now messages).1, result.isOk = true := by
    rw [hdetails]
    intro result hr
    obtain ⟨value, -, rfl⟩ := List.mem_map.mp hr
    rfl
  have hlen := hlength hok
  rw [List.countP_eq_length.mpr hok, hlen] at hhandled
  rw [hlen] at hreceived
  rw [hdetails, List.length_map] at hlen
  rcases hcalls : r.receiveCalls now messages with ⟨results, r'⟩
  rw [hcalls] at h hreceived hhandled
  dsimp only at h hreceived hhandled
  rw [receiveBatch, hcalls]
  dsimp only
  rw [h]
  dsimp only
  refine ⟨fun result hresult => ?_, ?_, hhandled⟩
  · cases hresult
    refine ⟨?_, rfl⟩
    rw [← hlen, List.length_eq_countP_add_countP SyncResult.isApplied]
    simp only [Bool.not_eq_true, Bool.decide_eq_false]
  · rw [hreceived]

/-- A batch that raises leaves the message that raised received and not handled. -/
theorem receiveBatch_raises {e : PyError}
    (h : (r.receiveCalls now messages).1.mapM id = .error e) :
    (r.receiveBatch now messages).1 = .error e ∧
    ∃ n, (r.receiveBatch now messages).2.stats.received = r.stats.received + n ∧
      handled (r.receiveBatch now messages).2 < handled r + n := by
  obtain ⟨hreceived, hhandled, -⟩ := stats_receiveCalls now messages r
  obtain ⟨raised, hmem, hraised⟩ := Raise.exists_of_mapM_error h
  rcases hcalls : r.receiveCalls now messages with ⟨results, r'⟩
  rw [hcalls] at h hreceived hhandled hmem
  dsimp only at h hreceived hhandled hmem
  rw [receiveBatch, hcalls]
  dsimp only
  rw [h]
  refine ⟨rfl, results.length, hreceived, ?_⟩
  have hlt : results.countP Except.isOk < results.length := by
    refine lt_of_le_of_ne List.countP_le_length fun hall => ?_
    have hok := List.countP_eq_length.mp hall raised hmem
    rw [show raised = .error e from hraised] at hok
    cases hok
  rw [hhandled]
  exact Nat.add_lt_add_left hlt _

/-- In either case the counts a batch returns add up. -/
theorem receiveBatch_addsUp (r : StoreReceiver σ) (call : Time × Receipt) : AddsUp r call := by
  obtain ⟨now, msg | messages⟩ := call
  · trivial
  · intro result hresult
    cases h : (r.receiveCalls now messages).1.mapM id with
    | ok details => exact (receiveBatch_returns h).1 result hresult
    | error e =>
      rw [(receiveBatch_raises h).1] at hresult
      cases hresult

/-! ### Any mixture of calls -/

/-- From numbers that balance, a call keeps the balance exactly if it counts once. -/
theorem balanced_receiptStep {r : StoreReceiver σ} (hr : StatsBalance r) (call : Time × Receipt) :
    StatsBalance (receiptStep r call) ↔ CountsOnce r call := by
  have hr' : r.stats.received = handled r := hr
  obtain ⟨now, msg | messages⟩ := call
  · obtain ⟨hreceived, hhandled⟩ := stats_receiveSingle r now msg
    show (r.receiveSingle now msg).2.stats.received = handled (r.receiveSingle now msg).2 ↔ _
    rw [← isOk_receiveSingle r now msg, hreceived, hhandled, hr']
    by_cases hok : (r.receiveSingle now msg).1.isOk = true
    · rw [if_pos hok]
      exact iff_of_true rfl hok
    · rw [if_neg hok]
      exact iff_of_false (Nat.succ_ne_self _) hok
  · show (r.receiveBatch now messages).2.stats.received = handled (r.receiveBatch now messages).2
      ↔ messages = []
    cases h : (r.receiveCalls now messages).1.mapM id with
    | ok details =>
      obtain ⟨-, hreceived, hhandled⟩ := receiveBatch_returns h
      rw [hreceived, hhandled, hr', ← List.length_eq_zero_iff]
      omega
    | error e =>
      obtain ⟨-, n, hreceived, hlt⟩ := receiveBatch_raises h
      refine iff_of_false (fun heq => ?_) ?_
      · rw [heq, hr'] at hreceived
        omega
      · rintro rfl
        cases h

/-- **Over any store** the numbers of a new receiver balance throughout a run, and those its
batches return add up, exactly if every batch is empty and no single message raises. -/
theorem balance_iff (store : σ) (nodeId : NodeId) (run : List (Time × Receipt)) :
    Always receiptStep StatsBalance { store := store, nodeId := nodeId } run ∧
        EachStep receiptStep AddsUp { store := store, nodeId := nodeId } run ↔
      EachStep receiptStep CountsOnce { store := store, nodeId := nodeId } run := by
  have hadds : EachStep receiptStep AddsUp { store := store, nodeId := nodeId } run :=
    fun l call _ => receiveBatch_addsUp _ call
  rw [and_iff_left hadds]
  exact always_iff_eachStep (I := StatsBalance) (A := fun _ _ => True) (fun _ h => h)
    (fun r call hr _ => balanced_receiptStep hr call) (fun _ _ _ _ h => h) run _ rfl
    fun _ _ _ => trivial

/-! ### The two stores -/

/-- A `SyncReceiver` is a receiver over a `ClusterStore`. -/
abbrev toSyncReceiver (r : StoreReceiver ClusterStore) : SyncReceiver :=
  { store := r.store, nodeId := r.nodeId, stats := r.stats }

theorem toSyncReceiver_receiveSingle (r : StoreReceiver ClusterStore) (now : Time)
    (msg : SyncMessage) : r.toSyncReceiver.receiveSingle now msg =
      ((r.receiveSingle now msg).1, (r.receiveSingle now msg).2.toSyncReceiver) := by
  by_cases hv : msg.version ≤ r.store.syncVersion
  · simp only [SyncReceiver.receiveSingle, receiveSingle, toSyncReceiver, SyncStore.syncVersion,
      if_pos hv]
  · simp only [SyncReceiver.receiveSingle, receiveSingle, toSyncReceiver, SyncStore.syncVersion,
      SyncStore.handleSyncMessage, if_neg hv]
    rcases r.store.handleSyncMessage now msg with e | ⟨_ | _, store⟩
    · rfl
    · rfl
    · rfl

theorem toSyncReceiver_receiveCalls (now : Time) (messages : List SyncMessage)
    (r : StoreReceiver ClusterStore) : r.toSyncReceiver.receiveCalls now messages =
      ((r.receiveCalls now messages).1, (r.receiveCalls now messages).2.toSyncReceiver) := by
  induction messages generalizing r with
  | nil => rfl
  | cons msg rest ih =>
    rw [SyncReceiver.receiveCalls, toSyncReceiver_receiveSingle, receiveCalls]
    rcases r.receiveSingle now msg with ⟨e | result, r'⟩
    · rfl
    · dsimp only
      rw [ih r']

theorem toSyncReceiver_receiveBatch (r : StoreReceiver ClusterStore) (now : Time)
    (messages : List SyncMessage) : r.toSyncReceiver.receiveBatch now messages =
      ((r.receiveBatch now messages).1, (r.receiveBatch now messages).2.toSyncReceiver) := by
  rw [SyncReceiver.receiveBatch, toSyncReceiver_receiveCalls, receiveBatch]
  rcases r.receiveCalls now messages with ⟨results, r'⟩
  dsimp only
  cases results.mapM id with
  | error e => rfl
  | ok details => rfl

/-- A `ClusterStore` refuses no message it can store. -/
theorem isOk_handleSyncMessage (s : ClusterStore) (now : Time) (msg : SyncMessage) :
    msg.version ≤ s.syncVersion ∨ (s.handleSyncMessage now msg).isOk = true ↔
      msg.version ≤ s.syncVersion ∨ ClusterStore.storable msg = true := by
  by_cases hv : msg.version ≤ s.syncVersion
  · exact iff_of_true (.inl hv) (.inl hv)
  rw [or_iff_right hv, or_iff_right hv]
  have hlt := not_le.mp hv
  by_cases hs : ClusterStore.storable msg = true
  · rw [ClusterStore.handleSyncMessage_applied now hlt hs]
    exact iff_of_true rfl hs
  · rw [ClusterStore.handleSyncMessage_raises now hlt hs]
    exact iff_of_false (fun h => by cases h) hs

/-- A single message that is stale or that SQLite can store, or an empty batch. -/
def StoresOnce (r : StoreReceiver ClusterStore) : Time × Receipt → Prop
  | (_, .single msg) => msg.version ≤ r.store.syncVersion ∨ ClusterStore.storable msg = true
  | (_, .batch messages) => messages = []

end StoreReceiver

open StoreReceiver

/-- **The statistics balance**, and the counts that batches return add up, exactly if every batch
is empty and, over a `ClusterStore`, every single message is stale or can be stored. -/
theorem statistics_balance_iff (nodeId : NodeId) (run : List (Time × Receipt)) :
    (∀ store : ClusterStore,
      Always receiptStep StatsBalance { store := store, nodeId := nodeId } run ∧
          EachStep receiptStep AddsUp { store := store, nodeId := nodeId } run ↔
        EachStep receiptStep StoresOnce { store := store, nodeId := nodeId } run) ∧
    ∀ store : ClusterState,
      Always receiptStep StatsBalance { store := store, nodeId := nodeId } run ∧
          EachStep receiptStep AddsUp { store := store, nodeId := nodeId } run ↔
        ∀ now messages, (now, Receipt.batch messages) ∈ run → messages = [] := by
  refine ⟨fun store => (balance_iff store nodeId run).trans ?_,
    fun store => (balance_iff store nodeId run).trans ?_⟩
  · refine eachStep_congr (fun r call => ?_) _ run
    obtain ⟨now, msg | messages⟩ := call
    · exact isOk_handleSyncMessage r.store now msg
    · exact Iff.rfl
  · refine ⟨fun h now messages hmem => ?_, fun h l call hl => ?_⟩
    · obtain ⟨l, m, hsplit⟩ := List.append_of_mem hmem
      refine h l (now, .batch messages) ⟨m, ?_⟩
      rw [hsplit, List.append_assoc, List.singleton_append]
    · obtain ⟨now, msg | messages⟩ := call
      · exact Or.inr rfl
      · exact h now messages (hl.subset (by simp))

/-- A single new message, sent as a batch: received twice and applied once. -/
theorem batch_counted_twice :
    (exec receiptStep ({ store := {} } : StoreReceiver ClusterStore)
      [(7, .batch [{ version := 1 }])]).stats =
      { received := 2, applied := 1, rejectedStale := 0 } ∧
    ¬ Always receiptStep StatsBalance ({ store := {} } : StoreReceiver ClusterStore)
      [(7, .batch [{ version := 1 }])] := by
  have hstats : (exec receiptStep ({ store := {} } : StoreReceiver ClusterStore)
      [(7, .batch [{ version := 1 }])]).stats =
      { received := 2, applied := 1, rejectedStale := 0 } := by decide +kernel
  refine ⟨hstats, fun h => ?_⟩
  have hlast : StatsBalance (exec receiptStep ({ store := {} } : StoreReceiver ClusterStore)
      [(7, .batch [{ version := 1 }])]) := h _ (List.prefix_refl _)
  rw [StatsBalance, handled, hstats] at hlast
  exact absurd hlast (by decide)

end HermesCluster
