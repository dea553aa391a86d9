import HermesCluster.Lib.Run
import HermesCluster.Sync.Coordinator

/-!
# The delta queue

A coordinator with a fixed list of peers: messages are queued, and cycles of
`_do_delta_sync` run with any outcome of each attempt of each send.  What is queued is
recorded beside the coordinator, with the batches it has been sent in and the peers that
accepted them.

A cycle clears the queue before it sends, and puts nothing back.  Hence `kept_iff`: no
message is lost to a peer exactly when every cycle with something pending is accepted by
all peers.
-/

namespace HermesCluster

open Run

/-! ### Who accepts a batch -/

namespace SyncCoordinator

/-- One of the sends to the peer has an accepted attempt among those `send_batch` makes. -/
def Accepts (sends : Nat → Send) (maxRetries : Nat) (peers : List Endpoint) (p : Endpoint) :
    Prop :=
  ∃ i outcome k, peers[i]? = some p ∧ sends i = .attempts outcome ∧
    1 ≤ k ∧ k ≤ maxRetries ∧ outcome k = .accepted

/-- The peers with a report of success. -/
def acceptedBy (reports : List PeerReport) : List Endpoint :=
  (reports.filter (·.success)).map PeerReport.peer

variable {sends : Nat → Send} {maxRetries : Nat} {p : Endpoint}

/-- The first peer accepts, or one of the others does. -/
theorem accepts_cons (peer : Endpoint) (peers : List Endpoint) :
    Accepts sends maxRetries (peer :: peers) p ↔
      (p = peer ∧ ∃ outcome, sends 0 = .attempts outcome ∧
        ∃ k, 1 ≤ k ∧ k ≤ maxRetries ∧ outcome k = .accepted) ∨
      Accepts (fun i => sends (i + 1)) maxRetries peers p := by
  refine ⟨?_, ?_⟩
  · intro ⟨i, outcome, k, hi, hs, hk⟩
    cases i with
    | zero => exact Or.inl ⟨(Option.some.inj hi).symm, outcome, hs, k, hk⟩
    | succ i => exact Or.inr ⟨i, outcome, k, hi, hs, hk⟩
  · intro h
    rcases h with ⟨rfl, outcome, hs, k, hk⟩ | ⟨i, outcome, k, hi, hs, hk⟩
    · exact ⟨0, outcome, k, rfl, hs, hk⟩
    · exact ⟨i + 1, outcome, k, hi, hs, hk⟩

theorem mem_acceptedBy_cons (r : PeerReport) (reports : List PeerReport) :
    p ∈ acceptedBy (r :: reports) ↔ (r.success = true ∧ p = r.peer) ∨ p ∈ acceptedBy reports := by
  rw [acceptedBy, List.filter_cons]
  by_cases hr : r.success = true
  · rw [if_pos hr, List.map_cons, List.mem_cons]
    simp [hr, acceptedBy]
  · rw [if_neg hr]
    simp [hr, acceptedBy]

theorem mem_acceptedBy_sendAll (messages : Nat) (peers : List Endpoint) (client : SyncClient) :
    p ∈ acceptedBy (sendAll messages peers sends client).1 ↔
      Accepts sends client.maxRetries peers p := by
  induction peers generalizing sends client with
  | nil =>
    refine iff_of_false (fun h => by cases h) ?_
    intro ⟨i, _, _, hi, _⟩
    cases hi
  | cons peer peers ih =>
    rw [accepts_cons, sendAll]
    cases hs : sends 0 with
    | raises =>
      rw [mem_acceptedBy_cons, ih]
      simp
    | attempts outcome =>
      rw [mem_acceptedBy_cons, ih, SyncClient.maxRetries_sendBatch, SyncClient.sendBatch_iff]
      simp [and_comm]

/-! ### What a cycle leaves -/

/-- A cycle clears the queue and leaves what its sends make of the client. -/
theorem doDeltaSync_snd (c : SyncCoordinator) (sends : Nat → Send) :
    (c.doDeltaSync sends).2 =
      { c with
        pendingMessages := []
        client := if c.pendingMessages = [] then c.client
          else (sendAll c.pendingMessages.length c.peers sends c.client).2 } := by
  show (if c.pendingMessages = [] then (({} : DeltaSummary), c.drain.2) else (_, _)).2 = _
  by_cases h : c.pendingMessages = []
  · rw [if_pos h, if_pos h, drain]
  · rw [if_neg h, if_neg h]

theorem doDeltaSync_peers (c : SyncCoordinator) (sends : Nat → Send) :
    (c.doDeltaSync sends).2.peers = c.peers := by
  rw [doDeltaSync_snd]

/-- Whatever the peers answer, nothing is pending any more. -/
theorem doDeltaSync_pending (c : SyncCoordinator) (sends : Nat → Send) :
    (c.doDeltaSync sends).2.pendingMessages = [] := by
  rw [doDeltaSync_snd]

end SyncCoordinator

/-! ### The queue and its history -/

/-- A batch that was sent: the place of its first message among all that were queued, its
messages, and the peers that accepted it. -/
structure SentBatch where
  first : Nat
  messages : List SyncMessage
  acceptedBy : List Endpoint

structure DeltaQueue where
  coordinator : SyncCoordinator
  queued : List SyncMessage := []
  batches : List SentBatch := []

inductive DeltaQueueOp
  | queueSyncMessage (msg : SyncMessage)
  | doDeltaSync (sends : Nat → Send)

namespace DeltaQueue

open SyncCoordinator

/-- A coordinator just constructed. -/
def start (store : ClusterStore) (nodeId : NodeId) (peers : List Endpoint) : DeltaQueue :=
  { coordinator := { store := store, nodeId := nodeId, peers := peers } }

/-- How many messages have left the queue. -/
def sent (q : DeltaQueue) : Nat := q.queued.length - q.coordinator.pendingMessages.length

/-- The batch a cycle sends. -/
def batch (q : DeltaQueue) (sends : Nat → Send) : SentBatch :=
  { first := q.sent
    messages := q.coordinator.pendingMessages
    acceptedBy := acceptedBy (sendAll q.coordinator.pendingMessages.length
      q.coordinator.peers sends q.coordinator.client).1 }

/-- Queue a message, or run a cycle; a cycle with nothing pending sends nothing. -/
def step (q : DeltaQueue) : DeltaQueueOp → DeltaQueue
  | .queueSyncMessage msg =>
    { q with
      coordinator := q.coordinator.queueSyncMessage msg
      queued := q.queued ++ [msg] }
  | .doDeltaSync sends =>
    { q with
      coordinator := (q.coordinator.doDeltaSync sends).2
      batches :=
        if q.coordinator.pendingMessages = [] then q.batches else q.batches ++ [q.batch sends] }

/-- The `i`-th message queued is still pending. -/
def Pending (q : DeltaQueue) (i : Nat) : Prop :=
  q.sent ≤ i ∧ q.coordinator.pendingMessages[i - q.sent]? = q.queued[i]?

/-- The batch holds the `i`-th message queued. -/
def Holds (q : DeltaQueue) (b : SentBatch) (i : Nat) : Prop :=
  b.first ≤ i ∧ b.messages[i - b.first]? = q.queued[i]?

/-- Every message queued so far is still pending or, for each peer, in a batch the peer
accepted. -/
def Kept (q : DeltaQueue) : Prop :=
  ∀ i < q.queued.length, ∀ p ∈ q.coordinator.peers,
    q.Pending i ∨ ∃ b ∈ q.batches, p ∈ b.acceptedBy ∧ q.Holds b i

/-- A cycle has nothing to send, or every peer accepts it. -/
def ReachesAll (q : DeltaQueue) : DeltaQueueOp → Prop
  | .queueSyncMessage _ => True
  | .doDeltaSync sends => q.coordinator.pendingMessages = [] ∨
      ∀ p ∈ q.coordinator.peers,
        Accepts sends q.coordinator.client.maxRetries q.coordinator.peers p

/-- The batches lie below what is pending, and no message is lost. -/
structure Accounted (q : DeltaQueue) : Prop where
  pending : q.coordinator.pendingMessages.length ≤ q.queued.length
  batches : ∀ b ∈ q.batches, b.first + b.messages.length ≤ q.sent
  kept : Kept q

variable {q : DeltaQueue}

theorem accounted_start (store : ClusterStore) (nodeId : NodeId) (peers : List Endpoint) :
    Accounted (start store nodeId peers) :=
  ⟨le_refl _, fun _ hb => absurd hb List.not_mem_nil, fun i hi => absurd hi (Nat.not_lt_zero i)⟩

/-! ### Queueing -/

theorem sent_queue (q : DeltaQueue) (msg : SyncMessage) :
    (q.step (.queueSyncMessage msg)).sent = q.sent := by
  show (q.queued ++ [msg]).length - (q.coordinator.pendingMessages ++ [msg]).length = q.sent
  rw [List.length_append, List.length_append, sent]
  have : [msg].length = 1 := rfl
  omega

/-- A message queued is pending, and the others stay where they are. -/
theorem accounted_queue (h : Accounted q) (msg : SyncMessage) :
    Accounted (q.step (.queueSyncMessage msg)) := by
  have hsent := sent_queue q msg
  have hlen : [msg].length = 1 := rfl
  have hp := h.pending
  have hsplit : q.sent + q.coordinator.pendingMessages.length = q.queued.length := by
    rw [sent]
    omega
  refine ⟨?_, ?_, ?_⟩
  · show (q.coordinator.pendingMessages ++ [msg]).length ≤ (q.queued ++ [msg]).length
    rw [List.length_append, List.length_append]
    omega
  · intro b hb
    rw [hsent]
    exact h.batches b hb
  · intro i hi p hmem
    have hqueued : (q.step (.queueSyncMessage msg)).queued = q.queued ++ [msg] := rfl
    have hpending : (q.step (.queueSyncMessage msg)).coordinator.pendingMessages =
        q.coordinator.pendingMessages ++ [msg] := rfl
    rw [hqueued, List.length_append] at hi
    by_cases hold : i < q.queued.length
    · rcases h.kept i hold p hmem with ⟨hle, heq⟩ | ⟨b, hb, hacc, hle, heq⟩
      · refine Or.inl ⟨by omega, ?_⟩
        rw [hqueued, hpending, hsent, List.getElem?_append_left hold,
          List.getElem?_append_left (by omega)]
        exact heq
      · refine Or.inr ⟨b, hb, hacc, hle, ?_⟩
        rw [hqueued, List.getElem?_append_left hold]
        exact heq
    · have hi' : i = q.queued.length := by omega
      refine Or.inl ⟨by omega, ?_⟩
      have hpos : i - q.sent = q.coordinator.pendingMessages.length := by omega
      rw [hqueued, hpending, hsent, hpos, hi', List.getElem?_concat_length,
        List.getElem?_concat_length]

/-! ### A cycle -/

theorem sent_cycle (q : DeltaQueue) (sends : Nat → Send) :
    (q.step (.doDeltaSync sends)).sent = q.queued.length := by
  show q.queued.length - (q.coordinator.doDeltaSync sends).2.pendingMessages.length = _
  rw [doDeltaSync_pending]
  rfl

/-- A cycle with something pending keeps all messages exactly when every peer accepts it. -/
theorem kept_cycle (h : Accounted q) (sends : Nat → Send)
    (hne : q.coordinator.pendingMessages ≠ []) :
    Kept (q.step (.doDeltaSync sends)) ↔
      ∀ p ∈ q.coordinator.peers, p ∈ (q.batch sends).acceptedBy := by
  have hp := h.pending
  have hpos := List.length_pos_iff.mpr hne
  have hsent : q.sent < q.queued.length := by
    rw [sent]
    omega
  have hbatches : (q.step (.doDeltaSync sends)).batches = q.batches ++ [q.batch sends] :=
    if_neg hne
  have hpeers : (q.step (.doDeltaSync sends)).coordinator.peers = q.coordinator.peers :=
    doDeltaSync_peers q.coordinator sends
  rw [Kept, hpeers, hbatches]
  refine ⟨?_, ?_⟩
  · intro hkept p hmem
    -- the first pending message has left the queue in this batch and in no other
    rcases hkept q.sent hsent p hmem with ⟨hle, -⟩ | ⟨b, hb, hacc, hle, heq⟩
    · rw [sent_cycle] at hle
      omega
    · rcases List.mem_append.mp hb with hold | hnew
      · have hbelow := h.batches b hold
        have hnone : b.messages[q.sent - b.first]? = none :=
          List.getElem?_eq_none (by omega)
        have hsome : q.queued[q.sent]? = none := heq.symm.trans hnone
        rw [List.getElem?_eq_none_iff] at hsome
        omega
      · rw [List.mem_singleton.mp hnew] at hacc
        exact hacc
  · intro hall i hi p hmem
    rcases h.kept i hi p hmem with hpend | ⟨b, hb, hacc, hholds⟩
    · exact Or.inr ⟨q.batch sends, List.mem_append_right _ List.mem_cons_self, hall p hmem, hpend⟩
    · exact Or.inr ⟨b, List.mem_append_left _ hb, hacc, hholds⟩

theorem kept_step_iff (h : Accounted q) (op : DeltaQueueOp) :
    Kept (q.step op) ↔ ReachesAll q op := by
  cases op with
  | queueSyncMessage msg => exact iff_of_true (accounted_queue h msg).kept trivial
  | doDeltaSync sends =>
    by_cases hne : q.coordinator.pendingMessages = []
    · refine iff_of_true ?_ (Or.inl hne)
      have hpeers : (q.step (.doDeltaSync sends)).coordinator.peers = q.coordinator.peers :=
        doDeltaSync_peers q.coordinator sends
      have hbatches : (q.step (.doDeltaSync sends)).batches = q.batches := if_pos hne
      intro i hi p hmem
      rw [hpeers] at hmem
      rcases h.kept i hi p hmem with ⟨hle, -⟩ | hb
      · rw [sent, hne] at hle
        exact absurd hi (not_lt.mpr hle)
      · rw [hbatches]
        exact Or.inr hb
    · rw [kept_cycle h sends hne, ReachesAll, or_iff_right hne]
      refine forall₂_congr fun p _ => ?_
      exact mem_acceptedBy_sendAll _ _ _

theorem accounted_step (h : Accounted q) (op : DeltaQueueOp) (hkept : Kept (q.step op)) :
    Accounted (q.step op) := by
  cases op with
  | queueSyncMessage msg => exact accounted_queue h msg
  | doDeltaSync sends =>
    have hp := h.pending
    refine ⟨?_, ?_, hkept⟩
    · show (q.coordinator.doDeltaSync sends).2.pendingMessages.length ≤ q.queued.length
      rw [doDeltaSync_pending]
      exact Nat.zero_le _
    · have hold : ∀ b ∈ q.batches, b.first + b.messages.length ≤ q.queued.length := by
        intro b hb
        have := h.batches b hb
        rw [sent] at this
        omega
      rw [sent_cycle]
      show ∀ b ∈ (if q.coordinator.pendingMessages = [] then q.batches
        else q.batches ++ [q.batch sends]), b.first + b.messages.length ≤ q.queued.length
      intro b hb
      split at hb
      · exact hold b hb
      · rcases List.mem_append.mp hb with hb | hb
        · exact hold b hb
        · rw [List.mem_singleton.mp hb]
          show q.sent + q.coordinator.pendingMessages.length ≤ q.queued.length
          rw [sent]
          omega

/-- **Conservation.**  From a coordinator just constructed, with any list of peers, any run
of queueing and cycles with any outcomes keeps every message, in all its states, exactly
when every peer accepts each cycle that has something to send. -/
theorem kept_iff (store : ClusterStore) (nodeId : NodeId) (peers : List Endpoint)
    (run : List DeltaQueueOp) :
    Always step Kept (start store nodeId peers) run ↔
      EachStep step ReachesAll (start store nodeId peers) run := by
  refine always_iff_eachStep (I := Accounted) (A := fun _ _ => True) (fun q h => h.kept) ?_ ?_
    run _ (accounted_start store nodeId peers) (fun _ _ _ => trivial)
  · intro q op h _
    exact kept_step_iff h op
  · intro q op h _ hkept
    exact accounted_step h op hkept

/-- One message, one peer, and a cycle whose two attempts the peer refuses: the message is
neither pending nor with the peer. -/
theorem refused_message_lost :
    let q := exec step (start {} "node_a" ["http://node-b:8787"])
      [.queueSyncMessage { version := 1 }, .doDeltaSync fun _ => .attempts fun _ => .refused]
    q.coordinator.pendingMessages = [] ∧ q.queued.length = 1 ∧
      q.batches.map SentBatch.acceptedBy = [[]] ∧ ¬ Kept q := by
  refine ⟨rfl, rfl, rfl, ?_⟩
  intro h
  rcases h 0 (by decide) "http://node-b:8787" (by decide) with ⟨hle, -⟩ | ⟨b, hb, hacc, -⟩
  · exact absurd hle (by decide)
  · rw [List.mem_singleton.mp hb] at hacc
    cases hacc

end DeltaQueue

end HermesCluster
