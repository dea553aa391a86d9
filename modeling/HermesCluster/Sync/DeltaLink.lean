import HermesCluster.Lib.Run
import HermesCluster.Sync.Coordinator
import HermesCluster.Sync.ReceiverSpec

/-!
# Delta sync between two nodes

A coordinator on one node, a receiver on another and a lossless channel between them:
events are queued, and a cycle hands the pending batch to `receive_batch`.

`queue_task_event` takes its version from the log of messages its own store has
received, which queueing does not change, so every event carries the same version.
Hence `every_event_applied_iff`: every event sent is applied exactly as long as only one
is ever sent.
-/

namespace HermesCluster

open ClusterStore Run

/-- The two nodes, and what has gone over the channel: the messages of all batches and
what `receive_single` made of them. -/
structure DeltaLink where
  coordinator : SyncCoordinator
  receiver : SyncReceiver
  delivered : List SyncMessage := []
  reports : List (Except PyError SyncResult) := []

inductive DeltaOp
  | queueTaskEvent (timestamp : Int) (taskId : TaskId) (title status : String)
      (eventType : SyncEventType) (assignedTo : Option NodeId) (version : Int)
  | cycle (now : Time)

namespace SyncReceiver

/-- The report of a message that is applied. -/
def applied (m : SyncMessage) : Except PyError SyncResult :=
  .ok (.applied m.version m.eventType)

variable {r : SyncReceiver} {now : Time} {m : SyncMessage} {rest : List SyncMessage}

/-- A batch is applied in full exactly when its first message is and then the rest is. -/
theorem receiveCalls_applied_iff :
    (r.receiveCalls now (m :: rest)).1 = (m :: rest).map applied ↔
      (r.receiveSingle now m).1 = applied m ∧
        ((r.receiveSingle now m).2.receiveCalls now rest).1 = rest.map applied := by
  rw [receiveCalls, List.map_cons]
  split
  next result r' hs => rw [hs, List.cons.injEq]
  next e r' hs =>
    rw [hs]
    refine iff_of_false (fun h => ?_) (fun h => ?_)
    · cases (List.cons.inj h).1
    · cases h.1

end SyncReceiver

namespace DeltaLink

open SyncReceiver

/-- Two nodes about to sync for the first time. -/
def start (sender receiver : ClusterStore) (senderId receiverId : NodeId) : DeltaLink :=
  { coordinator := { store := sender, nodeId := senderId }
    receiver := { store := receiver, nodeId := receiverId } }

/-- Queue an event, or run a cycle; a cycle with nothing pending sends nothing. -/
def step (l : DeltaLink) : DeltaOp → DeltaLink
  | .queueTaskEvent timestamp taskId title status eventType assignedTo version =>
    { l with coordinator :=
        l.coordinator.queueTaskEvent timestamp taskId title status eventType assignedTo version }
  | .cycle now =>
    match l.coordinator.drain with
    | ([], coordinator) => { l with coordinator := coordinator }
    | (messages, coordinator) =>
      { coordinator := coordinator
        receiver := (l.receiver.receiveBatch now messages).2
        delivered := l.delivered ++ messages
        reports := l.reports ++ (l.receiver.receiveCalls now messages).1 }

/-- Every message sent so far has been applied. -/
def AllApplied (l : DeltaLink) : Prop := l.reports = l.delivered.map applied

/-- A cycle sends nothing, or the first message of all, alone, and SQLite can store it. -/
def SendsFirst (l : DeltaLink) : DeltaOp → Prop
  | .cycle _ => l.coordinator.pendingMessages = [] ∨
      l.delivered = [] ∧ ∃ m, l.coordinator.pendingMessages = [m] ∧ storable m
  | _ => True

/-- What holds of a link whose sender is at sync version `v`, until a message is lost: all
messages have the version above, and at most one has been sent. -/
structure InStep (v : Int) (l : DeltaLink) : Prop where
  sender : l.coordinator.store.syncVersion = v
  pending : ∀ m ∈ l.coordinator.pendingMessages, m.version = v + 1
  allApplied : AllApplied l
  receiver : l.delivered = [] ∧ l.receiver.store.syncVersion = v ∨
    (∃ m, l.delivered = [m]) ∧ l.receiver.store.syncVersion = v + 1

variable {v : Int} {l : DeltaLink}

theorem inStep_queueTaskEvent (h : InStep v l) (timestamp : Int) (taskId : TaskId)
    (title status : String) (eventType : SyncEventType) (assignedTo : Option NodeId)
    (version : Int) :
    InStep v (l.step
      (.queueTaskEvent timestamp taskId title status eventType assignedTo version)) := by
  refine ⟨h.sender, fun m hm => ?_, h.allApplied, h.receiver⟩
  rcases List.mem_append.mp hm with hm | hm
  · exact h.pending m hm
  · rw [List.mem_singleton.mp hm]
    show l.coordinator.store.syncVersion + 1 = v + 1
    rw [h.sender]

/-- A cycle with nothing pending changes nothing. -/
theorem step_cycle_nil (now : Time) (h : l.coordinator.pendingMessages = []) :
    l.step (.cycle now) = l := by
  obtain ⟨⟨store, nodeId, peers, client, pending⟩, receiver, delivered, reports⟩ := l
  cases h
  rfl

theorem step_cycle_cons (now : Time) {m : SyncMessage} {rest : List SyncMessage}
    (h : l.coordinator.pendingMessages = m :: rest) :
    l.step (.cycle now) =
      { coordinator := { l.coordinator with pendingMessages := [] }
        receiver := (l.receiver.receiveBatch now (m :: rest)).2
        delivered := l.delivered ++ m :: rest
        reports := l.reports ++ (l.receiver.receiveCalls now (m :: rest)).1 } := by
  obtain ⟨⟨store, nodeId, peers, client, pending⟩, receiver, delivered, reports⟩ := l
  cases h
  rfl

/-- When all went well so far, a cycle that sends goes well exactly if its batch does. -/
theorem allApplied_cycle (h : AllApplied l) (now : Time) {m : SyncMessage}
    {rest : List SyncMessage} (hp : l.coordinator.pendingMessages = m :: rest) :
    AllApplied (l.step (.cycle now)) ↔
      (l.receiver.receiveCalls now (m :: rest)).1 = (m :: rest).map applied := by
  rw [step_cycle_cons now hp, AllApplied, List.map_append, ← h]
  exact List.append_right_inj l.reports

/-- A batch goes well exactly when it is a single message, the receiver has had none
before, and SQLite can store it. -/
theorem receiveCalls_inStep (h : InStep v l) (now : Time) {m : SyncMessage}
    {rest : List SyncMessage} (hp : l.coordinator.pendingMessages = m :: rest) :
    (l.receiver.receiveCalls now (m :: rest)).1 = (m :: rest).map applied ↔
      l.delivered = [] ∧ rest = [] ∧ storable m := by
  have hm : m.version = v + 1 := h.pending m (hp ▸ List.mem_cons_self)
  have hnew : l.receiver.store.syncVersion < m.version ↔ l.delivered = [] := by
    rcases h.receiver with ⟨hd, hv⟩ | ⟨⟨m₀, hd⟩, hv⟩
    · simp only [hd, iff_true]
      omega
    · simp only [hd, List.cons_ne_nil, iff_false]
      omega
  rw [receiveCalls_applied_iff, applied, applied_iff, hnew, and_assoc]
  refine and_congr_right fun hd => ?_
  rw [and_comm]
  refine and_congr_left fun hs => ?_
  have hv : (l.receiver.receiveSingle now m).2.store.syncVersion = v + 1 := by
    rw [(receiveSingle_applied now (hnew.mpr hd) hs).2,
      syncVersion_logged now (hnew.mpr hd), hm]
  cases rest with
  | nil => exact iff_of_true rfl rfl
  | cons n rest =>
    -- the second message of the batch has the version of the first
    refine iff_of_false (fun hr => ?_) (List.cons_ne_nil n rest)
    have hn : n.version = v + 1 :=
      h.pending n (hp ▸ List.mem_cons_of_mem m List.mem_cons_self)
    have hlt := (applied_iff now).mp (receiveCalls_applied_iff.mp hr).1
    omega

theorem allApplied_iff (h : InStep v l) (op : DeltaOp) :
    AllApplied (l.step op) ↔ SendsFirst l op := by
  cases op with
  | queueTaskEvent timestamp taskId title status eventType assignedTo version =>
    exact iff_of_true h.allApplied trivial
  | cycle now =>
    cases hp : l.coordinator.pendingMessages with
    | nil =>
      rw [step_cycle_nil now hp]
      exact iff_of_true h.allApplied (Or.inl hp)
    | cons m rest =>
      rw [allApplied_cycle h.allApplied now hp, receiveCalls_inStep h now hp, SendsFirst, hp]
      simp

theorem inStep_step (h : InStep v l) (op : DeltaOp) (happ : AllApplied (l.step op)) :
    InStep v (l.step op) := by
  cases op with
  | queueTaskEvent timestamp taskId title status eventType assignedTo version =>
    exact inStep_queueTaskEvent h timestamp taskId title status eventType assignedTo version
  | cycle now =>
    rcases (allApplied_iff h (.cycle now)).mp happ with hp | ⟨hd, m, hp, hs⟩
    · rw [step_cycle_nil now hp]
      exact h
    · have hm : m.version = v + 1 := h.pending m (hp ▸ List.mem_cons_self)
      have hv : l.receiver.store.syncVersion < m.version := by
        rcases h.receiver with ⟨-, hv⟩ | ⟨⟨m₀, hd'⟩, -⟩
        · omega
        · rw [hd] at hd'
          cases hd'
      have hbatch : (l.receiver.receiveBatch now [m]).2.store.syncVersion = v + 1 := by
        have hsingle := receiveSingle_applied now hv hs
        rw [store_receiveBatch, ← hm, ← syncVersion_logged now hv, ← hsingle.2, receiveCalls]
        split
        · next hc => rw [hc]; rfl
        · next hc => rw [hc]
      rw [step_cycle_cons now hp] at happ ⊢
      refine ⟨h.sender, fun n hn => absurd hn List.not_mem_nil, happ, Or.inr ⟨⟨m, ?_⟩, hbatch⟩⟩
      show l.delivered ++ [m] = [m]
      rw [hd]
      rfl

/-- **Delta sync.**  Two stores start at one sync version and events are queued and
cycles run in any order.  Every message sent is applied, in every state of the run,
exactly when each cycle sends nothing or the first message of all, alone and storable. -/
theorem every_event_applied_iff (sender receiver : ClusterStore) (senderId receiverId : NodeId)
    (hsame : receiver.syncVersion = sender.syncVersion) (run : List DeltaOp) :
    Always step AllApplied (start sender receiver senderId receiverId) run ↔
      EachStep step SendsFirst (start sender receiver senderId receiverId) run := by
  refine always_iff_eachStep (I := InStep sender.syncVersion) (A := fun _ _ => True)
    (fun l h => h.allApplied) (fun l op h _ => allApplied_iff h op)
    (fun l op h _ => inStep_step h op) run _ ?_ (fun _ _ _ => trivial)
  exact ⟨rfl, fun m hm => absurd hm List.not_mem_nil, rfl, Or.inl ⟨rfl, hsame⟩⟩

/-- One event queued and sent is applied. -/
theorem one_event_applied :
    Always step AllApplied (start {} {} "a" "b")
      [.queueTaskEvent 7 "t1" "build" "ready" .taskCreated none 1, .cycle 0] := by
  refine (every_event_applied_iff {} {} "a" "b" rfl _).mpr ?_
  rw [eachStep_cons, eachStep_cons]
  exact ⟨trivial, Or.inr ⟨rfl, _, rfl, by decide⟩, eachStep_nil _⟩

/-- Two events queued and sent together, or one after the other: the second is stale. -/
theorem second_event_lost :
    let first : DeltaOp := .queueTaskEvent 7 "t1" "build" "ready" .taskCreated none 1
    let second : DeltaOp := .queueTaskEvent 8 "t2" "test" "ready" .taskCreated none 1
    let together := exec step (start {} {} "a" "b") [first, second, .cycle 0]
    let apart := exec step (start {} {} "a" "b") [first, .cycle 0, second, .cycle 1]
    together.reports = [.ok (.applied 1 .taskCreated), .ok (.staleVersion 1 1)] ∧
      ¬ AllApplied together ∧
      apart.reports = [.ok (.applied 1 .taskCreated), .ok (.staleVersion 1 1)] ∧
      ¬ AllApplied apart :=
  ⟨rfl, fun h => (by cases h), rfl, fun h => (by cases h)⟩

end DeltaLink

end HermesCluster
