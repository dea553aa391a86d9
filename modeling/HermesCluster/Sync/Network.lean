import HermesCluster.Lib.Run
import HermesCluster.Sync.Coordinator
import HermesCluster.Sync.ReceiverSpec
import HermesCluster.Task.Rules

/-!
# Delta sync over a network

Any number of sites, each with a coordinator and a receiver on one store, and a network that may
lose, delay, reorder and repeat what is posted.  A cycle of `_do_delta_sync` is taken apart into
its attempts, so that anything may happen in between: deliveries, other cycles, snapshots and calls
of `TaskManager`.  The list of peers is fixed.

* `cycle_doDeltaSync`: the attempts of a cycle add up to `doDeltaSync`.
* `at_most_once`: in every run the log of a site grows by messages that were queued, each newer
  than all before it, and what a peer is reported to have accepted is not newer than its log.
-/

namespace HermesCluster

/-! ### The log of a store -/

namespace ClusterStore

/-- The log grows by messages of a kind, each newer than all that were there. -/
def LogsNew (P : SyncMessage → Prop) (s s' : ClusterStore) : Prop :=
  ∃ new, s'.syncLog = s.syncLog ++ new ∧ (∀ m ∈ new, P m) ∧
    (new.map SyncMessage.version).Pairwise (· < ·) ∧ ∀ m ∈ new, s.syncVersion < m.version

variable {P Q : SyncMessage → Prop} {s s₁ s₂ : ClusterStore} {now : Time}

theorem LogsNew.of_syncLog (h : s₁.syncLog = s.syncLog) : LogsNew P s s₁ :=
  ⟨[], by rw [h, List.append_nil], fun _ hm => absurd hm List.not_mem_nil, List.Pairwise.nil,
    fun _ hm => absurd hm List.not_mem_nil⟩

theorem LogsNew.imp (h : LogsNew P s s₁) (hPQ : ∀ m, P m → Q m) : LogsNew Q s s₁ := by
  obtain ⟨new, hlog, hP, hsorted, habove⟩ := h
  exact ⟨new, hlog, fun m hm => hPQ m (hP m hm), hsorted, habove⟩

theorem syncVersion_congr (h : s₁.syncLog = s.syncLog) : s₁.syncVersion = s.syncVersion := by
  rw [syncVersion, syncVersion, h]

/-- The sync version does not go back. -/
theorem LogsNew.le (h : LogsNew P s s₁) : s.syncVersion ≤ s₁.syncVersion := by
  obtain ⟨new, hlog, -, -, habove⟩ := h
  cases new with
  | nil =>
    rw [List.append_nil] at hlog
    exact (syncVersion_congr hlog).ge
  | cons m new =>
    have hmem : m ∈ s₁.syncLog := by
      rw [hlog]
      exact List.mem_append_right _ List.mem_cons_self
    exact (habove m List.mem_cons_self).le.trans (le_syncVersion hmem)

theorem LogsNew.trans (h₁ : LogsNew P s s₁) (h₂ : LogsNew P s₁ s₂) : LogsNew P s s₂ := by
  have hle := h₁.le
  obtain ⟨new₁, hlog₁, hP₁, hsorted₁, habove₁⟩ := h₁
  obtain ⟨new₂, hlog₂, hP₂, hsorted₂, habove₂⟩ := h₂
  refine ⟨new₁ ++ new₂, ?_, ?_, ?_, ?_⟩
  · rw [hlog₂, hlog₁, List.append_assoc]
  · intro m hm
    rcases List.mem_append.mp hm with hm | hm
    · exact hP₁ m hm
    · exact hP₂ m hm
  · rw [List.map_append, List.pairwise_append]
    refine ⟨hsorted₁, hsorted₂, ?_⟩
    -- the messages of the first half are in the log when those of the second come
    intro v hv w hw
    obtain ⟨m, hm, rfl⟩ := List.mem_map.mp hv
    obtain ⟨n, hn, rfl⟩ := List.mem_map.mp hw
    have hmem : m ∈ s₁.syncLog := by
      rw [hlog₁]
      exact List.mem_append_right _ hm
    exact (le_syncVersion hmem).trans_lt (habove₂ n hn)
  · intro m hm
    rcases List.mem_append.mp hm with hm | hm
    · exact habove₁ m hm
    · exact hle.trans_lt (habove₂ m hm)

theorem syncLog_createTask {t : TaskId} {title : String} {requires : List Capability}
    {priority : Int} (h : s.createTask now t title requires priority = .ok s₁) :
    s₁.syncLog = s.syncLog := by
  rw [createTask] at h
  split at h
  · cases h
    rfl
  · cases h

/-- No call of `TaskManager` writes the log. -/
theorem syncLog_writes (now : Time) : WriteRules now fun s s' => s'.syncLog = s.syncLog where
  refl _ := rfl
  trans _ _ _ h₁ h₂ := h₂.trans h₁
  createTask _ _ _ h := syncLog_createTask h
  setDependencies _ _ _ := rfl
  setTaskStatus _ _ _ _ := rfl
  setAssignee _ _ := rfl
  updateTask h := by
    rw [updateTask] at h
    split at h
    · cases h
    split at h
    · cases h
    · cases h
      rfl
  deleteTasks _ _ := rfl
  triggerPendingTasks s := look_triggerPendingTasks syncLog (fun _ _ => rfl) s
  schedulePending h := look_schedulePending syncLog (fun _ _ _ _ => rfl) h
  assignTask _ _ := rfl

end ClusterStore

open ClusterStore

/-! ### What a receiver logs -/

namespace SyncReceiver

variable {r : SyncReceiver} {now : Time} {msg : SyncMessage} {messages : List SyncMessage}

theorem logsNew_receiveSingle (r : SyncReceiver) (now : Time) (msg : SyncMessage) :
    LogsNew (· = msg) r.store (r.receiveSingle now msg).2.store := by
  by_cases hs : storable msg = true
  · rw [store_receiveSingle now hs]
    split
    · rename_i hv
      refine ⟨[msg], syncLog_logged r.store now msg, ?_, List.pairwise_singleton _ _, ?_⟩
      · exact fun m hm => List.mem_singleton.mp hm
      · intro m hm
        rwa [List.mem_singleton.mp hm]
    · exact LogsNew.of_syncLog rfl
  · rw [store_receiveSingle_of_not_storable now hs]
    exact LogsNew.of_syncLog rfl

theorem logsNew_receiveCalls (now : Time) (messages : List SyncMessage) (r : SyncReceiver) :
    LogsNew (· ∈ messages) r.store (r.receiveCalls now messages).2.store := by
  induction messages generalizing r with
  | nil => exact LogsNew.of_syncLog rfl
  | cons msg messages ih =>
    have hone : LogsNew (· ∈ msg :: messages) r.store (r.receiveSingle now msg).2.store :=
      (logsNew_receiveSingle r now msg).imp fun m hm => hm ▸ List.mem_cons_self
    rw [receiveCalls]
    rcases hc : r.receiveSingle now msg with ⟨e | result, r₁⟩
    · rwa [hc] at hone
    · rw [hc] at hone
      exact hone.trans ((ih r₁).imp fun m hm => List.mem_cons_of_mem msg hm)

theorem logsNew_receiveBatch (r : SyncReceiver) (now : Time) (messages : List SyncMessage) :
    LogsNew (· ∈ messages) r.store (r.receiveBatch now messages).2.store := by
  rw [store_receiveBatch]
  exact logsNew_receiveCalls now messages r

/-- A message that does not raise is not newer than the log after it. -/
theorem le_syncVersion_receiveSingle {result : SyncResult}
    (h : (r.receiveSingle now msg).1 = .ok result) :
    msg.version ≤ (r.receiveSingle now msg).2.store.syncVersion := by
  by_cases hv : r.store.syncVersion < msg.version
  · by_cases hs : storable msg = true
    · rw [(receiveSingle_applied now hv hs).2, syncVersion_logged now hv]
    · rw [(receiveSingle_raises now hv hs).1] at h
      cases h
  · rw [(receiveSingle_stale now (not_lt.mp hv)).2]
    exact not_lt.mp hv

theorem le_syncVersion_receiveCalls (now : Time) {messages : List SyncMessage} {r : SyncReceiver}
    {details : List SyncResult} (h : (r.receiveCalls now messages).1.mapM id = .ok details) :
    ∀ m ∈ messages, m.version ≤ (r.receiveCalls now messages).2.store.syncVersion := by
  induction messages generalizing r details with
  | nil => exact fun m hm => absurd hm List.not_mem_nil
  | cons msg messages ih =>
    rw [receiveCalls] at h ⊢
    rcases hc : r.receiveSingle now msg with ⟨e | result, r₁⟩
    · rw [hc] at h
      cases h
    · rw [hc] at h
      have hrest : ∃ ds, (r₁.receiveCalls now messages).1.mapM id = .ok ds := by
        cases hm : (r₁.receiveCalls now messages).1.mapM id with
        | ok ds => exact ⟨ds, rfl⟩
        | error e =>
          have herror : (Except.ok result :: (r₁.receiveCalls now messages).1).mapM id =
              (.error e : Except PyError (List SyncResult)) := by
            rw [List.mapM_cons, hm]
            rfl
          rw [herror] at h
          cases h
      obtain ⟨ds, hds⟩ := hrest
      intro m hm
      rcases List.mem_cons.mp hm with rfl | hm
      · -- the rest of the batch does not take the log back
        have hok : (r.receiveSingle now m).1 = .ok result := by rw [hc]
        have hle := le_syncVersion_receiveSingle hok
        rw [hc] at hle
        exact hle.trans (logsNew_receiveCalls now messages r₁).le
      · exact ih hds m hm

/-- No message of a batch that is accepted is newer than the log after it. -/
theorem le_syncVersion_receiveBatch {result : BatchResult}
    (h : (r.receiveBatch now messages).1 = .ok result) :
    ∀ m ∈ messages, m.version ≤ (r.receiveBatch now messages).2.store.syncVersion := by
  rw [store_receiveBatch]
  cases hm : (r.receiveCalls now messages).1.mapM id with
  | ok details => exact le_syncVersion_receiveCalls now hm
  | error e =>
    have herror : (r.receiveBatch now messages).1 = .error e := by
      rw [receiveBatch]
      dsimp only
      rw [hm]
    rw [herror] at h
    cases h

/-- A snapshot is no message. -/
theorem syncLog_mergeNode (s : ClusterStore) (d : NodeData) :
    (mergeNode s d).2.syncLog = s.syncLog := by
  rw [mergeNode]
  split
  · rfl
  split
  · rfl
  · rfl
  split
  · rfl
  · rfl

theorem syncLog_mergeTask (s : ClusterStore) (d : TaskData) :
    (mergeTask s now d).2.syncLog = s.syncLog := by
  rw [mergeTask]
  split
  · rfl
  split
  · rfl
  · split
    · rfl
    · rename_i hcreate
      have hlog := syncLog_createTask hcreate
      dsimp only
      split
      · exact hlog
      · exact hlog
  split
  · rfl
  · rfl

theorem syncLog_mergeAll {δ : Type} {merge : ClusterStore → δ → Bool × ClusterStore}
    (hmerge : ∀ s d, (merge s d).2.syncLog = s.syncLog) (s : ClusterStore) (entities : List δ) :
    (mergeAll merge s entities).2.2.syncLog = s.syncLog := by
  refine Run.exec_keeps (fun acc : Nat × Nat × ClusterStore => acc.2.2.syncLog) (fun acc d => ?_)
    entities (0, 0, s)
  have hone := hmerge acc.2.2 d
  rw [mergeOne]
  split
  · rename_i hm
    rwa [hm] at hone
  · rename_i hm
    rwa [hm] at hone

theorem syncLog_receiveFullState (r : SyncReceiver) (now : Time) (stateData : FullState) :
    (r.receiveFullState now stateData).2.store.syncLog = r.store.syncLog :=
  (syncLog_mergeAll (fun s d => syncLog_mergeTask s d) _ stateData.tasks).trans
    (syncLog_mergeAll syncLog_mergeNode r.store stateData.nodes)

end SyncReceiver

/-! ### Sites -/

/-- The loops of a cycle under way: the peers still to be served, and for the first of them which
attempt is next and how many are left. -/
structure Sending where
  messages : List SyncMessage
  peers : List Endpoint
  attempt : Nat := 1
  left : Nat
deriving DecidableEq

namespace Sending

/-- On to the next peer. -/
def next (sending : Sending) (maxRetries : Nat) : Sending :=
  { sending with peers := sending.peers.tail, attempt := 1, left := maxRetries }

/-- On to the next attempt. -/
def again (sending : Sending) : Sending :=
  { sending with attempt := sending.attempt + 1, left := sending.left - 1 }

end Sending

/-- A coordinator and a receiver, which share the store. -/
structure SyncSite where
  coordinator : SyncCoordinator := {}
  stats : SyncStats := {}
  sending : Option Sending := none
deriving DecidableEq

namespace SyncSite

def store (site : SyncSite) : ClusterStore := site.coordinator.store

def withStore (site : SyncSite) (store : ClusterStore) : SyncSite :=
  { site with coordinator := { site.coordinator with store := store } }

def withClient (site : SyncSite) (client : SyncClient) : SyncSite :=
  { site with coordinator := { site.coordinator with client := client } }

def receiver (site : SyncSite) : SyncReceiver :=
  { store := site.store, nodeId := site.coordinator.nodeId, stats := site.stats }

/-- What the receiver makes of a batch. -/
def receive (site : SyncSite) (now : Time) (messages : List SyncMessage) :
    Except PyError BatchResult × SyncSite :=
  let (result, r) := site.receiver.receiveBatch now messages
  (result, { site.withStore r.store with stats := r.stats })

def receiveFullState (site : SyncSite) (now : Time) (stateData : FullState) : SyncSite :=
  site.withStore (site.receiver.receiveFullState now stateData).2.store

def queueSyncMessage (site : SyncSite) (msg : SyncMessage) : SyncSite :=
  { site with coordinator := site.coordinator.queueSyncMessage msg }

/-- The start of `_do_delta_sync`; the thread makes one cycle after the other. -/
def beginCycle (site : SyncSite) : SyncSite :=
  match site.sending with
  | some _ => site
  | none =>
    let (messages, c) := site.coordinator.drain
    if messages = [] then { site with coordinator := c }
    else { site with
      coordinator := c
      sending := some { messages := messages, peers := c.peers, left := c.client.maxRetries } }

/-- What the loops of `_do_delta_sync` and `send_batch` do next; the outcome is that of the attempt
made, if one is. -/
def advance (site : SyncSite) (outcome : Attempt) : SyncSite :=
  match site.sending with
  | none => site
  | some sending =>
    let client := site.coordinator.client
    if sending.peers = [] then { site with sending := none }
    else if sending.left = 0 then
      { site.withClient client.countFailed with sending := some (sending.next client.maxRetries) }
    else match outcome with
      | .accepted =>
        { site.withClient client.countSent with sending := some (sending.next client.maxRetries) }
      | .refused => { site with sending := some sending.again }
      | .exception =>
        { site.withClient (if sending.attempt < client.maxRetries then client.countRetry
            else client) with sending := some sending.again }

end SyncSite

/-- A request as a client posts it. -/
structure Post where
  peer : Endpoint
  messages : List SyncMessage
deriving DecidableEq

/-- The request of the attempt that is next, if one is. -/
def SyncSite.request (site : SyncSite) : Option Post :=
  site.sending.bind fun sending =>
    if sending.left = 0 then none
    else sending.peers.head?.map fun peer => ⟨peer, sending.messages⟩

/-! ### A cycle without interruption -/

namespace SyncSite

/-- The outcomes that the loop of `send_batch` uses: those of its attempts up to one that is
accepted, or of all and a last turn on which it gives up. -/
def turnsFrom (outcome : Nat → Attempt) (attempt : Nat) : Nat → List Attempt
  | 0 => [.refused]
  | left + 1 =>
    if outcome attempt = .accepted then [.accepted]
    else outcome attempt :: turnsFrom outcome (attempt + 1) left

/-- The outcomes that a cycle uses, with a last turn on which it ends. -/
def cycleTurns (maxRetries : Nat) : List Endpoint → (Nat → Nat → Attempt) → List Attempt
  | [], _ => [.refused]
  | _ :: peers, outcomes =>
    turnsFrom (outcomes 0) 1 maxRetries ++
      cycleTurns maxRetries peers fun i => outcomes (i + 1)

/-- A site in the middle of a cycle. -/
def sendingSite (site : SyncSite) (client : SyncClient) (sending : Sending) : SyncSite :=
  { site.withClient client with sending := some sending }

theorem foldl_turnsFrom (site : SyncSite) (outcome : Nat → Attempt) (messages : List SyncMessage)
    (peer : Endpoint) (peers : List Endpoint) (attempt left : Nat) (client : SyncClient) :
    (turnsFrom outcome attempt left).foldl advance
        (site.sendingSite client ⟨messages, peer :: peers, attempt, left⟩) =
      site.sendingSite (SyncClient.sendFrom outcome attempt left client).2
        ⟨messages, peers, 1, client.maxRetries⟩ := by
  induction left generalizing attempt client with
  | zero => rfl
  | succ left ih =>
    rw [turnsFrom, SyncClient.sendFrom]
    cases ho : outcome attempt with
    | accepted => rfl
    | refused => exact ih (attempt + 1) client
    | exception =>
      have hmax : (if attempt < client.maxRetries then client.countRetry
          else client).maxRetries = client.maxRetries := by
        split
        · rfl
        · rfl
      have hnext := ih (attempt + 1) (if attempt < client.maxRetries then client.countRetry
        else client)
      rw [hmax] at hnext
      exact hnext

theorem foldl_cycleTurns (site : SyncSite) (messages : List SyncMessage) (peers : List Endpoint)
    (outcomes : Nat → Nat → Attempt) (client : SyncClient) :
    (cycleTurns client.maxRetries peers outcomes).foldl advance
        (site.sendingSite client ⟨messages, peers, 1, client.maxRetries⟩) =
      { site.withClient (SyncCoordinator.sendAll messages.length peers
          (fun i => .attempts (outcomes i)) client).2 with sending := none } := by
  induction peers generalizing outcomes client with
  | nil => rfl
  | cons peer peers ih =>
    have hmax : (SyncClient.sendFrom (outcomes 0) 1 client.maxRetries client).2.maxRetries =
        client.maxRetries := SyncClient.maxRetries_sendFrom 1 client.maxRetries
    have hrest := ih (fun i => outcomes (i + 1))
      (SyncClient.sendFrom (outcomes 0) 1 client.maxRetries client).2
    rw [hmax] at hrest
    rw [cycleTurns, List.foldl_append, foldl_turnsFrom, hrest]
    rfl

/-- The attempts of a cycle add up to `_do_delta_sync`. -/
theorem cycle_doDeltaSync (site : SyncSite) (outcomes : Nat → Nat → Attempt)
    (hidle : site.sending = none) :
    (cycleTurns site.coordinator.client.maxRetries site.coordinator.peers outcomes).foldl advance
        site.beginCycle =
      { site with coordinator :=
          (site.coordinator.doDeltaSync fun i => .attempts (outcomes i)).2 } := by
  rw [beginCycle, SyncCoordinator.doDeltaSync, hidle]
  dsimp only [SyncCoordinator.drain]
  split
  · -- nothing is pending, and no turn does anything
    rw [List.foldl_fixed' fun _ => rfl]
  · exact foldl_cycleTurns { site with coordinator := site.coordinator.drain.2 }
      site.coordinator.pendingMessages site.coordinator.peers outcomes site.coordinator.client

end SyncSite

/-! ### The network -/

/-- A machine, which may be reached under several base URLs. -/
abbrev Host := String

/-- The sites, and the requests posted so far, each of which may arrive at any later time and any
number of times.  Beside them what was queued and what a send reported as accepted. -/
structure SyncNet where
  sites : Host → SyncSite
  posted : List Post := []
  queued : List SyncMessage := []
  acknowledged : List Post := []

/-- What becomes of an attempt: the request arrives and the answer comes back, a status of 300 or
above comes back from somewhere, or an exception. -/
inductive PostReply
  | answered (now : Time)
  | refused
  | exception
deriving DecidableEq

inductive NetOp
  | queueSyncMessage (host : Host) (msg : SyncMessage)
  | beginCycle (host : Host)
  | advance (host : Host) (reply : PostReply)
  /-- A request posted before arrives, and its answer is lost. -/
  | arrive (index : Nat) (now : Time)
  | receiveFullState (host : Host) (now : Time) (stateData : FullState)
  | manager (host : Host) (now : Time) (call : TaskOp)

namespace SyncNet

-- the machine a base URL leads to
variable (address : Endpoint → Host)

/-- Coordinators just constructed. -/
def start (coordinators : Host → SyncCoordinator) : SyncNet where
  sites e := { coordinator := { coordinators e with pendingMessages := [] } }

def setSite (net : SyncNet) (e : Host) (site : SyncSite) : SyncNet :=
  { net with sites := Function.update net.sites e site }

/-- A request arrives. -/
def arrive (net : SyncNet) (post : Post) (now : Time) : SyncNet :=
  net.setSite (address post.peer)
    ((net.sites (address post.peer)).receive now post.messages).2

/-- The status its answer has: 200, or 500 if the receiver raises. -/
def answer (net : SyncNet) (post : Post) (now : Time) : Attempt :=
  match ((net.sites (address post.peer)).receive now post.messages).1 with
  | .ok _ => .accepted
  | .error _ => .refused

def post (net : SyncNet) (post : Post) : SyncNet := { net with posted := net.posted ++ [post] }

def advanceSite (net : SyncNet) (e : Host) (outcome : Attempt) : SyncNet :=
  net.setSite e ((net.sites e).advance outcome)

def acknowledge (net : SyncNet) (post : Post) (outcome : Attempt) : SyncNet :=
  { net with
    acknowledged := if outcome = .accepted then net.acknowledged ++ [post] else net.acknowledged }

/-- One attempt: the request is posted, and what comes back goes to the loop of `send_batch`. -/
def attempt (net : SyncNet) (e : Host) (post : Post) : PostReply → SyncNet
  | .refused => (net.post post).advanceSite e .refused
  | .exception => (net.post post).advanceSite e .exception
  | .answered now =>
    let outcome := net.answer address post now
    (((net.post post).arrive address post now).advanceSite e outcome).acknowledge post outcome

/-- One turn of the loops of a cycle; a turn without an attempt has no outcome to use. -/
def advance (net : SyncNet) (e : Host) (reply : PostReply) : SyncNet :=
  match (net.sites e).request with
  | none => net.advanceSite e .refused
  | some post => net.attempt address e post reply

def step (net : SyncNet) : NetOp → SyncNet
  | .queueSyncMessage e msg =>
    { net.setSite e ((net.sites e).queueSyncMessage msg) with queued := net.queued ++ [msg] }
  | .beginCycle e => net.setSite e (net.sites e).beginCycle
  | .advance e reply => net.advance address e reply
  | .arrive index now =>
    match net.posted[index]? with
    | some post => net.arrive address post now
    | none => net
  | .receiveFullState e now stateData =>
    net.setSite e ((net.sites e).receiveFullState now stateData)
  | .manager e now call =>
    net.setSite e ((net.sites e).withStore (TaskOp.step (net.sites e).store (now, call)))

end SyncNet

/-! ### One site -/

namespace SyncSite

theorem store_beginCycle (site : SyncSite) : site.beginCycle.store = site.store := by
  rw [beginCycle]
  split
  · rfl
  · dsimp only
    split
    · rfl
    · rfl

theorem store_advance (site : SyncSite) (outcome : Attempt) :
    (site.advance outcome).store = site.store := by
  rw [advance]
  split
  · rfl
  dsimp only
  split
  · rfl
  split
  · rfl
  split
  · rfl
  · rfl
  · rfl

theorem store_receive (site : SyncSite) (now : Time) (messages : List SyncMessage) :
    (site.receive now messages).2.store =
      (site.receiver.receiveBatch now messages).2.store := rfl

/-- What the site has yet to send. -/
def outgoing (site : SyncSite) : List SyncMessage :=
  site.coordinator.pendingMessages ++ (site.sending.map Sending.messages).getD []

/-- A cycle takes the pending messages, all of them. -/
theorem outgoing_beginCycle (site : SyncSite) : site.beginCycle.outgoing = site.outgoing := by
  rw [beginCycle]
  split
  · rfl
  · rename_i hidle
    dsimp only [SyncCoordinator.drain]
    split
    · rename_i hempty
      rw [outgoing, outgoing, hidle, hempty]
    · rw [outgoing, outgoing, hidle]
      exact (List.append_nil _).symm

theorem outgoing_advance (site : SyncSite) (outcome : Attempt) :
    (site.advance outcome).outgoing ⊆ site.outgoing := by
  rw [advance]
  split
  · exact List.Subset.refl _
  rename_i sending hsending
  have hnone : site.coordinator.pendingMessages ⊆ site.outgoing := List.subset_append_left _ _
  have hsome : site.coordinator.pendingMessages ++ sending.messages ⊆ site.outgoing := by
    rw [outgoing, hsending]
    exact List.Subset.refl _
  dsimp only
  split
  · rw [outgoing]
    exact List.append_subset.mpr ⟨hnone, List.nil_subset _⟩
  split
  · exact hsome
  split
  · exact hsome
  · exact hsome
  · exact hsome

theorem subset_outgoing {site : SyncSite} {post : Post} (h : site.request = some post) :
    post.messages ⊆ site.outgoing := by
  rw [request] at h
  obtain ⟨sending, hsending, hpost⟩ := Option.bind_eq_some_iff.mp h
  split at hpost
  · cases hpost
  · obtain ⟨peer, -, rfl⟩ := Option.map_eq_some_iff.mp hpost
    rw [outgoing, hsending]
    exact List.subset_append_right _ _

end SyncSite

/-! ### The logs -/

namespace SyncNet

variable {address : Endpoint → Host} {net net₁ net₂ : SyncNet}

theorem sites_setSite_self (net : SyncNet) (e : Host) (site : SyncSite) :
    (net.setSite e site).sites e = site := Function.update_self _ _ _

theorem sites_setSite_of_ne {e e' : Host} (h : e' ≠ e) (net : SyncNet) (site : SyncSite) :
    (net.setSite e site).sites e' = net.sites e' := Function.update_of_ne h _ _

/-- The message is in a request posted to the host. -/
def PostedTo (address : Endpoint → Host) (net : SyncNet) (e : Host) (m : SyncMessage) : Prop :=
  ∃ p ∈ net.posted, address p.peer = e ∧ m ∈ p.messages

theorem PostedTo.mono {e : Host} {m : SyncMessage} (hm : net.PostedTo address e m)
    (h : net.posted ⊆ net₁.posted) : net₁.PostedTo address e m := by
  obtain ⟨p, hp, hpeer, hmem⟩ := hm
  exact ⟨p, h hp, hpeer, hmem⟩

/-- From one state to a later one: what is posted stays posted, and the log of a site grows by
messages posted to it, each newer than all before it. -/
structure Later (address : Endpoint → Host) (net net' : SyncNet) : Prop where
  posted : net.posted ⊆ net'.posted
  log : ∀ e, LogsNew (net'.PostedTo address e) (net.sites e).store (net'.sites e).store

theorem Later.trans (h₁ : Later address net net₁) (h₂ : Later address net₁ net₂) :
    Later address net net₂ where
  posted := List.Subset.trans h₁.posted h₂.posted
  log e := ((h₁.log e).imp fun _ hm => hm.mono h₂.posted).trans (h₂.log e)

/-- Nothing but stores that log nothing has changed. -/
theorem Later.of_syncLog (hposted : net.posted ⊆ net₁.posted)
    (hlog : ∀ e, (net₁.sites e).store.syncLog = (net.sites e).store.syncLog) :
    Later address net net₁ :=
  ⟨hposted, fun e => LogsNew.of_syncLog (hlog e)⟩

theorem Later.refl (net : SyncNet) : Later address net net :=
  Later.of_syncLog (List.Subset.refl _) fun _ => rfl

/-- A site is replaced by one with the same log. -/
theorem Later.setSite {e : Host} {site : SyncSite}
    (h : site.store.syncLog = (net.sites e).store.syncLog) :
    Later address net (net.setSite e site) := by
  refine Later.of_syncLog (List.Subset.refl _) fun e' => ?_
  by_cases he : e' = e
  · rw [he, sites_setSite_self]
    exact h
  · rw [sites_setSite_of_ne he]

theorem later_post (net : SyncNet) (post : Post) : Later address net (net.post post) :=
  Later.of_syncLog (List.subset_append_left _ _) fun _ => rfl

theorem later_arrive {post : Post} (h : post ∈ net.posted) (now : Time) :
    Later address net (net.arrive address post now) where
  posted := List.Subset.refl _
  log e := by
    rw [arrive]
    by_cases he : e = address post.peer
    · rw [he, sites_setSite_self, SyncSite.store_receive]
      exact (SyncReceiver.logsNew_receiveBatch _ now post.messages).imp fun m hm =>
        ⟨post, h, rfl, hm⟩
    · rw [sites_setSite_of_ne he]
      exact LogsNew.of_syncLog rfl

theorem later_advanceSite (net : SyncNet) (e : Host) (outcome : Attempt) :
    Later address net (net.advanceSite e outcome) :=
  Later.setSite (congrArg ClusterStore.syncLog (SyncSite.store_advance _ outcome))

theorem later_acknowledge (net : SyncNet) (post : Post) (outcome : Attempt) :
    Later address net (net.acknowledge post outcome) :=
  Later.of_syncLog (List.Subset.refl _) fun _ => rfl

theorem mem_posted_post (net : SyncNet) (post : Post) : post ∈ (net.post post).posted :=
  List.mem_append_right _ List.mem_cons_self

theorem later_attempt (net : SyncNet) (e : Host) (post : Post) (reply : PostReply) :
    Later address net (net.attempt address e post reply) := by
  cases reply with
  | refused => exact (later_post net post).trans (later_advanceSite _ e _)
  | exception => exact (later_post net post).trans (later_advanceSite _ e _)
  | answered now =>
    exact (((later_post net post).trans (later_arrive (mem_posted_post net post) now)).trans
      (later_advanceSite _ e _)).trans (later_acknowledge _ post _)

/-- **One step.** -/
theorem later_step (net : SyncNet) (op : NetOp) : Later address net (net.step address op) := by
  cases op with
  | queueSyncMessage e msg =>
    have hsite : Later address net (net.setSite e ((net.sites e).queueSyncMessage msg)) :=
      Later.setSite rfl
    exact hsite.trans (Later.of_syncLog (List.Subset.refl _) fun _ => rfl)
  | beginCycle e =>
    exact Later.setSite (congrArg ClusterStore.syncLog (SyncSite.store_beginCycle _))
  | advance e reply =>
    show Later address net (net.advance address e reply)
    rw [advance]
    split
    · exact later_advanceSite net e _
    · exact later_attempt net e _ reply
  | arrive index now =>
    rw [step]
    split
    · rename_i post hpost
      exact later_arrive (List.mem_of_getElem? hpost) now
    · exact Later.refl net
  | receiveFullState e now stateData =>
    exact Later.setSite (SyncReceiver.syncLog_receiveFullState _ now stateData)
  | manager e now call =>
    exact Later.setSite (call.keeps (syncLog_writes now) (net.sites e).store)

/-! ### Where the messages come from -/

/-- Nothing is sent that was not queued, and what was reported as accepted is not newer than the
log of the peer. -/
structure Traceable (address : Endpoint → Host) (net : SyncNet) : Prop where
  outgoing : ∀ e, (net.sites e).outgoing ⊆ net.queued
  posted : ∀ p ∈ net.posted, p.messages ⊆ net.queued
  acknowledged : ∀ p ∈ net.acknowledged, p ∈ net.posted ∧
    ∀ m ∈ p.messages, m.version ≤ (net.sites (address p.peer)).store.syncVersion

theorem Traceable.start (coordinators : Host → SyncCoordinator) :
    Traceable address (start coordinators) where
  outgoing _ := List.nil_subset _
  posted _ hp := absurd hp List.not_mem_nil
  acknowledged _ hp := absurd hp List.not_mem_nil

/-- More has been queued. -/
theorem Traceable.queue (h : Traceable address net) (messages : List SyncMessage) :
    Traceable address { net with queued := net.queued ++ messages } where
  outgoing e := List.subset_append_of_subset_left _ (h.outgoing e)
  posted p hp := List.subset_append_of_subset_left _ (h.posted p hp)
  acknowledged := h.acknowledged

/-- A site is replaced by one that has nothing more to send and a log at least as new. -/
theorem Traceable.setSite {e : Host} {site : SyncSite} (h : Traceable address net)
    (hout : site.outgoing ⊆ net.queued)
    (hle : (net.sites e).store.syncVersion ≤ site.store.syncVersion) :
    Traceable address (net.setSite e site) where
  outgoing e' := by
    by_cases he : e' = e
    · rw [he, sites_setSite_self]
      exact hout
    · rw [sites_setSite_of_ne he]
      exact h.outgoing e'
  posted := h.posted
  acknowledged p hp := by
    obtain ⟨hposted, hversion⟩ := h.acknowledged p hp
    refine ⟨hposted, fun m hm => ?_⟩
    by_cases he : address p.peer = e
    · rw [he, sites_setSite_self]
      have hold := hversion m hm
      rw [he] at hold
      exact hold.trans hle
    · rw [sites_setSite_of_ne he]
      exact hversion m hm

theorem Traceable.post {post : Post} (h : Traceable address net)
    (hpost : post.messages ⊆ net.queued) : Traceable address (net.post post) where
  outgoing := h.outgoing
  posted p hp := by
    rcases List.mem_append.mp hp with hp | hp
    · exact h.posted p hp
    · rwa [List.mem_singleton.mp hp]
  acknowledged p hp := by
    obtain ⟨hposted, hversion⟩ := h.acknowledged p hp
    exact ⟨List.mem_append_left _ hposted, hversion⟩

theorem Traceable.arrive (h : Traceable address net) (post : Post) (now : Time) :
    Traceable address (net.arrive address post now) := by
  refine h.setSite ?_ ?_
  · -- receiving touches neither the queue nor the cycle
    exact h.outgoing (address post.peer)
  · rw [SyncSite.store_receive]
    exact (SyncReceiver.logsNew_receiveBatch _ now post.messages).le

theorem Traceable.advanceSite (h : Traceable address net) (e : Host) (outcome : Attempt) :
    Traceable address (net.advanceSite e outcome) := by
  refine h.setSite ?_ ?_
  · exact List.Subset.trans (SyncSite.outgoing_advance _ outcome) (h.outgoing e)
  · rw [SyncSite.store_advance]

theorem Traceable.acknowledge {post : Post} {outcome : Attempt} (h : Traceable address net)
    (hposted : post ∈ net.posted) (hversion : outcome = .accepted → ∀ m ∈ post.messages,
      m.version ≤ (net.sites (address post.peer)).store.syncVersion) :
    Traceable address (net.acknowledge post outcome) where
  outgoing := h.outgoing
  posted := h.posted
  acknowledged p hp := by
    rw [SyncNet.acknowledge] at hp
    dsimp only at hp
    split at hp
    · rename_i haccepted
      rcases List.mem_append.mp hp with hp | hp
      · exact h.acknowledged p hp
      · rw [List.mem_singleton.mp hp]
        exact ⟨hposted, hversion haccepted⟩
    · exact h.acknowledged p hp

/-- An answer below 300 comes from a receiver that has gone through the whole batch. -/
theorem le_syncVersion_arrive {post : Post} {now : Time}
    (h : net.answer address post now = .accepted) : ∀ m ∈ post.messages,
      m.version ≤ ((net.arrive address post now).sites (address post.peer)).store.syncVersion := by
  rw [answer] at h
  split at h
  · rename_i result hresult
    rw [SyncNet.arrive, sites_setSite_self, SyncSite.store_receive]
    exact SyncReceiver.le_syncVersion_receiveBatch hresult
  · cases h

theorem syncVersion_advanceSite (net : SyncNet) (e e' : Host) (outcome : Attempt) :
    ((net.advanceSite e outcome).sites e').store = (net.sites e').store := by
  by_cases he : e' = e
  · rw [SyncNet.advanceSite, he, sites_setSite_self, SyncSite.store_advance]
  · rw [SyncNet.advanceSite, sites_setSite_of_ne he]

theorem Traceable.attempt {post : Post} (h : Traceable address net) (e : Host)
    (hpost : post.messages ⊆ net.queued) (reply : PostReply) :
    Traceable address (net.attempt address e post reply) := by
  cases reply with
  | refused => exact (h.post hpost).advanceSite e .refused
  | exception => exact (h.post hpost).advanceSite e .exception
  | answered now =>
    refine (((h.post hpost).arrive post now).advanceSite e _).acknowledge
      (mem_posted_post net post) fun haccepted => ?_
    rw [syncVersion_advanceSite]
    exact le_syncVersion_arrive haccepted

theorem Traceable.step (h : Traceable address net) (op : NetOp) :
    Traceable address (net.step address op) := by
  cases op with
  | queueSyncMessage e msg =>
    refine (h.queue [msg]).setSite ?_ (le_refl _)
    intro m hm
    rcases List.mem_append.mp hm with hm | hm
    · rcases List.mem_append.mp hm with hm | hm
      · exact List.mem_append_left _ (h.outgoing e (List.mem_append_left _ hm))
      · exact List.mem_append_right _ hm
    · exact List.mem_append_left _ (h.outgoing e (List.mem_append_right _ hm))
  | beginCycle e =>
    refine h.setSite ?_ ?_
    · rw [SyncSite.outgoing_beginCycle]
      exact h.outgoing e
    · rw [SyncSite.store_beginCycle]
  | advance e reply =>
    show Traceable address (net.advance address e reply)
    rw [SyncNet.advance]
    split
    · exact h.advanceSite e .refused
    · rename_i post hpost
      exact h.attempt e (List.Subset.trans (SyncSite.subset_outgoing hpost) (h.outgoing e)) reply
  | arrive index now =>
    rw [SyncNet.step]
    split
    · exact h.arrive _ now
    · exact h
  | receiveFullState e now stateData =>
    refine h.setSite (h.outgoing e) ?_
    exact (syncVersion_congr (SyncReceiver.syncLog_receiveFullState _ now stateData)).ge
  | manager e now call =>
    refine h.setSite (h.outgoing e) ?_
    exact (syncVersion_congr (call.keeps (syncLog_writes now) (net.sites e).store)).ge

/-! ### Runs -/

/-- The state a run leads to. -/
def after (address : Endpoint → Host) (coordinators : Host → SyncCoordinator)
    (run : List NetOp) : SyncNet :=
  Run.exec (SyncNet.step address) (start coordinators) run

theorem traceable_after (address : Endpoint → Host) (coordinators : Host → SyncCoordinator)
    (run : List NetOp) : Traceable address (after address coordinators run) :=
  Run.exec_preserves (C := fun _ _ => True) (fun _ op h _ => h.step op) _ [] run
    (fun _ _ _ => trivial) (Traceable.start coordinators)

theorem later_exec (net : SyncNet) (run : List NetOp) :
    Later address net (Run.exec (SyncNet.step address) net run) := by
  induction run generalizing net with
  | nil => exact Later.refl net
  | cons op run ih => exact (later_step net op).trans (ih _)

/-- **At most once, and in order.**  Between any two moments of any run the log of a host grows by
messages that were queued and posted to it, each newer than all before it, so none is applied
twice and none after a newer one.  What a send reported as accepted was posted, and is not newer
than the log of the host. -/
theorem at_most_once (address : Endpoint → Host) (coordinators : Host → SyncCoordinator)
    (run more : List NetOp) :
    (∀ e, LogsNew
      (fun m => m ∈ (after address coordinators (run ++ more)).queued ∧
        PostedTo address (after address coordinators (run ++ more)) e m)
      ((after address coordinators run).sites e).store
      ((after address coordinators (run ++ more)).sites e).store) ∧
    ∀ p ∈ (after address coordinators run).acknowledged,
      p ∈ (after address coordinators run).posted ∧ ∀ m ∈ p.messages,
        m.version ≤ ((after address coordinators (run ++ more)).sites
          (address p.peer)).store.syncVersion := by
  have htrace := traceable_after address coordinators (run ++ more)
  have hlater : Later address (after address coordinators run)
      (after address coordinators (run ++ more)) := by
    rw [after, after, Run.exec_append]
    exact later_exec _ more
  refine ⟨fun e => (hlater.log e).imp fun m hm => ⟨?_, hm⟩, fun p hp => ?_⟩
  · obtain ⟨p, hp, -, hmem⟩ := hm
    exact htrace.posted p hp hmem
  · obtain ⟨hposted, hversion⟩ := (traceable_after address coordinators run).acknowledged p hp
    exact ⟨hposted, fun m hm => (hversion m hm).trans (hlater.log _).le⟩

-- The answer to the first attempt is lost, and the request comes once more after the second.
example :
    let msg : SyncMessage := { version := 1, senderNode := "node_a" }
    let net := after id (fun _ => { peers := ["node_b"] })
      [.queueSyncMessage "node_a" msg, .beginCycle "node_a", .advance "node_a" .exception,
       .arrive 0 5, .advance "node_a" (.answered 6), .arrive 0 7]
    (net.sites "node_b").store.syncLog.length = 1 ∧
      net.posted = [⟨"node_b", [msg]⟩, ⟨"node_b", [msg]⟩] ∧
      net.acknowledged = [⟨"node_b", [msg]⟩] := by
  decide +kernel

end SyncNet

end HermesCluster
