import HermesCluster.Sync.ReceiverSpec

/-!
# The same messages in two orders

A receiver has one version gate for the messages of all tasks.  A message is new if
SQLite can store it and no such message before it, nor the log at the start, has its
version or a higher one; what a store ends up showing of a task is what the last new
message about it wrote.

`replicas_agree_iff`: two receivers that start equal and get the same messages end at
one sync version, whatever the orders, and they agree on the task of the newest message.
On the other tasks they agree exactly when the last new message about each writes the
same in both orders.
-/

namespace HermesCluster

open ClusterStore VersionGate

/-- The new messages of an order, for a store at sync version `v`. -/
def newMessages (v : Int) (msgs : List SyncMessage) : List SyncMessage :=
  passed SyncMessage.version v (msgs.filter storable)

/-- What the last new message about a task writes; what the store has, if there is none. -/
def lastWritten (s : ClusterStore) (msgs : List SyncMessage) (taskId : TaskId) :
    Option (String × Option NodeId × Int) :=
  (((newMessages s.syncVersion msgs).filterMap (written taskId)).getLast?).getD (s.taskView taskId)

namespace SyncReceiver

/-- Every message is delivered once, at the clock reading that goes with it. -/
def deliver (r : SyncReceiver) (run : List (Time × SyncMessage)) : SyncReceiver :=
  run.foldl (fun r m => (r.receiveSingle m.1 m.2).2) r

/-- A batch of messages SQLite can store delivers each of them. -/
theorem receiveCalls_deliver (now : Time) (msgs : List SyncMessage) (r : SyncReceiver)
    (hs : ∀ m ∈ msgs, storable m) :
    (r.receiveCalls now msgs).2 = deliver r (msgs.map fun m => (now, m)) := by
  induction msgs generalizing r with
  | nil => rfl
  | cons m msgs ih =>
    obtain ⟨result, hm⟩ := receiveSingle_returns (r := r) now (hs m List.mem_cons_self)
    have hrest := ih (r.receiveSingle now m).2 fun n hn => hs n (List.mem_cons_of_mem m hn)
    show _ = deliver (r.receiveSingle now m).2 (msgs.map fun m => (now, m))
    rw [← hrest, receiveCalls]
    split
    next hc => rw [hc]
    next hc =>
      rw [hc] at hm
      cases hm

/-- The store is then the same as after single deliveries. -/
theorem store_receiveBatch_deliver (now : Time) (msgs : List SyncMessage) (r : SyncReceiver)
    (hs : ∀ m ∈ msgs, storable m) :
    (r.receiveBatch now msgs).2.store = (deliver r (msgs.map fun m => (now, m))).store := by
  rw [store_receiveBatch, receiveCalls_deliver now msgs r hs]

/-- The gate on a message SQLite can store. -/
def gated (s : ClusterStore) (m : Time × SyncMessage) : ClusterStore :=
  if s.syncVersion < m.2.version then s.logged m.1 m.2 else s

/-- Of the messages delivered only those SQLite can store matter. -/
theorem store_deliver (run : List (Time × SyncMessage)) (r : SyncReceiver) :
    (deliver r run).store = (run.filter fun m => storable m.2).foldl gated r.store := by
  induction run generalizing r with
  | nil => rfl
  | cons m run ih =>
    have hstep : deliver r (m :: run) = deliver (r.receiveSingle m.1 m.2).2 run := rfl
    rw [hstep, ih, List.filter_cons]
    by_cases hs : storable m.2 = true
    · rw [store_receiveSingle m.1 hs, if_pos hs, List.foldl_cons]
      rfl
    · rw [store_receiveSingle_of_not_storable m.1 hs, if_neg hs]

theorem filter_storable (run : List (Time × SyncMessage)) :
    (run.map Prod.snd).filter storable = (run.filter fun m => storable m.2).map Prod.snd :=
  List.filter_map

/-- A message that gets through becomes the level of the gate. -/
theorem syncVersion_through (s : ClusterStore) (m : Time × SyncMessage)
    (h : s.syncVersion < m.2.version) : (s.logged m.1 m.2).syncVersion = m.2.version :=
  syncVersion_logged m.1 h

theorem syncVersion_deliver (r : SyncReceiver) (run : List (Time × SyncMessage)) :
    (deliver r run).store.syncVersion =
      level SyncMessage.version r.store.syncVersion ((run.map Prod.snd).filter storable) := by
  rw [store_deliver, filter_storable, level, List.foldl_map]
  exact lvl_foldl_gated (g := gated) (fun _ _ => rfl) syncVersion_through _ _

theorem taskView_deliver (r : SyncReceiver) (run : List (Time × SyncMessage)) (taskId : TaskId) :
    (deliver r run).store.taskView taskId = lastWritten r.store (run.map Prod.snd) taskId := by
  have hnew : newMessages r.store.syncVersion (run.map Prod.snd) =
      (passed (fun m => m.2.version) r.store.syncVersion
        (run.filter fun m => storable m.2)).map Prod.snd := by
    rw [newMessages, filter_storable, passed_map]
  rw [store_deliver, foldl_gated (g := gated) (fun _ _ => rfl) syncVersion_through, lastWritten,
    hnew, List.filterMap_map]
  exact look_foldl (fun s => s.taskView taskId) (written taskId ∘ Prod.snd)
    (fun s m => taskView_logged s m.1 m.2 taskId) _ _

/-- The newest message is the last new one in every order. -/
theorem lastWritten_newest {s : ClusterStore} {msgs : List SyncMessage} {m : SyncMessage}
    {ts : TaskSync} (hm : m ∈ msgs) (hs : storable m) (hv : s.syncVersion < m.version)
    (hnew : ∀ n ∈ msgs, n ≠ m → n.version < m.version) (hts : m.taskState = some ts) :
    lastWritten s msgs ts.taskId = some (ts.status, ts.assignedTo, ts.version) := by
  have hlast : (newMessages s.syncVersion msgs).getLast? = some m :=
    getLast?_passed _ _ (List.mem_filter.mpr ⟨hm, hs⟩) hv
      fun n hn => hnew n (List.mem_of_mem_filter hn)
  obtain ⟨before, hbefore⟩ := List.getLast?_eq_some_iff.mp hlast
  have hw : written ts.taskId m = some (some (ts.status, ts.assignedTo, ts.version)) := by
    rw [written, hts, Option.filter_some_pos (by simp)]
    rfl
  rw [lastWritten, hbefore, List.filterMap_append, List.filterMap_cons_some hw,
    List.getLast?_append]
  rfl

/-- **Two orders of the same messages.**  The receivers end at one sync version and agree
on the task of the newest message; they agree on every task exactly when the last new
message about it writes the same in both orders. -/
theorem replicas_agree_iff (r r' : SyncReceiver) (hstart : r.store = r'.store)
    (run run' : List (Time × SyncMessage))
    (hperm : (run.map Prod.snd).Perm (run'.map Prod.snd))
    (hdistinct : (run.map fun m => m.2.version).Nodup) :
    (deliver r run).store.syncVersion = (deliver r' run').store.syncVersion ∧
      (∀ m ∈ run.map Prod.snd, storable m → r.store.syncVersion < m.version →
        (∀ n ∈ run.map Prod.snd, n.version ≤ m.version) → ∀ ts, m.taskState = some ts →
        (deliver r run).store.taskView ts.taskId = some (ts.status, ts.assignedTo, ts.version) ∧
        (deliver r' run').store.taskView ts.taskId =
          some (ts.status, ts.assignedTo, ts.version)) ∧
      ((∀ taskId, (deliver r run).store.taskView taskId =
          (deliver r' run').store.taskView taskId) ↔
        ∀ taskId, lastWritten r.store (run.map Prod.snd) taskId =
          lastWritten r.store (run'.map Prod.snd) taskId) := by
  refine ⟨?_, fun m hm hs hv hmax ts hts => ?_, ?_⟩
  · rw [syncVersion_deliver, syncVersion_deliver, hstart]
    exact level_perm _ (hperm.filter _)
  · have hinj := List.inj_on_of_nodup_map (f := SyncMessage.version) (l := run.map Prod.snd)
      (by rw [List.map_map]; exact hdistinct)
    have hnew : ∀ n ∈ run.map Prod.snd, n ≠ m → n.version < m.version := fun n hn hne =>
      lt_of_le_of_ne (hmax n hn) fun he => hne (hinj hn hm he)
    rw [taskView_deliver, taskView_deliver]
    refine ⟨lastWritten_newest hm hs hv hnew hts, ?_⟩
    exact lastWritten_newest (hperm.mem_iff.mp hm) hs (hstart ▸ hv)
      (fun n hn => hnew n (hperm.mem_iff.mpr hn)) hts
  · refine forall_congr' fun taskId => ?_
    rw [taskView_deliver, taskView_deliver, hstart]

/-- A task is running. -/
def started : SyncMessage :=
  { version := 1, taskState := some ⟨"t1", "build", "running", some "n1", 1⟩ }

/-- The same task is completed. -/
def finished : SyncMessage :=
  { version := 2, taskState := some ⟨"t1", "build", "completed", some "n1", 2⟩ }

/-- Another task is running. -/
def otherStarted : SyncMessage :=
  { version := 2, taskState := some ⟨"t2", "test", "running", some "n2", 1⟩ }

/-- Two messages about one task: the newer one wins in both orders. -/
theorem replicas_agree_example :
    (deliver {} [(0, started), (1, finished)]).store.taskView "t1" =
        some ("completed", some "n1", 2) ∧
      (deliver {} [(0, finished), (1, started)]).store.taskView "t1" =
        some ("completed", some "n1", 2) :=
  (replicas_agree_iff {} {} rfl [(0, started), (1, finished)] [(0, finished), (1, started)]
    (List.Perm.swap _ _ _) (by decide)).2.1 finished (by decide) (by decide) (by decide)
    (by decide) _ rfl

/-- Two messages about two tasks: one of the orders loses the older message for good. -/
theorem replicas_disagree :
    [started, otherStarted].Perm [otherStarted, started] ∧ started.version ≠ otherStarted.version ∧
      (deliver {} [(0, started), (1, otherStarted)]).store.taskView "t1" =
        some ("running", some "n1", 1) ∧
      (deliver {} [(0, otherStarted), (1, started)]).store.taskView "t1" = none :=
  ⟨List.Perm.swap _ _ _, by decide, by decide, by decide⟩

end SyncReceiver

end HermesCluster
