import HermesCluster.Core.Released
import HermesCluster.Sync.Readable

/-!
# What a propagation reports

`_propagate` goes over the tasks that wait for a completed one, then over the list of those it
has made ready, which it may extend.  It decodes every row before each pass, and the rows of the
dependencies during it.

* `run_propagate`, `run_cascade`: as long as the rows decode, a pass resolves the rows that wait
  for its task and returns those that are due, and those after the first return nothing.
* `propagation_reports_iff`: the loop ends within a turn for each task, and the call returns
  exactly the tasks it has made ready exactly if none of its passes comes to a row that does not
  decode.
* `readsPasses_of_hasRoom`: none does while all rows decode and every pending one has a version
  to spare.
-/

namespace HermesCluster

open ClusterStore WorkflowResolver

namespace ClusterStore

/-- The tasks a pass for `c` finds due: pending, waiting for it, with every dependency
completed. -/
def dueOn (s : ClusterStore) (c : TaskId) : List TaskId :=
  ((s.waitingOn c).filter fun q => s.allDone q.dependsOn).map TaskRow.id

theorem id_resolvedRow (s : ClusterStore) (now : Time) (r : TaskRow) :
    (s.resolvedRow now r).id = r.id := by
  rw [resolvedRow]
  split
  · rfl
  split
  · rfl
  · rfl

/-- What a pass for `c` makes of a row. -/
def settledRow (s : ClusterStore) (now : Time) (c : TaskId) (r : TaskRow) : TaskRow :=
  if r ∈ s.waitingOn c then s.resolvedRow now r else r

theorem key_settledRow (s : ClusterStore) (now : Time) (c : TaskId) (r : TaskRow) :
    Keyed.key (s.settledRow now c r) = Keyed.key r := by
  rw [settledRow]
  split
  · exact id_resolvedRow s now r
  · rfl

/-- The table after a pass for `c`. -/
def settled (s : ClusterStore) (now : Time) (c : TaskId) : ClusterStore :=
  { s with tasks := s.tasks.mapRows (s.settledRow now c) (key_settledRow s now c) }

/-- A pass for `c` decodes all it reads: every row before it, and on the way no task depends on
an earlier one of the pass that has been written and is spoiled by it. -/
def ReadsPass (s : ClusterStore) (now : Time) (c : TaskId) : Prop :=
  (∀ r ∈ s.tasks.rows, decodes r = true) ∧
    ∀ a q b, s.waitingOn c = a ++ q :: b → ¬ s.stuck now a q = true

/-- One pass after the other, each over the table the last one left. -/
def ReadsPasses (now : Time) : List TaskId → ClusterStore → Prop
  | [], _ => True
  | c :: cs, s => s.ReadsPass now c ∧ ReadsPasses now cs (s.settled now c)

/-- Nothing but task rows is written, and no row comes or goes. -/
def Rewrites (s s' : ClusterStore) : Prop :=
  s' = { s with tasks := s'.tasks } ∧ s'.tasks.keys = s.tasks.keys

end ClusterStore

variable {s t : ClusterStore} {now : Time} {turns : Nat} {c : TaskId}

/-! ### The table after a pass -/

theorem get?_settled (s : ClusterStore) (now : Time) (c k : TaskId) :
    (s.settled now c).tasks.get? k = (s.tasks.get? k).map (s.settledRow now c) :=
  Table.get?_mapRows _ _ (key_settledRow s now c) k

theorem resolves_settled (s : ClusterStore) (now : Time) (c : TaskId) :
    Resolves s (s.settled now c) := by
  intro k
  cases hr : s.tasks.get? k with
  | none =>
    rw [get?_settled, hr]
    exact .inl rfl
  | some r =>
    rw [statusOf, statusOf, get?_settled, hr, Option.map_some, Option.map_some, Option.map_some,
      settledRow]
    split
    · rename_i hmem
      obtain ⟨-, hp, -⟩ := mem_waitingOn.mp hmem
      rw [resolvedRow]
      split
      · exact .inr ⟨by rw [hp], .inr rfl⟩
      split
      · exact .inr ⟨by rw [hp], .inl rfl⟩
      · exact .inl rfl
    · exact .inl rfl

theorem mem_dueOn {k : TaskId} : k ∈ s.dueOn c ↔
    ∃ r, s.tasks.get? k = some r ∧ r.status = TaskStatus.pending.value ∧ c ∈ r.dependsOn ∧
      s.allDone r.dependsOn = true := by
  rw [dueOn, List.mem_map]
  refine ⟨?_, ?_⟩
  · rintro ⟨r, hr, rfl⟩
    obtain ⟨hmem, hdone⟩ := List.mem_filter.mp hr
    obtain ⟨hget, hp, hc⟩ := mem_waitingOn.mp hmem
    exact ⟨r, hget, hp, hc, hdone⟩
  · rintro ⟨r, hget, hp, hc, hdone⟩
    have hid : r.id = k := Table.key_of_get? hget
    subst hid
    exact ⟨r, List.mem_filter.mpr ⟨mem_waitingOn.mpr ⟨hget, hp, hc⟩, hdone⟩, rfl⟩

theorem nodup_dueOn : (s.dueOn c).Nodup :=
  s.tasks.nodup.sublist ((List.filter_sublist.trans List.filter_sublist).map TaskRow.id)

theorem length_dueOn : (s.dueOn c).length ≤ s.tasks.rows.length := by
  rw [dueOn, List.length_map]
  exact (List.length_filter_le _ _).trans (List.length_filter_le _ _)

/-- The rows a pass turns ready are those that are due. -/
theorem ready_settled (s : ClusterStore) (now : Time) (c k : TaskId) :
    (s.settled now c).statusOf k = some TaskStatus.ready.value ↔
      s.statusOf k = some TaskStatus.ready.value ∨ k ∈ s.dueOn c := by
  rw [mem_dueOn, statusOf, statusOf, get?_settled]
  cases hr : s.tasks.get? k with
  | none => simp
  | some r =>
    have hid : r.id = k := Table.key_of_get? hr
    have hget : s.tasks.get? r.id = some r := by rw [hid, hr]
    simp only [Option.map_some, Option.some.injEq, exists_eq_left']
    rw [settledRow]
    split
    · rename_i hmem
      obtain ⟨-, hp, hc⟩ := mem_waitingOn.mp hmem
      have hnot : ¬ TaskStatus.pending.value = TaskStatus.ready.value := by decide
      rw [hp, or_iff_right hnot]
      by_cases hdone : s.allDone r.dependsOn = true
      · rw [resolvedRow_of_allDone hdone]
        exact iff_of_true rfl ⟨rfl, hc, hdone⟩
      · refine iff_of_false ?_ fun h => hdone h.2.2
        rw [resolvedRow]
        split
        · exact (by decide : ¬ TaskStatus.blocked.value = TaskStatus.ready.value)
        · rw [hp]
          exact hnot
    · rename_i hmem
      refine ⟨Or.inl, fun h => h.resolve_right ?_⟩
      rintro ⟨hp, hc, -⟩
      exact hmem (mem_waitingOn.mpr ⟨hget, hp, hc⟩)

theorem not_completed_settled {k : TaskId} (h : ¬ s.Completed k) :
    ¬ (s.settled now c).Completed k := by
  rw [(resolves_settled s now c).completed_iff]
  exact h

/-- Nothing is due while its own dependency is not completed. -/
theorem dueOn_open (hc : ¬ s.Completed c) : s.dueOn c = [] := by
  refine List.eq_nil_iff_forall_not_mem.mpr fun k hk => ?_
  obtain ⟨r, -, -, hmem, hdone⟩ := mem_dueOn.mp hk
  exact hc (allDone_iff.mp hdone c hmem)

/-! ### One pass -/

theorem rewrites_resolveAll (now : Time) (c : TaskId) (status : TaskStatus) (tasks : List Task)
    (s : ClusterStore) : Rewrites s ((resolveAll now c status tasks).run s).2 := by
  refine rel_resolveAll (R := Rewrites) (fun s => ⟨rfl, rfl⟩) ?_ ?_ c status tasks s
  · intro s s₁ s₂ h₁ h₂
    refine ⟨?_, h₂.2.trans h₁.2⟩
    rw [h₂.1, h₁.1]
  · intro s t r status reason _ _ _
    exact ⟨rfl, Table.keys_modify s.tasks t (withStatus now status reason) fun _ => rfl⟩

/-- In the middle of the table, once all waiting rows are resolved, the pass is over. -/
theorem eq_settled_of_midway (hmid : Midway s now (s.waitingOn c) t) (hrest : Rewrites s t) :
    t = s.settled now c := by
  have htasks : t.tasks = (s.settled now c).tasks := by
    refine Table.eq_of_keys ?_ fun k => ?_
    · rw [hrest.2, settled, Table.keys_mapRows]
    · rw [hmid k, get?_settled]
      rfl
  rw [hrest.1, htasks]
  rfl

theorem handled_eq_iff (seen todo : List TaskRow) : s.handled now seen todo = seen ++ todo ↔
    ∀ a q b, todo = a ++ q :: b → ¬ s.stuck now (seen ++ a) q = true := by
  induction todo generalizing seen with
  | nil => simp [handled]
  | cons q todo ih =>
    rw [handled]
    split
    · rename_i hstuck
      refine iff_of_false (by simp) fun h => h [] q todo rfl ?_
      rwa [List.append_nil]
    · rename_i hgo
      have hassoc : seen ++ q :: todo = seen ++ [q] ++ todo := by
        rw [List.append_assoc, List.singleton_append]
      rw [hassoc, ih]
      refine ⟨fun h a q' b hsplit => ?_, fun h a q' b hsplit => ?_⟩
      · cases a with
        | nil =>
          cases hsplit
          rwa [List.append_nil]
        | cons x a =>
          cases hsplit
          have := h a q' b rfl
          rwa [List.append_assoc] at this
      · have := h (q :: a) q' b (by rw [hsplit]; rfl)
        rwa [List.append_assoc]

/-- A blocked task is turned away. -/
theorem run_resolve_blocked {r : TaskRow} (hr : t.tasks.get? r.id = some r)
    (hdec : decodes r = true) (hb : r.status = TaskStatus.blocked.value) :
    (resolveDependencies now r.id).run t = (.ok false, t) := by
  have hne : (readRow r).status ≠ .pending := by
    rw [readRow_of_status hb]
    exact (by decide : TaskStatus.blocked ≠ TaskStatus.pending)
  rw [resolveDependencies, Prog.run_bind_ok _ (Session.run_getTask_ok (getTask_of_some hr hdec))]
  dsimp only
  rw [if_pos hne]
  rfl

/-- The second loop of `_propagate` does nothing. -/
theorem run_resolveAll_blocked {rows : List TaskRow} (hdec : ∀ r ∈ rows, decodes r = true)
    (h : ∀ r ∈ rows, r.status = TaskStatus.blocked.value → t.tasks.get? r.id = some r) :
    (resolveAll now c .blocked (rows.map readRow)).run t = (.ok [], t) := by
  induction rows with
  | nil => rfl
  | cons r rows ih =>
    have hr := hdec r List.mem_cons_self
    have htail := ih (fun q hq => hdec q (List.mem_cons_of_mem r hq))
      fun q hq => h q (List.mem_cons_of_mem r hq)
    rw [List.map_cons, resolveAll]
    split
    · exact htail
    rename_i hblocked
    split
    · exact htail
    have hb : r.status = TaskStatus.blocked.value := by
      rw [readRow_status hr, not_not.mp hblocked]
    rw [readRow_id,
      Prog.run_bind_ok _ (run_resolve_blocked (h r List.mem_cons_self hb) hr hb),
      Prog.run_bind_ok _ htail]
    rfl

/-- The first loop of `_propagate`, over all rows of the table. -/
theorem run_resolveAll_pending (now : Time) (c : TaskId)
    (hdec : ∀ r ∈ s.tasks.rows, decodes r = true) :
    ∃ res t, (resolveAll now c .pending (s.tasks.rows.map readRow)).run s = (res, t) ∧
      (s.ReadsPass now c ∧ t = s.settled now c ∧ res = .ok (s.dueOn c) ∨
        ¬ s.ReadsPass now c ∧ ∃ e, res = .error e) := by
  have hseen : SeenOf s [] := fun p hp => by cases hp
  have hstart : Midway s now [] s := fun k => by simp
  have hrows : ∀ q ∈ s.waitingOn c, s.tasks.get? q.id = some q ∧
      q.status = TaskStatus.pending.value ∧ c ∈ q.dependsOn := fun q => mem_waitingOn.mp
  obtain ⟨res, t, hrun, hmid, hend⟩ :=
    resolveAll_midway hdec hrows nodup_waitingOn hseen hstart
  have hreads : s.ReadsPass now c ↔ s.handled now [] (s.waitingOn c) = s.waitingOn c := by
    rw [ReadsPass, and_iff_right hdec]
    exact (handled_eq_iff [] _).symm
  refine ⟨res, t, ?_, ?_⟩
  · rw [resolveAll_filter, filter_readRow hdec]
    exact hrun
  · rcases hend with ⟨hall, rfl⟩ | ⟨hall, he⟩
    · refine .inl ⟨hreads.mpr hall, ?_, rfl⟩
      rw [hall] at hmid
      refine eq_settled_of_midway hmid ?_
      have := rewrites_resolveAll now c .pending ((s.waitingOn c).map readRow) s
      rwa [hrun] at this
    · exact .inr ⟨fun h => hall (hreads.mp h), he⟩

/-- **One pass** that decodes all it reads resolves the rows that wait, and the cascade goes on
with those that are due; another raises. -/
theorem run_propagate (now : Time) (turns depth : Nat) (s : ClusterStore) (c : TaskId) :
    (s.ReadsPass now c → (propagate now turns (depth + 1) c).run s =
      (cascade (propagate now turns depth) turns (s.dueOn c)).run (s.settled now c)) ∧
    (¬ s.ReadsPass now c → ∃ e, ((propagate now turns (depth + 1) c).run s).1 = .error e) := by
  rw [propagate]
  by_cases hdec : ∀ r ∈ s.tasks.rows, decodes r = true
  · have hall : s.getAllTasks = .ok (s.tasks.rows.map readRow) := mapM_rowToTask_ok hdec
    rw [Prog.run_bind_ok _ (show Session.getAllTasks.run s = _ from Prog.run_read_ok hall)]
    obtain ⟨res, t, hrun, ⟨hreads, rfl, rfl⟩ | ⟨hraises, e, rfl⟩⟩ :=
      run_resolveAll_pending now c hdec
    · refine ⟨fun _ => ?_, fun h => absurd hreads h⟩
      have hblocked : ∀ r ∈ s.tasks.rows, r.status = TaskStatus.blocked.value →
          (s.settled now c).tasks.get? r.id = some r := by
        intro r hr hb
        refine (resolves_settled s now c).get?_of_ne (Table.mem_rows_iff.mp hr) ?_
        rw [hb]
        decide
      rw [Prog.run_bind_ok _ hrun, Prog.run_bind_ok _ (run_resolveAll_blocked hdec hblocked),
        List.append_nil]
    · refine ⟨fun h => absurd h hraises, fun _ => ⟨e, ?_⟩⟩
      rw [Prog.run_bind_error _ hrun]
  · refine ⟨fun h => absurd h.1 hdec, fun _ => ?_⟩
    cases hall : s.getAllTasks with
    | ok tasks => exact absurd (getAllTasks_ok_iff.mp ⟨tasks, hall⟩) hdec
    | error e =>
      rw [Prog.run_bind_error _ (show Session.getAllTasks.run s = _ from Prog.run_read_error hall)]
      exact ⟨e, rfl⟩

/-! ### The list that is extended -/

/-- The table after one pass after the other. -/
def ClusterStore.settledAll (now : Time) (cs : List TaskId) (s : ClusterStore) : ClusterStore :=
  cs.foldl (fun s c => s.settled now c) s

/-- A pass for a task that is not completed adds nothing to the list. -/
theorem run_propagate_open (depth : Nat) (hc : ¬ s.Completed c) (h : s.ReadsPass now c) :
    (propagate now turns (depth + 1) c).run s = (.ok (some []), s.settled now c) := by
  rw [(run_propagate now turns depth s c).1 h, dueOn_open hc]
  cases turns <;> rfl

/-- **The cascade** over tasks that are not completed ends with the list it began with, or
raises in a pass that comes to a row that does not decode. -/
theorem run_cascade (now : Time) (turns depth : Nat) {tids : List TaskId} {n : Nat}
    {s : ClusterStore} (hopen : ∀ k ∈ tids, ¬ s.Completed k) (hn : tids.length ≤ n) :
    (ReadsPasses now tids s → (cascade (propagate now turns (depth + 1)) n tids).run s =
      (.ok (some tids), s.settledAll now tids)) ∧
    (¬ ReadsPasses now tids s →
      ∃ e, ((cascade (propagate now turns (depth + 1)) n tids).run s).1 = .error e) := by
  induction tids generalizing n s with
  | nil => cases n <;> exact ⟨fun _ => rfl, fun h => absurd trivial h⟩
  | cons tid tids ih =>
    cases n with
    | zero => exact absurd hn (by simp)
    | succ n =>
      rw [cascade]
      by_cases hread : s.ReadsPass now tid
      · have hrest : ∀ k ∈ tids, ¬ (s.settled now tid).Completed k := by
          intro k hk
          rw [(resolves_settled s now tid).completed_iff]
          exact hopen k (List.mem_cons_of_mem tid hk)
        obtain ⟨hok, hraise⟩ := ih hrest (Nat.le_of_succ_le_succ hn)
        rw [Prog.run_bind_ok _ (run_propagate_open depth (hopen tid List.mem_cons_self) hread)]
        dsimp only
        rw [List.append_nil]
        refine ⟨fun h => ?_, fun h => ?_⟩
        · rw [Prog.run_bind_ok _ (hok h.2)]
          rfl
        · obtain ⟨e, he⟩ := hraise fun hpasses => h ⟨hread, hpasses⟩
          refine ⟨e, ?_⟩
          rw [Prog.run_bind_error _ (Prod.ext he rfl)]
      · obtain ⟨e, he⟩ := (run_propagate now turns depth s tid).2 hread
        refine ⟨fun h => absurd h.1 hread, fun _ => ⟨e, ?_⟩⟩
        rw [Prog.run_bind_error _ (Prod.ext he rfl)]

/-- The passes after the first make nothing ready. -/
theorem ready_settledAll {cs : List TaskId} {s : ClusterStore} (hopen : ∀ k ∈ cs, ¬ s.Completed k)
    (k : TaskId) : (s.settledAll now cs).statusOf k = some TaskStatus.ready.value ↔
      s.statusOf k = some TaskStatus.ready.value := by
  induction cs generalizing s with
  | nil => rfl
  | cons c cs ih =>
    have hrest : ∀ k ∈ cs, ¬ (s.settled now c).Completed k :=
      fun k hk => not_completed_settled (hopen k (List.mem_cons_of_mem c hk))
    have hstep := ready_settled s now c k
    rw [dueOn_open (hopen c List.mem_cons_self), or_iff_left (by simp)] at hstep
    exact (ih hrest).trans hstep

/-- A task that is due is not completed. -/
theorem not_completed_of_dueOn {k : TaskId} (h : k ∈ s.dueOn c) : ¬ s.Completed k := by
  obtain ⟨r, hr, hp, -⟩ := mem_dueOn.mp h
  rw [completed_of_some hr, hp]
  decide

/-- The whole propagation, when it decodes all it reads and when it does not. -/
theorem run_onDependencyComplete (now : Time) (c : TaskId)
    (hturns : s.tasks.rows.length ≤ turns) :
    (ReadsPasses now (c :: s.dueOn c) s → (onDependencyComplete now turns c).run s =
      (.ok (some (s.dueOn c)), (s.settled now c).settledAll now (s.dueOn c))) ∧
    (¬ ReadsPasses now (c :: s.dueOn c) s →
      ∃ e, ((onDependencyComplete now turns c).run s).1 = .error e) := by
  obtain ⟨hok, hraise⟩ := run_propagate now turns 9 s c
  have hopen : ∀ k ∈ s.dueOn c, ¬ (s.settled now c).Completed k :=
    fun k hk => not_completed_settled (not_completed_of_dueOn hk)
  obtain ⟨hcok, hcraise⟩ := run_cascade now turns 8 hopen (length_dueOn.trans hturns)
  have hten : (onDependencyComplete now turns c).run s =
      (propagate now turns (9 + 1) c).run s := rfl
  rw [hten]
  refine ⟨fun h => ?_, fun h => ?_⟩
  · rw [hok h.1]
    exact hcok h.2
  · by_cases hread : s.ReadsPass now c
    · rw [hok hread]
      exact hcraise fun hpasses => h ⟨hread, hpasses⟩
    · exact hraise hread

namespace ClusterStore

/-- The call returns, without repetition, exactly the tasks it has made ready. -/
def Reports (s : ClusterStore) (result : Except PyError (Option (List TaskId)) × ClusterStore) :
    Prop :=
  ∃ ids, result.1 = .ok (some ids) ∧ ids.Nodup ∧
    ∀ k, k ∈ ids ↔ s.statusOf k ≠ some TaskStatus.ready.value ∧
      result.2.statusOf k = some TaskStatus.ready.value

end ClusterStore

/-- **Propagation** ends within a turn for each task, and reports exactly the tasks it has made
ready exactly if its passes, the one for `c` and then one for each task that is due, decode all
they read. -/
theorem propagation_reports_iff (s : ClusterStore) (now : Time) (c : TaskId) (turns : Nat)
    (hturns : s.tasks.rows.length ≤ turns) :
    ((onDependencyComplete now turns c).run s).1 ≠ .ok none ∧
    (s.Reports ((onDependencyComplete now turns c).run s) ↔
      ReadsPasses now (c :: s.dueOn c) s) := by
  obtain ⟨hok, hraise⟩ := run_onDependencyComplete now c hturns
  by_cases hreads : ReadsPasses now (c :: s.dueOn c) s
  · rw [hok hreads]
    refine ⟨(fun h => by cases h), iff_of_true ⟨s.dueOn c, rfl, nodup_dueOn, fun k => ?_⟩ hreads⟩
    have hopen : ∀ k ∈ s.dueOn c, ¬ (s.settled now c).Completed k :=
      fun k hk => not_completed_settled (not_completed_of_dueOn hk)
    rw [ready_settledAll hopen, ready_settled]
    refine ⟨fun h => ⟨?_, .inr h⟩, fun h => h.2.resolve_left h.1⟩
    obtain ⟨r, hr, hp, -⟩ := mem_dueOn.mp h
    rw [statusOf, hr, Option.map_some, hp]
    decide
  · obtain ⟨e, he⟩ := hraise hreads
    refine ⟨fun h => ?_, iff_of_false ?_ hreads⟩
    · rw [he] at h
      cases h
    · rintro ⟨ids, hids, -⟩
      rw [he] at hids
      cases hids

/-! ### Tables with a version to spare -/

theorem decodes_resolvedRow {r : TaskRow} (hr : decodes r = true) (hroom : HasRoom r) :
    decodes (s.resolvedRow now r) = true := by
  rw [resolvedRow]
  split
  · exact (decodes_bumped_iff hr (isStatus_value .blocked) rfl).mpr hroom
  split
  · exact (decodes_bumped_iff hr (isStatus_value .ready) rfl).mpr hroom
  · exact hr

/-- A row that is pending after a pass has not been written by it. -/
theorem settledRow_of_pending {r : TaskRow}
    (h : (s.settledRow now c r).status = TaskStatus.pending.value) :
    s.settledRow now c r = r := by
  rw [settledRow] at h ⊢
  split
  · rename_i hmem
    rw [if_pos hmem, resolvedRow] at h
    rw [resolvedRow]
    split
    · rename_i hfail
      rw [if_pos hfail] at h
      exact absurd h (by decide : ¬ TaskStatus.blocked.value = TaskStatus.pending.value)
    rename_i hfail
    rw [if_neg hfail] at h
    split
    · rename_i hdone
      rw [if_pos hdone] at h
      exact absurd h (by decide : ¬ TaskStatus.ready.value = TaskStatus.pending.value)
    · rfl
  · rfl

/-- Every row decodes, and a pending one after another write too. -/
def ClusterStore.PendingHasRoom (s : ClusterStore) : Prop :=
  ∀ r ∈ s.tasks.rows, decodes r = true ∧ (r.status = TaskStatus.pending.value → HasRoom r)

theorem pendingHasRoom_settled (h : s.PendingHasRoom) (now : Time) (c : TaskId) :
    (s.settled now c).PendingHasRoom := by
  intro r' hr'
  obtain ⟨r, hr, rfl⟩ := List.mem_map.mp hr'
  obtain ⟨hdec, hroom⟩ := h r hr
  refine ⟨?_, fun hp => ?_⟩
  · rw [settledRow]
    split
    · rename_i hmem
      exact decodes_resolvedRow hdec (hroom (mem_waitingOn.mp hmem).2.1)
    · exact hdec
  · have hsame := settledRow_of_pending hp
    rw [hsame] at hp ⊢
    exact hroom hp

/-- No pass comes to a row that does not decode. -/
theorem readsPasses_of_hasRoom (h : s.PendingHasRoom) (now : Time) (cs : List TaskId) :
    ReadsPasses now cs s := by
  induction cs generalizing s with
  | nil => trivial
  | cons c cs ih =>
    refine ⟨⟨fun r hr => (h r hr).1, fun a q b hsplit hstuck => ?_⟩,
      ih (pendingHasRoom_settled h now c)⟩
    obtain ⟨d, -, p, hp, -, hbad⟩ := stuck_iff.mp hstuck
    have hmem : p ∈ s.waitingOn c := by
      rw [hsplit]
      exact List.mem_append_left (q :: b) hp
    obtain ⟨hget, hpend, -⟩ := mem_waitingOn.mp hmem
    obtain ⟨hdec, hroom⟩ := h p (Table.mem_of_get? hget)
    rw [decodes_resolvedRow hdec (hroom hpend)] at hbad
    cases hbad

/-- Two synced tasks; the deployment has been given its dependency, and one more write takes its
version beyond 64 bits. -/
def builtTask : TaskSync :=
  { taskId := "task_a", title := "build", status := "completed", version := 1 }

def deployTask : TaskSync :=
  { taskId := "task_b", title := "deploy", status := "pending", version := 9223372036854775806 }

def spentStore : ClusterStore :=
  ((({} : ClusterStore).applyTaskState 1 builtTask).applyTaskState 1 deployTask).setDependencies 2
    "task_b" ["task_a"]

theorem propagation_reports_spentStore :
    spentStore.tasks.rows.length ≤ 2 ∧
    ((onDependencyComplete 3 2 "task_a").run spentStore).1 ≠ .ok none ∧
    (spentStore.Reports ((onDependencyComplete 3 2 "task_a").run spentStore) ↔
      ReadsPasses 3 ("task_a" :: spentStore.dueOn "task_a") spentStore) :=
  ⟨by decide +kernel, propagation_reports_iff spentStore 3 "task_a" 2 (by decide +kernel)⟩

/-- The deployment is made ready, and the call raises instead of reporting it. -/
theorem ready_not_reported :
    (∀ r ∈ spentStore.tasks.rows, decodes r = true) ∧
    ((onDependencyComplete 3 2 "task_a").run spentStore).2.statusOf "task_b" =
      some TaskStatus.ready.value ∧
    ¬ spentStore.Reports ((onDependencyComplete 3 2 "task_a").run spentStore) := by
  refine ⟨by decide +kernel, by decide +kernel, ?_⟩
  rintro ⟨ids, hids, -⟩
  have hraised : ((onDependencyComplete 3 2 "task_a").run spentStore).1.isOk = false := by
    decide +kernel
  rw [hids] at hraised
  cases hraised

end HermesCluster
