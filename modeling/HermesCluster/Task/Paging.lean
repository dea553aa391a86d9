import HermesCluster.Lib.StableSort
import HermesCluster.Task.Listing
import HermesCluster.Task.Rules

/-!
# Reading a long list in pages

`list_tasks` takes an offset and a limit, and a client asks for one page after the other until it
gets a short one.  Other requests come in between.  New rows go last and get the clock reading as
their `created_at`, and no write changes that column, so the list sorted by it is only added to.

* `appends_step`: what a step that deletes nothing does to the ids and their times.
* `byAge_run`: so the list oldest first is a prefix of what it is later.
* `pages_exact`: and its pages are the whole list, each task once, whatever comes in between.
-/

namespace HermesCluster

open ClusterStore TaskManager

namespace ClusterStore

/-- The tasks with the times of their creation, in row order. -/
def created (s : ClusterStore) : List (TaskId × Time) :=
  s.tasks.rows.map fun r => (r.id, r.createdAt)

/-- Tasks are added at the clock reading, and that is all. -/
def Appends (now : Time) (s s' : ClusterStore) : Prop :=
  ∃ new, s'.created = s.created ++ new ∧ ∀ p ∈ new, p.2 = now

variable {now : Time} {s s' : ClusterStore} {t : TaskId}

theorem Appends.of_created (h : s'.created = s.created) : Appends now s s' :=
  ⟨[], by rw [h, List.append_nil], fun _ hp => absurd hp List.not_mem_nil⟩

theorem Appends.of_tasks (h : s'.tasks = s.tasks) : Appends now s s' :=
  Appends.of_created (by rw [created, created, h])

theorem Appends.trans (a b c : ClusterStore) (h₁ : Appends now a b) (h₂ : Appends now b c) :
    Appends now a c := by
  obtain ⟨new₁, heq₁, hnow₁⟩ := h₁
  obtain ⟨new₂, heq₂, hnow₂⟩ := h₂
  refine ⟨new₁ ++ new₂, by rw [heq₂, heq₁, List.append_assoc], fun p hp => ?_⟩
  rcases List.mem_append.mp hp with hp | hp
  · exact hnow₁ p hp
  · exact hnow₂ p hp

/-! ### The updates of a row -/

/-- The update keeps the id and the time of creation. -/
def KeepsCreation (f : TaskRow → TaskRow) : Prop :=
  ∀ r, (f r).id = r.id ∧ (f r).createdAt = r.createdAt

theorem created_modify {f : TaskRow → TaskRow}
    (h : s'.tasks.rows = s.tasks.rows.map fun r => if Keyed.key r = t then f r else r)
    (hf : KeepsCreation f) : s'.created = s.created := by
  rw [created, h, List.map_map]
  refine List.map_congr_left fun r _ => ?_
  dsimp only [Function.comp_apply]
  split
  · rw [(hf r).1, (hf r).2]
  · rfl

theorem Appends.of_modify {f : TaskRow → TaskRow}
    (h : s'.tasks.rows = s.tasks.rows.map fun r => if Keyed.key r = t then f r else r)
    (hf : KeepsCreation f) : Appends now s s' :=
  Appends.of_created (created_modify h hf)

/-- A row that is new goes last. -/
theorem Appends.of_append {r : TaskRow} (hr : s.tasks.get? r.id = none)
    (h : s'.tasks = s.tasks.append r hr) (hnow : r.createdAt = now) : Appends now s s' := by
  refine ⟨[(r.id, r.createdAt)], ?_, fun p hp => ?_⟩
  · have hrows : s'.tasks.rows = s.tasks.rows ++ [r] := by
      rw [h]
      rfl
    rw [created, hrows, List.map_append]
    rfl
  · rw [List.mem_singleton.mp hp]
    exact hnow

theorem keepsCreation_madeReady : KeepsCreation (madeReady now) := by
  intro r
  rw [madeReady]
  split
  · exact ⟨rfl, rfl⟩
  · exact ⟨rfl, rfl⟩

theorem keepsCreation_unblocked : KeepsCreation (unblocked now) := by
  intro r
  rw [unblocked]
  split
  · exact ⟨rfl, rfl⟩
  · exact ⟨rfl, rfl⟩

theorem keepsCreation_updatedBy (title : Option String) (priority : Option Int)
    (requires : Option (List Capability)) (deps : Option (List TaskId)) :
    KeepsCreation (updatedBy now title priority requires deps) := by
  intro r
  rw [updatedBy]
  split
  · exact ⟨rfl, rfl⟩
  · exact ⟨rfl, rfl⟩

/-! ### The writes -/

theorem appends_createTask {title : String} {requires : List Capability} {priority : Int}
    (h : s.createTask now t title requires priority = .ok s') : Appends now s s' := by
  rw [createTask] at h
  split at h
  · cases h
    -- the row is there first, and then promoted
    refine Appends.trans _ { s with tasks := s.tasks.insertIgnore _ } _ ?_
      (Appends.of_modify rfl fun r => ?_)
    · by_cases hnone : s.tasks.get? t = none
      · exact Appends.of_append hnone (dif_pos hnone) rfl
      · exact Appends.of_tasks (dif_neg hnone)
    · split
      · exact ⟨rfl, rfl⟩
      · exact ⟨rfl, rfl⟩
  · cases h

theorem appends_applyTaskState (ts : TaskSync) : Appends now s (s.applyTaskState now ts) := by
  rw [applyTaskState]
  split
  · exact Appends.of_modify rfl fun _ => ⟨rfl, rfl⟩
  · rename_i hnone
    exact Appends.of_append (r := syncedNew now ts) hnone (dif_pos hnone) rfl

theorem appends_tasks (now : Time) : TaskRules now (Appends now) where
  of_tasks := Appends.of_tasks
  trans := Appends.trans
  createTask h := appends_createTask h
  setDependencies _ _ _ := Appends.of_modify rfl fun _ => ⟨rfl, rfl⟩
  setTaskStatus _ _ _ _ := Appends.of_modify rfl fun _ => ⟨rfl, rfl⟩
  setAssignee _ _ _ := Appends.of_modify rfl fun _ => ⟨rfl, rfl⟩
  updateTask h := by
    rw [updateTask] at h
    split at h
    · cases h
    split at h
    · cases h
    · cases h
      exact Appends.of_modify rfl (keepsCreation_updatedBy _ _ _ _)
  triggerPendingTasks s := Appends.of_created <|
    look_triggerPendingTasks created (fun _ _ => created_modify rfl keepsCreation_madeReady) s
  schedulePending h := Appends.of_created <|
    look_schedulePending created (fun _ _ _ _ => created_modify rfl fun _ => ⟨rfl, rfl⟩) h
  assignTask _ _ _ := Appends.of_modify rfl fun _ => ⟨rfl, rfl⟩
  unassignTask _ _ := Appends.of_modify rfl fun _ => ⟨rfl, rfl⟩
  unblockTask _ _ := Appends.of_modify rfl keepsCreation_unblocked
  applyTaskState _ ts := appends_applyTaskState ts

/-! ### The list by age -/

/-- The tasks, oldest first; those of one time in row order. -/
def byAge (s : ClusterStore) : List (TaskId × Time) :=
  s.created.insertionSort fun a b => a.2 ≤ b.2

/-- What is added at a clock reading that no task is ahead of goes last. -/
theorem byAge_of_appends (h : Appends now s s') (hold : ∀ p ∈ s.created, p.2 ≤ now) :
    s.byAge <+: s'.byAge := by
  obtain ⟨new, heq, hnew⟩ := h
  rw [byAge, byAge, heq, StableSort.insertionSort_append]
  · exact List.prefix_append _ _
  · intro a ha b hb
    rw [hnew b hb]
    exact hold a ha

theorem mem_byAge {p : TaskId × Time} : p ∈ s.byAge ↔ p ∈ s.created :=
  List.mem_insertionSort _

theorem map_fst_created (s : ClusterStore) : s.created.map Prod.fst = s.tasks.keys :=
  List.map_map

theorem mem_map_fst_byAge : t ∈ s.byAge.map Prod.fst ↔ t ∈ s.tasks.keys := by
  rw [← map_fst_created, List.mem_map, List.mem_map]
  simp only [mem_byAge]

theorem nodup_byAge (s : ClusterStore) : (s.byAge.map Prod.fst).Nodup := by
  have hperm : s.byAge.Perm s.created := List.perm_insertionSort _ _
  rw [(hperm.map Prod.fst).nodup_iff, map_fst_created]
  exact s.tasks.nodup

theorem pairwise_byAge (s : ClusterStore) : s.byAge.Pairwise fun a b => a.2 ≤ b.2 :=
  List.pairwise_insertionSort _ _

end ClusterStore

/-! ### Runs -/

/-- The step may delete tasks. -/
def DbOp.MayDelete : DbOp → Prop
  | .manager call => call.MayDelete
  | _ => False

instance : DecidablePred DbOp.MayDelete
  | .store _ => .isFalse id
  | .manager call => inferInstanceAs (Decidable call.MayDelete)
  | .updateNodeStatus _ _ => .isFalse id

namespace Database

variable {c : Connection Database}

theorem appends_step (hc : TasksCommitted c) {i : Time × DbOp} (hi : ¬ i.2.MayDelete) :
    TasksCommitted (step c i) ∧ Appends i.1 c.visible.store (step c i).visible.store := by
  refine tasks_step hc (appends_tasks i.1) fun call hcall => ?_
  rw [hcall] at hi
  exact TaskOp.keeps_of_not_mayDelete (appends_tasks i.1).keepRules hi c.visible.store

/-- The steps come in the order of the clock, none before a task that is there, and delete
nothing. -/
structure Orderly (c : Connection Database) (run : List (Time × DbOp)) : Prop where
  committed : TasksCommitted c
  clock : run.Pairwise fun i j => i.1 ≤ j.1
  old : ∀ p ∈ c.visible.store.created, ∀ i ∈ run, p.2 ≤ i.1
  keeps : ∀ i ∈ run, ¬ i.2.MayDelete

theorem Orderly.step {i : Time × DbOp} {run : List (Time × DbOp)} (h : Orderly c (i :: run)) :
    Orderly (step c i) run := by
  obtain ⟨hcommitted, new, heq, hnew⟩ := appends_step h.committed (h.keeps i List.mem_cons_self)
  obtain ⟨hfirst, hrest⟩ := List.pairwise_cons.mp h.clock
  refine ⟨hcommitted, hrest, fun p hp j hj => ?_, fun j hj => h.keeps j (List.mem_cons_of_mem i hj)⟩
  rw [heq] at hp
  rcases List.mem_append.mp hp with hp | hp
  · exact h.old p hp j (List.mem_cons_of_mem i hj)
  · rw [hnew p hp]
    exact hfirst j hj

/-- The list oldest first is only added to. -/
theorem byAge_step {i : Time × DbOp} {run : List (Time × DbOp)} (h : Orderly c (i :: run)) :
    c.visible.store.byAge <+: (step c i).visible.store.byAge :=
  byAge_of_appends (appends_step h.committed (h.keeps i List.mem_cons_self)).2
    fun p hp => h.old p hp i List.mem_cons_self

theorem byAge_run {more : List (Time × DbOp)} (run : List (Time × DbOp))
    (h : Orderly c (run ++ more)) : Orderly (Run.exec step c run) more ∧
      c.visible.store.byAge <+: (Run.exec step c run).visible.store.byAge := by
  induction run generalizing c with
  | nil => exact ⟨h, List.prefix_refl _⟩
  | cons i run ih =>
    obtain ⟨horderly, hfront⟩ := ih h.step
    exact ⟨horderly, (byAge_step h).trans hfront⟩

end Database

/-! ### Pages -/

/-- The tasks from the offset on, oldest first. -/
def oldestFirst (offset limit : Nat) : TaskFilter :=
  { sortBy := .createdAt, sortOrder := .asc, offset := offset, limit := limit }

theorem slice_window {α : Type} (l : List α) (offset limit : Nat) :
    slice l offset (offset + limit) = (l.drop offset).take limit := by
  have hstart : sliceIndex l.length offset = min offset l.length := by
    rw [sliceIndex, if_neg (by omega), Int.toNat_natCast]
  have hstop : sliceIndex l.length (offset + limit) = min (offset + limit) l.length := by
    rw [sliceIndex, if_neg (by omega), ← Int.natCast_add, Int.toNat_natCast]
  rw [slice, hstart, hstop]
  rcases le_total offset l.length with h | h
  · rw [min_eq_left h, List.take_eq_take_iff, List.length_drop]
    omega
  · rw [min_eq_right h, List.drop_length, List.drop_eq_nil_of_le h, List.take_nil, List.take_nil]

theorem applyFilters_oldestFirst (lower : String → String) (tasks : List Task)
    (offset limit : Nat) : applyFilters lower tasks (oldestFirst offset limit) = tasks := by
  simp [applyFilters, oldestFirst]

/-- What a reader needs of a task here. -/
def ageOf (t : Task) : TaskId × Time := (t.id, t.createdAt)

/-- A page is a window of the list by age. -/
theorem page_eq {lower : String → String} {s : ClusterStore} {offset limit : Nat}
    {page : List Task} (h : listTasks lower s (some (oldestFirst offset limit)) = .ok page) :
    page.map ageOf = (s.byAge.drop offset).take limit := by
  cases hread : s.getAllTasks with
  | error e =>
    rw [listTasks, hread] at h
    cases h
  | ok tasks =>
  obtain rfl := getAllTasks_eq hread
  rw [listTasks_ok hread, applyFilters_oldestFirst] at h
  have hpage : slice ((s.tasks.rows.map readRow).insertionSort (keyLe lower .createdAt)) offset
      (offset + limit) = page := Except.ok.inj h
  have hsort : ((s.tasks.rows.map readRow).insertionSort (keyLe lower .createdAt)).map ageOf =
      s.byAge := by
    rw [List.map_insertionSort (keyLe lower .createdAt) (fun a b => a.2 ≤ b.2) ageOf _
      fun _ _ _ _ => Iff.rfl, List.map_map]
    rfl
  rw [← hpage, slice_window, List.map_take, List.map_drop, hsort]

/-- A client asks for one page after the other until it gets a short one, or gives up.  Before each
request there is a round of other steps.  It ends with the tasks it was given and the state its
last request found. -/
def readPages (lower : String → String) (limit : Nat) (k : Nat) (c : Connection Database) :
    List (List (Time × DbOp)) → Except PyError (List Task × Connection Database)
  | [] => .ok ([], c)
  | round :: rounds => do
    let c := Run.exec Database.step c round
    let page ← listTasks lower c.visible.store (some (oldestFirst (k * limit) limit))
    if page.length < limit then return (page, c)
    else
      let (tasks, c) ← readPages lower limit (k + 1) c rounds
      return (page ++ tasks, c)

theorem readPages_cons {lower : String → String} {limit k : Nat} {c c' : Connection Database}
    {round : List (Time × DbOp)} {rounds : List (List (Time × DbOp))} {tasks : List Task}
    (h : readPages lower limit k c (round :: rounds) = .ok (tasks, c')) :
    ∃ page, listTasks lower (Run.exec Database.step c round).visible.store
        (some (oldestFirst (k * limit) limit)) = .ok page ∧
      ((page.length < limit ∧ tasks = page ∧ c' = Run.exec Database.step c round) ∨
        (limit ≤ page.length ∧ ∃ rest, tasks = page ++ rest ∧
          readPages lower limit (k + 1) (Run.exec Database.step c round) rounds =
            .ok (rest, c'))) := by
  rw [readPages] at h
  dsimp only at h
  cases hlist : listTasks lower (Run.exec Database.step c round).visible.store
      (some (oldestFirst (k * limit) limit)) with
  | error e =>
    rw [hlist] at h
    cases h
  | ok page =>
    rw [hlist] at h
    change (if page.length < limit then _ else _) = _ at h
    refine ⟨page, rfl, ?_⟩
    by_cases hshort : page.length < limit
    · rw [if_pos hshort] at h
      obtain ⟨rfl, rfl⟩ := Prod.mk.inj (Except.ok.inj h)
      exact .inl ⟨hshort, rfl, rfl⟩
    · rw [if_neg hshort] at h
      cases hmore : readPages lower limit (k + 1) (Run.exec Database.step c round) rounds with
      | error e =>
        rw [hmore] at h
        cases h
      | ok r =>
        rw [hmore] at h
        obtain ⟨rfl, rfl⟩ := Prod.mk.inj (Except.ok.inj h)
        exact .inr ⟨not_lt.mp hshort, r.1, rfl, rfl⟩

theorem readPages_spec {lower : String → String} {limit : Nat}
    {rounds : List (List (Time × DbOp))} {k : Nat} {c c' : Connection Database}
    {tasks : List Task} (horderly : Database.Orderly c rounds.flatten)
    (h : readPages lower limit k c rounds = .ok (tasks, c')) :
    c.visible.store.byAge <+: c'.visible.store.byAge ∧
      tasks.map ageOf <+: c'.visible.store.byAge.drop (k * limit) ∧
      (tasks.length < rounds.length * limit →
        tasks.map ageOf = c'.visible.store.byAge.drop (k * limit)) := by
  induction rounds generalizing k c tasks with
  | nil =>
    obtain ⟨rfl, rfl⟩ := Prod.mk.inj (Except.ok.inj h)
    refine ⟨List.prefix_refl _, List.nil_prefix, fun hlt => ?_⟩
    simp at hlt
  | cons round rounds ih =>
    rw [List.flatten_cons] at horderly
    obtain ⟨hmore, hround⟩ := Database.byAge_run round horderly
    obtain ⟨page, hpage, ⟨hshort, rfl, rfl⟩ | ⟨hfull, rest, rfl, hrest⟩⟩ := readPages_cons h
    · -- a short page is the end of the list
      have hwindow := page_eq hpage
      have hlen := congrArg List.length hwindow
      rw [List.length_map, List.length_take] at hlen
      rw [List.take_of_length_le (by omega)] at hwindow
      exact ⟨hround, by rw [hwindow], fun _ => hwindow⟩
    · obtain ⟨hlater, hfront, hend⟩ := ih hmore hrest
      have hwindow := page_eq hpage
      have hlen := congrArg List.length hwindow
      rw [List.length_map, List.length_take, List.length_drop] at hlen
      -- a full page is still the same window later
      have hsame : page.map ageOf = (c'.visible.store.byAge.drop (k * limit)).take limit := by
        obtain ⟨added, hadded⟩ := hlater
        rw [hwindow, ← hadded, List.drop_append,
          List.take_append_of_le_length (by rw [List.length_drop]; omega)]
      have hsplit : c'.visible.store.byAge.drop (k * limit) =
          page.map ageOf ++ c'.visible.store.byAge.drop ((k + 1) * limit) := by
        rw [hsame, Nat.succ_mul, ← List.drop_drop, List.take_append_drop]
      refine ⟨hround.trans hlater, ?_, fun hlt => ?_⟩
      · rw [hsplit, List.map_append]
        exact (List.prefix_append_right_inj _).mpr hfront
      · rw [hsplit, List.map_append, hend]
        rw [List.length_append, List.length_cons, Nat.succ_mul] at hlt
        omega

namespace Database

/-- **The pages are the list.**  A client reads the tasks oldest first, page after page, while
other requests, none of which deletes a task, come in between, with a clock that does not go back.
Then it gets no task twice, in the order in which they were created; and once it has been given a
short page it has been given every task there was at its last request. -/
theorem pages_exact (lower : String → String) (limit : Nat) (d : Database)
    (rounds : List (List (Time × DbOp)))
    (hclock : rounds.flatten.Pairwise fun i j => i.1 ≤ j.1)
    (hold : ∀ p ∈ d.store.created, ∀ i ∈ rounds.flatten, p.2 ≤ i.1)
    (hkeeps : ∀ i ∈ rounds.flatten, ¬ i.2.MayDelete) {tasks : List Task}
    {c : Connection Database}
    (h : readPages lower limit 0 (Connection.opened d) rounds = .ok (tasks, c)) :
    (tasks.map Task.id).Nodup ∧ tasks.Pairwise (fun a b => a.createdAt ≤ b.createdAt) ∧
      (∀ t ∈ d.store.tasks.keys, t ∈ c.visible.store.tasks.keys) ∧
      (tasks.length < rounds.length * limit →
        ∀ t, t ∈ tasks.map Task.id ↔ t ∈ c.visible.store.tasks.keys) := by
  have horderly : Orderly (Connection.opened d) rounds.flatten := ⟨rfl, hclock, hold, hkeeps⟩
  obtain ⟨hlater, hfront, hend⟩ := readPages_spec horderly h
  rw [Nat.zero_mul, List.drop_zero] at hfront hend
  have hids : tasks.map Task.id = (tasks.map ageOf).map Prod.fst := by
    rw [List.map_map]
    rfl
  refine ⟨?_, ?_, fun t ht => ?_, fun hlt t => ?_⟩
  · rw [hids]
    exact (nodup_byAge _).sublist (hfront.map Prod.fst).sublist
  · have hsorted := (pairwise_byAge c.visible.store).sublist hfront.sublist
    exact (List.pairwise_map (f := ageOf)).mp hsorted
  · rw [← mem_map_fst_byAge]
    exact (hlater.map Prod.fst).subset (mem_map_fst_byAge.mpr ht)
  · rw [hids, hend hlt]
    exact mem_map_fst_byAge

/-- Three tasks, of which the last is created between the two pages, while the first fails. -/
def growing : List (List (Time × DbOp)) :=
  [[(0, .manager (.create "1" "build" [] 3 [] none)),
    (0, .manager (.create "2" "test" [] 1 [] none))],
   [(5, .manager (.cancel "task_1")), (6, .manager (.create "3" "ship" [] 5 ["task_2"] none))]]

/-- The two pages have all three. -/
theorem pages_exact_growing : ∃ r, readPages id 2 0 (Connection.opened {}) growing = .ok r ∧
    ∀ t, t ∈ r.1.map Task.id ↔ t ∈ r.2.visible.store.tasks.keys := by
  have hlen : (readPages id 2 0 (Connection.opened {}) growing).map (fun r => r.1.length) =
      .ok 3 := by
    decide +kernel
  cases hr : readPages id 2 0 (Connection.opened {}) growing with
  | error e =>
    rw [hr] at hlen
    cases hlen
  | ok r =>
    rw [hr] at hlen
    have hthree : r.1.length = 3 := Except.ok.inj hlen
    have hshort : r.1.length < growing.length * 2 := hthree ▸ by decide
    refine ⟨r, rfl, (pages_exact id 2 {} growing ?_ ?_ ?_ hr).2.2.2 hshort⟩
    · decide
    · exact fun p hp => absurd hp List.not_mem_nil
    · decide

-- Newest first, what is created between two pages is read twice.
example :
    let newest : Nat → TaskFilter := fun offset => { offset := offset, limit := 1 }
    let c := Run.exec step (Connection.opened {}) [(0, .manager (.create "1" "build" [] 3 [] none))]
    let c' := step c (5, .manager (.create "2" "test" [] 1 [] none))
    (listTasks id c.visible.store (newest 0)).map (List.map Task.id) = .ok ["task_1"] ∧
      (listTasks id c'.visible.store (newest 1)).map (List.map Task.id) = .ok ["task_1"] := by
  decide +kernel

end Database

end HermesCluster
