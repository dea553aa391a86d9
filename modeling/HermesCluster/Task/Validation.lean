import HermesCluster.State.Failures
import HermesCluster.Task.Creation

/-!
# Errors of `TaskManager` and the tables

`create_task` checks the title and the priority before it writes, and the node after it has
written the row and the dependencies.  `update_task` checks inside its transaction, whose
rollback also undoes what was not committed before, and reads the row back after it has
committed it, which raises when the version is past the integers of SQLite.
-/

namespace HermesCluster.TaskManager

open ClusterStore Database

/-- A call that raises a `ValueError` leaves all tables as they were. -/
def ErrorsChangeNothing {α : Type} (p : Session α) (c : Connection Database) : Prop :=
  ∀ msg, ((onStore p).exec c).1 = .error (.valueError msg) →
    ((onStore p).exec c).2.visible = c.visible

section

variable {α : Type} {p : Session α} {c : Connection Database}

theorem withStore_eq_iff {d : Database} {s : ClusterStore} : d.withStore s = d ↔ s = d.store := by
  refine ⟨fun h => ?_, fun h => ?_⟩
  · exact congrArg Database.store h
  · rw [h]
    rfl

/-- A call whose first transaction does not raise keeps the tables if the store does. -/
theorem errorsChangeNothing_iff (h : p.failsFirst c.visible.store = false) :
    ErrorsChangeNothing p c ↔ ∀ msg, (p.run c.visible.store).1 = .error (.valueError msg) →
      (p.run c.visible.store).2 = c.visible.store := by
  have hfirst : (onStore p).failsFirst c.visible = false :=
    (Prog.failsFirst_zoom _ _ p c.visible).trans h
  rw [ErrorsChangeNothing, Prog.exec_fst, Prog.exec_not_failsFirst hfirst, run_onStore]
  exact forall₂_congr fun msg _ => withStore_eq_iff

/-- A call whose first transaction raises a `ValueError` keeps the tables if there was nothing
uncommitted. -/
theorem errorsChangeNothing_of_failsFirst (h : p.failsFirst c.visible.store = true) {msg : String}
    (hraised : (p.run c.visible.store).1 = .error (.valueError msg)) :
    ErrorsChangeNothing p c ↔ c.Clean := by
  have hfirst : (onStore p).failsFirst c.visible = true :=
    (Prog.failsFirst_zoom _ _ p c.visible).trans h
  rw [ErrorsChangeNothing, Prog.exec_fst, Prog.exec_failsFirst hfirst, run_onStore]
  refine ⟨fun hkeep => ?_, fun hclean _ _ => ?_⟩
  · exact hkeep msg hraised
  · exact hclean

end

variable {c : Connection Database} {now : Time} {t : TaskId}

/-! ### `create_task` -/

/-- **`create_task`** keeps the tables when it raises, unless it is the node that it cannot
read: by then the row is written. -/
theorem createTask_iff {token : String} (now : Time) (title : String)
    (requires : List Capability) (priority : Int) (deps : List TaskId) (assignTo : Option NodeId)
    (hfresh : c.visible.store.tasks.get? (generateId "task" token) = none) :
    ErrorsChangeNothing (createTask now token title requires priority deps assignTo) c ↔
      (¬ Refused title priority → ∀ n, assignee assignTo = some n →
        NodeRead c.visible.store n) := by
  have hnever : (createTask now token title requires priority deps assignTo).NeverFails :=
    neverFails_createTask token title requires priority deps assignTo
  rw [errorsChangeNothing_iff (Prog.failsFirst_of_none (hnever _))]
  by_cases hr : Refused title priority
  · obtain ⟨msg, hrun⟩ := run_createTask_refused hr c.visible.store now token requires deps assignTo
    rw [hrun]
    exact iff_of_true (fun _ _ => rfl) fun h => absurd hr h
  cases ha : assignee assignTo with
  | none =>
    obtain ⟨task, s₂, r, -, hrun⟩ := run_createTask_plain hfresh hr ha now requires deps
    rw [hrun]
    exact iff_of_true (fun _ h => by cases h) fun _ n h => by cases h
  | some n =>
    by_cases hn : NodeRead c.visible.store n
    · obtain ⟨task, s₂, r, -, hrun⟩ := run_createTask_assigned hfresh hr ha hn now requires deps
      rw [hrun]
      refine iff_of_true (fun _ h => by cases h) fun _ n' h => ?_
      cases h
      exact hn
    · obtain ⟨msg, s₂, r, hcreated, hrun⟩ :=
        run_createTask_unknown hfresh hr ha hn now requires deps
      rw [hrun]
      refine iff_of_false (fun h => ?_) fun h => hn (h hr n rfl)
      have hsame : s₂ = c.visible.store := h msg rfl
      have hrow := hcreated.row
      rw [hsame, hfresh] at hrow
      cases hrow

/-! ### `update_task` -/

/-- The checks of `update_task` refuse a field that is given. -/
def RefusedUpdate (title : Option String) (priority : Option Int) : Prop :=
  title.any blank = true ∨ (priority.any fun p => p < 1 ∨ 5 < p) = true

/-- No field is given. -/
def NoFields (title : Option String) (priority : Option Int)
    (requires : Option (List Capability)) (deps : Option (List TaskId)) : Prop :=
  title = none ∧ priority = none ∧ requires = none ∧ deps = none

variable {title : Option String} {priority : Option Int} {requires : Option (List Capability)}
  {deps : Option (List TaskId)} {s : ClusterStore} {r : TaskRow}

/-- The update keeps a status a status, and with a field given it counts the version. -/
theorem updatedBy_spec (hs : IsStatus r.status) (now : Time) (title : Option String)
    (priority : Option Int) (requires : Option (List Capability)) (deps : Option (List TaskId)) :
    IsStatus (updatedBy now title priority requires deps r).status ∧
      (NoFields title priority requires deps ∧ updatedBy now title priority requires deps r = r ∨
        ¬ NoFields title priority requires deps ∧
          (updatedBy now title priority requires deps r).version = bumped r.version) := by
  by_cases hf : NoFields title priority requires deps
  · have hsame : updatedBy now title priority requires deps r = r := if_pos hf
    rw [hsame]
    exact ⟨hs, .inl ⟨hf, rfl⟩⟩
  · refine ⟨?_, .inr ⟨hf, congrArg TaskRow.version (if_neg hf)⟩⟩
    have hstatus : (updatedBy now title priority requires deps r).status =
        if deps.getD [] ≠ [] ∧ r.status = TaskStatus.ready.value then TaskStatus.pending.value
        else r.status := congrArg TaskRow.status (if_neg hf)
    rw [hstatus]
    split
    · exact isStatus_value .pending
    · exact hs

/-- A row whose version is past the integers of SQLite cannot be read. -/
theorem getTask_overflow (hr : s.tasks.get? t = some r) (hs : IsStatus r.status)
    (hv : ¬ fits64 r.version = true) :
    s.getTask t = .error (.valueError "version should be a valid integer") := by
  obtain ⟨status, hs⟩ := hs
  rw [getTask, hr]
  show (rowToTask r).map some = _
  rw [rowToTask, hs, TaskStatus.ofValue_value]
  simp only [hv]
  rfl

/-- What `update_task` does to a row that can be read when it refuses no field. -/
theorem run_updateTask (hr : s.tasks.get? t = some r) (hd : decodes r = true)
    (hok : ¬ RefusedUpdate title priority) (now : Time) (requires : Option (List Capability))
    (deps : Option (List TaskId)) : ∃ s',
      s'.tasks.get? t = some (updatedBy now title priority requires deps r) ∧
      (updateTask now t title priority requires deps).run s = (Session.getTask t).run s' := by
  obtain ⟨ht, hp⟩ := not_or.mp hok
  obtain ⟨s', hupdate⟩ : ∃ s', s.updateTask now t title priority requires deps = .ok ((), s') :=
    ⟨_, (if_neg ht).trans (if_neg hp)⟩
  refine ⟨s', ?_, ?_⟩
  · rw [updateTask_ok hupdate, if_pos rfl, hr]
    rfl
  · rw [updateTask, Prog.run_bind_ok _ (Session.run_getTask_ok (getTask_of_some hr hd))]
    exact Prog.run_bind_ok _ (Prog.run_tx_ok hupdate)

/-- After an update of the row, reading it keeps the tables when it raises exactly when there was
no field or the version had room. -/
theorem readBack_iff {s' : ClusterStore} (hr : s.tasks.get? t = some r) (hd : decodes r = true)
    (hget : s'.tasks.get? t = some (updatedBy now title priority requires deps r)) :
    (∀ msg, ((Session.getTask t).run s').1 = .error (.valueError msg) →
      ((Session.getTask t).run s').2 = s) ↔
    NoFields title priority requires deps ∨ HasRoom r := by
  obtain ⟨hs, hfits⟩ := decodes_iff_isStatus.mp hd
  obtain ⟨hs', ⟨hf, hsame⟩ | ⟨hf, hversion⟩⟩ :=
    updatedBy_spec hs now title priority requires deps
  · rw [hsame] at hget
    rw [Session.run_getTask_ok (getTask_of_some hget hd)]
    exact iff_of_true (fun _ h => by cases h) (.inl hf)
  by_cases hroom : HasRoom r
  · have hd' := (decodes_bumped_iff hd hs' hversion).mpr hroom
    rw [Session.run_getTask_ok (getTask_of_some hget hd')]
    exact iff_of_true (fun _ h => by cases h) (.inr hroom)
  · have hv : ¬ fits64 (updatedBy now title priority requires deps r).version = true := by
      rw [hversion, fits64_bumped hfits]
      exact hroom
    rw [Session.run_getTask_error (getTask_overflow hget hs' hv)]
    refine iff_of_false (fun h => ?_) (not_or.mpr ⟨hf, hroom⟩)
    -- the version of the row was counted
    have hsame : s' = s := h _ rfl
    rw [hsame, hr, Option.some.injEq] at hget
    rw [← hget, bumped_of_fits hfits] at hversion
    omega

theorem run_updateTask_refused (hr : s.tasks.get? t = some r) (hd : decodes r = true)
    (h : RefusedUpdate title priority) (now : Time) (requires : Option (List Capability))
    (deps : Option (List TaskId)) : ∃ msg,
      (updateTask now t title priority requires deps).run s = (.error (.valueError msg), s) := by
  have hupdate : ∃ msg, s.updateTask now t title priority requires deps =
      .error (.valueError msg) := by
    rw [ClusterStore.updateTask]
    by_cases ht : title.any blank = true
    · exact ⟨_, if_pos ht⟩
    · rw [if_neg ht]
      exact ⟨_, if_pos (h.resolve_left ht)⟩
  obtain ⟨msg, hupdate⟩ := hupdate
  refine ⟨msg, ?_⟩
  rw [updateTask, Prog.run_bind_ok _ (Session.run_getTask_ok (getTask_of_some hr hd))]
  exact Prog.run_bind_error _ (Prog.run_tx_error hupdate)

/-- **`update_task`** keeps the tables when it raises, unless the row can be read and either a
field is refused while something is uncommitted, or the version of the row is at its limit. -/
theorem updateTask_iff (c : Connection Database) (now : Time) (t : TaskId)
    (title : Option String) (priority : Option Int) (requires : Option (List Capability))
    (deps : Option (List TaskId)) :
    ErrorsChangeNothing (updateTask now t title priority requires deps) c ↔
      ∀ r, c.visible.store.tasks.get? t = some r → decodes r = true →
        (RefusedUpdate title priority → c.Clean) ∧
        (¬ RefusedUpdate title priority → NoFields title priority requires deps ∨ HasRoom r) := by
  have hfails := (failures_updateTask now t title priority requires deps
    c.visible.store).first_iff
  have hfirst : ¬ ((∃ r, c.visible.store.tasks.get? t = some r ∧ decodes r = true) ∧
      RefusedUpdate title priority) →
      (updateTask now t title priority requires deps).failsFirst c.visible.store = false :=
    fun h => Bool.eq_false_iff.mpr fun ht => h (hfails.mp ht)
  cases hr : c.visible.store.tasks.get? t with
  | none =>
    rw [errorsChangeNothing_iff (hfirst fun ⟨⟨r, h, _⟩, _⟩ => by rw [hr] at h; cases h),
      updateTask, Prog.run_bind_ok _ (Session.run_getTask_ok (getTask_of_none hr))]
    exact iff_of_true (fun _ _ => rfl) fun r h => by cases h
  | some r =>
    by_cases hd : decodes r = true
    · by_cases href : RefusedUpdate title priority
      · obtain ⟨msg, hrun⟩ := run_updateTask_refused hr hd href now requires deps
        rw [errorsChangeNothing_of_failsFirst (hfails.mpr ⟨⟨r, hr, hd⟩, href⟩)
          (congrArg Prod.fst hrun)]
        refine ⟨fun hclean _ _ _ => ⟨fun _ => hclean, fun h => absurd href h⟩, fun h => ?_⟩
        exact (h r rfl hd).1 href
      · obtain ⟨s', hget, hrun⟩ := run_updateTask hr hd href now requires deps
        rw [errorsChangeNothing_iff (hfirst fun h => href h.2), hrun]
        have hright : (∀ r', some r = some r' → decodes r' = true →
            (RefusedUpdate title priority → c.Clean) ∧ (¬ RefusedUpdate title priority →
              NoFields title priority requires deps ∨ HasRoom r')) ↔
            NoFields title priority requires deps ∨ HasRoom r := by
          refine ⟨fun h => (h r rfl hd).2 href, fun h r' hr' _ => ?_⟩
          cases hr'
          exact ⟨fun h' => absurd h' href, fun _ => h⟩
        rw [hright]
        exact readBack_iff hr hd hget
    · obtain ⟨e, he⟩ := getTask_raises hr hd
      have hno : ¬ ∃ r', c.visible.store.tasks.get? t = some r' ∧ decodes r' = true := by
        rintro ⟨r', hr', hd'⟩
        rw [hr] at hr'
        cases hr'
        exact hd hd'
      rw [errorsChangeNothing_iff (hfirst fun h => hno h.1), updateTask,
        Prog.run_bind_error _ (Session.run_getTask_error he)]
      refine iff_of_true (fun _ _ => rfl) fun r' hr' hd' => ?_
      cases hr'
      exact absurd hd' hd

/-! ### Both -/

/-- **Errors change nothing**: in `create_task` exactly when its checks refuse the arguments or
the node it is to assign to can be read; in `update_task` exactly when the row cannot be read,
or a field is refused with nothing uncommitted, or none is refused and there is none or the
version has room. -/
theorem errorsChangeNothing_create_update_iff (c : Connection Database) (now : Time)
    (token title : String) (requires : List Capability) (priority : Int) (deps : List TaskId)
    (assignTo : Option NodeId)
    (hfresh : c.visible.store.tasks.get? (generateId "task" token) = none) :
    (ErrorsChangeNothing (createTask now token title requires priority deps assignTo) c ↔
      (¬ Refused title priority → ∀ n, assignee assignTo = some n →
        NodeRead c.visible.store n)) ∧
    ∀ (t : TaskId) (title : Option String) (priority : Option Int)
      (requires : Option (List Capability)) (deps : Option (List TaskId)),
      ErrorsChangeNothing (updateTask now t title priority requires deps) c ↔
        ∀ r, c.visible.store.tasks.get? t = some r → decodes r = true →
          (RefusedUpdate title priority → c.Clean) ∧
          (¬ RefusedUpdate title priority →
            NoFields title priority requires deps ∨ HasRoom r) :=
  ⟨createTask_iff now title requires priority deps assignTo hfresh,
    fun t title priority requires deps => updateTask_iff c now t title priority requires deps⟩

/-- A task at the limit of its version. -/
def limitRow : TaskRow where
  id := "task_b"
  title := "build"
  createdAt := 1
  updatedAt := 1
  version := 9223372036854775807

def limitDatabase : Database where
  store := { tasks := Table.empty.put limitRow }

theorem errorsChangeNothing_blank : ErrorsChangeNothing (createTask 2 "a" " " [] 3 [] none)
    (Connection.opened limitDatabase) := by
  refine (errorsChangeNothing_create_update_iff (Connection.opened limitDatabase) 2 "a" " " [] 3
    [] none (by decide +kernel)).1.mpr ?_
  exact fun h => absurd (.inl (by decide)) h

/-- For a node that is not there, `create_task` raises and leaves the task; and an update of a
task at the limit of its version is written before it raises. -/
theorem errors_change_tables :
    let c : Connection Database := Connection.opened limitDatabase
    let create := createTask 2 "a" "build" [] 3 [] (some "n1")
    let update := updateTask 2 "task_b" (some "deploy") none none none
    ((onStore create).exec c).1 = .error (.valueError "Node n1 not found") ∧
      (((onStore create).exec c).2.visible.store.tasks.get? "task_a").isSome ∧
      ¬ ErrorsChangeNothing create c ∧
      ((onStore update).exec c).1 =
        .error (.valueError "version should be a valid integer") ∧
      (((onStore update).exec c).2.visible.store.tasks.get? "task_b").map TaskRow.title =
        some "deploy" ∧
      ¬ ErrorsChangeNothing update c := by
  refine ⟨by decide +kernel, by decide +kernel, fun h => ?_, by decide +kernel,
    by decide +kernel, fun h => ?_⟩
  · exact absurd (h "Node n1 not found" (by decide +kernel)) (by decide +kernel)
  · exact absurd (h "version should be a valid integer" (by decide +kernel)) (by decide +kernel)

end HermesCluster.TaskManager
