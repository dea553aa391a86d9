import HermesCluster.Core.Workflow
import HermesCluster.Task.Spec

/-!
# What the resolver does to the table

* `resolves_propagate`: it writes pending rows only, and makes them ready or blocked.
* `propagate_ends`: the list it extends does not grow, a task that has just turned ready being no
  completed dependency of any other, so the loop over it ends.
* `resolveAll_midway`: the pass over the pending tasks decides each of them as the table stood
  before the pass, up to a row that does not decode any more once it is written.
-/

namespace HermesCluster

open ClusterStore WorkflowResolver

namespace ClusterStore

/-! ### What the resolver writes -/

/-- Pending rows turn ready or blocked, and nothing else changes. -/
def Resolves (s s' : ClusterStore) : Prop :=
  ∀ k, s'.tasks.get? k = s.tasks.get? k ∨
    s.statusOf k = some TaskStatus.pending.value ∧
      (s'.statusOf k = some TaskStatus.ready.value ∨
        s'.statusOf k = some TaskStatus.blocked.value)

theorem Resolves.refl (s : ClusterStore) : Resolves s s := fun _ => .inl rfl

theorem Resolves.trans (s s₁ s₂ : ClusterStore) (h₁ : Resolves s s₁) (h₂ : Resolves s₁ s₂) :
    Resolves s s₂ := by
  intro k
  rcases h₁ k with e₁ | ⟨hp, hrb⟩
  · rcases h₂ k with e₂ | ⟨hp₂, hrb₂⟩
    · exact .inl (e₂.trans e₁)
    · refine .inr ⟨?_, hrb₂⟩
      rw [statusOf, ← e₁]
      exact hp₂
  · rcases h₂ k with e₂ | ⟨hp₂, -⟩
    · refine .inr ⟨hp, ?_⟩
      rw [statusOf, e₂]
      exact hrb
    · -- a row that is ready or blocked is not pending
      rw [hp₂] at hrb
      exact absurd hrb (by decide)

/-- A row that is not pending is not written. -/
theorem Resolves.get?_of_ne {s s' : ClusterStore} (h : Resolves s s') {k : TaskId} {r : TaskRow}
    (hr : s.tasks.get? k = some r) (hp : r.status ≠ TaskStatus.pending.value) :
    s'.tasks.get? k = some r := by
  rcases h k with e | ⟨hp', -⟩
  · rw [e, hr]
  · rw [statusOf, hr] at hp'
    exact absurd (Option.some.inj hp') hp

theorem Resolves.completed_iff {s s' : ClusterStore} (h : Resolves s s') (d : TaskId) :
    s'.Completed d ↔ s.Completed d := by
  rcases h d with e | ⟨hp, hrb⟩
  · rw [Completed, e, Completed]
  · refine iff_of_false ?_ (not_completed_of_statusOf hp (by decide))
    rcases hrb with hrb | hrb
    · exact not_completed_of_statusOf hrb (by decide)
    · exact not_completed_of_statusOf hrb (by decide)

/-- A status written over a pending row. -/
theorem Resolves.of_set {s : ClusterStore} {now : Time} {t : TaskId} {r : TaskRow}
    {status : TaskStatus} (reason : String) (hr : s.tasks.get? t = some r)
    (hp : r.status = TaskStatus.pending.value) (hst : status = .ready ∨ status = .blocked) :
    Resolves s (s.setTaskStatus now t status reason) := by
  intro k
  by_cases hk : k = t
  · subst hk
    refine .inr ⟨by rw [statusOf, hr, Option.map_some, hp], ?_⟩
    have hset : (s.setTaskStatus now k status reason).statusOf k = some status.value := by
      rw [statusOf, get?_setTaskStatus, if_pos rfl, hr]
      rfl
    rw [hset]
    rcases hst with rfl | rfl
    · exact .inl rfl
    · exact .inr rfl
  · refine .inl ?_
    rw [get?_setTaskStatus, if_neg hk]

end ClusterStore

/-! ### Every part of the resolver keeps this -/

variable {now : Time} {turns : Nat}

theorem run_checkDependencies_snd (deps : List TaskId) (allDone : Bool) (s : ClusterStore) :
    ((checkDependencies deps allDone).run s).2 = s := by
  induction deps generalizing allDone with
  | nil => rfl
  | cons d deps ih =>
    rw [checkDependencies]
    refine rel_getTask (R := fun s s' => s' = s) rfl (ih false) fun task r _ _ => ?_
    dsimp only
    split
    · rfl
    · exact ih _

section Frame

variable {R : ClusterStore → ClusterStore → Prop}

/-- A relation that the statuses the resolver writes respect, the resolver respects. -/
theorem rel_resolveDependencies (hrefl : ∀ s, R s s)
    (hset : ∀ {s t r} {status : TaskStatus} (reason : String), s.tasks.get? t = some r →
      r.status = TaskStatus.pending.value → status = .ready ∨ status = .blocked →
      R s (s.setTaskStatus now t status reason)) (t : TaskId) (s : ClusterStore) :
    R s ((resolveDependencies now t).run s).2 := by
  rw [resolveDependencies]
  refine rel_getTask (hrefl s) (hrefl s) fun task r hr hst => ?_
  dsimp only
  split
  · exact hrefl s
  rename_i hpend
  have hp : r.status = TaskStatus.pending.value := by rw [hst, not_not.mp hpend]
  split
  · rw [Prog.run_bind_pure_snd]
    exact hset "" hr hp (.inl rfl)
  refine Prog.rel_bind_same (hrefl s) (run_checkDependencies_snd _ _ s) fun checked => ?_
  split
  · rw [Prog.run_bind_pure_snd]
    exact hset _ hr hp (.inr rfl)
  split
  · rw [Prog.run_bind_pure_snd]
    exact hset "" hr hp (.inl rfl)
  · exact hrefl s

theorem rel_resolveAll (hrefl : ∀ s, R s s) (htrans : ∀ s s₁ s₂, R s s₁ → R s₁ s₂ → R s s₂)
    (hset : ∀ {s t r} {status : TaskStatus} (reason : String), s.tasks.get? t = some r →
      r.status = TaskStatus.pending.value → status = .ready ∨ status = .blocked →
      R s (s.setTaskStatus now t status reason))
    (c : TaskId) (status : TaskStatus) (tasks : List Task) (s : ClusterStore) :
    R s ((resolveAll now c status tasks).run s).2 := by
  induction tasks generalizing s with
  | nil => exact hrefl s
  | cons task tasks ih =>
    rw [resolveAll]
    split
    · exact ih s
    split
    · exact ih s
    refine Prog.rel_bind htrans (rel_resolveDependencies hrefl hset task.id) (fun _ s => ?_) s
    rw [Prog.run_bind_pure_snd]
    exact ih s

end Frame

theorem resolves_resolveDependencies (t : TaskId) (s : ClusterStore) :
    Resolves s ((resolveDependencies now t).run s).2 :=
  rel_resolveDependencies Resolves.refl Resolves.of_set t s

theorem resolves_resolveAll (now : Time) (c : TaskId) (status : TaskStatus) (tasks : List Task)
    (s : ClusterStore) : Resolves s ((resolveAll now c status tasks).run s).2 :=
  rel_resolveAll Resolves.refl Resolves.trans Resolves.of_set c status tasks s

theorem resolves_cascade {p : TaskId → Session (Option (List TaskId))}
    (hp : ∀ t s, Resolves s ((p t).run s).2) (n : Nat) (tids : List TaskId) (s : ClusterStore) :
    Resolves s ((cascade p n tids).run s).2 := by
  induction n generalizing tids s with
  | zero => cases tids <;> exact Resolves.refl s
  | succ n ih =>
    cases tids with
    | nil => exact Resolves.refl s
    | cons tid rest =>
      rw [cascade]
      refine Prog.rel_bind Resolves.trans (hp tid) (fun inner s => ?_) s
      cases inner with
      | none => exact Resolves.refl s
      | some inner =>
        dsimp only
        rw [Prog.run_bind_pure_snd]
        exact ih _ s

theorem resolves_propagate (now : Time) (turns depth : Nat) (c : TaskId) (s : ClusterStore) :
    Resolves s ((propagate now turns depth c).run s).2 := by
  induction depth generalizing c s with
  | zero => exact Resolves.refl s
  | succ depth ih =>
    rw [propagate]
    refine Prog.rel_read_bind (Resolves.refl s) fun tasks _ => ?_
    refine Prog.rel_bind Resolves.trans (resolves_resolveAll now c .pending tasks) (fun _ s => ?_) s
    refine Prog.rel_bind Resolves.trans (resolves_resolveAll now c .blocked tasks) (fun _ s => ?_) s
    exact resolves_cascade ih turns _ s

/-! ### The list that is extended -/

theorem completed_of_checked {deps : List TaskId} {allDone : Bool} {s s' : ClusterStore}
    (h : (checkDependencies deps allDone).run s = (.ok (true, false), s')) :
    allDone = true ∧ ∀ d ∈ deps, s.Completed d := by
  induction deps generalizing allDone with
  | nil =>
    cases h
    exact ⟨rfl, by simp⟩
  | cons d deps ih =>
    rw [checkDependencies] at h
    obtain ⟨task, s₁, hget, h⟩ := Prog.ok_of_run_bind h
    obtain ⟨rfl, ⟨-, rfl⟩ | ⟨r, hr, hdec, rfl⟩⟩ := getTask_inv hget
    · exact absurd (ih h).1 Bool.false_ne_true
    dsimp only at h
    split at h
    · cases h
    obtain ⟨hall, hdeps⟩ := ih h
    rw [Bool.and_eq_true, decide_eq_true_eq] at hall
    refine ⟨hall.1, List.forall_mem_cons.mpr ⟨⟨r, hr, ?_⟩, hdeps⟩⟩
    rw [readRow_status hdec, hall.2]

/-- What `resolve_dependencies` found and did, when it answers yes. -/
theorem ready_of_resolveDependencies {k : TaskId} {s s' : ClusterStore}
    (h : (resolveDependencies now k).run s = (.ok true, s')) :
    ∃ r, s.tasks.get? k = some r ∧ r.status = TaskStatus.pending.value ∧
      (∀ d ∈ r.dependsOn, s.Completed d) ∧ s' = s.setTaskStatus now k .ready := by
  rw [resolveDependencies] at h
  obtain ⟨task, s₁, hget, h⟩ := Prog.ok_of_run_bind h
  obtain ⟨rfl, ⟨-, rfl⟩ | ⟨r, hr, hdec, rfl⟩⟩ := getTask_inv hget
  · cases h
  dsimp only at h
  split at h
  · cases h
  rename_i hpend
  have hp : r.status = TaskStatus.pending.value := by rw [readRow_status hdec, not_not.mp hpend]
  split at h
  · rename_i hnil
    cases h
    refine ⟨r, hr, hp, fun d hd => ?_, rfl⟩
    rw [show r.dependsOn = [] from hnil] at hd
    cases hd
  obtain ⟨checked, s₂, hchk, h⟩ := Prog.ok_of_run_bind h
  obtain rfl : s₂ = s₁ := by
    have := run_checkDependencies_snd (readRow r).dependsOn true s₁
    rwa [hchk] at this
  obtain ⟨allDone, anyFailed⟩ := checked
  cases anyFailed with
  | true => cases h
  | false =>
    cases allDone with
    | false => cases h
    | true =>
      cases h
      exact ⟨r, hr, hp, (completed_of_checked hchk).2, rfl⟩

/-- Then the task is ready. -/
theorem statusOf_ready {k : TaskId} {s s' : ClusterStore}
    (h : (resolveDependencies now k).run s = (.ok true, s')) :
    s'.statusOf k = some TaskStatus.ready.value := by
  obtain ⟨r, hr, -, -, rfl⟩ := ready_of_resolveDependencies h
  rw [statusOf, get?_setTaskStatus, if_pos rfl, hr]
  rfl

theorem resolves_of_run {p : Session Bool} {s s' : ClusterStore} {x : Except PyError Bool}
    (hp : ∀ s, Resolves s (p.run s).2) (h : p.run s = (x, s')) : Resolves s s' := by
  have := hp s
  rwa [h] at this

/-- A pass none of whose tasks turns ready, whatever the pass has done before, makes nothing
ready. -/
theorem resolveAll_eq_nil {c : TaskId} {status : TaskStatus} {s : ClusterStore} {tasks : List Task}
    (hno : ∀ x ∈ tasks, x.status = status → c ∈ x.dependsOn → ∀ t t₁, Resolves s t →
      (resolveDependencies now x.id).run t ≠ (.ok true, t₁))
    {t t' : ClusterStore} (hst : Resolves s t) {l : List TaskId}
    (h : (resolveAll now c status tasks).run t = (.ok l, t')) : l = [] := by
  induction tasks generalizing t t' l with
  | nil => cases h; rfl
  | cons x tasks ih =>
    have htail := fun y hy => hno y (List.mem_cons_of_mem x hy)
    rw [resolveAll] at h
    split at h
    · exact ih htail hst h
    rename_i hstatus
    split at h
    · exact ih htail hst h
    rename_i hmem
    obtain ⟨ready, t₁, hres, h⟩ := Prog.ok_of_run_bind h
    obtain ⟨l₁, t₂, hrest, h⟩ := Prog.ok_of_run_bind h
    have hst₁ := hst.trans _ _ _ (resolves_of_run (resolves_resolveDependencies x.id) hres)
    cases ih htail hst₁ hrest
    cases ready with
    | false => cases h; rfl
    | true =>
      exact absurd hres
        (hno x List.mem_cons_self (not_not.mp hstatus) (not_not.mp hmem) t t₁ hst)

/-- A pass for a task that is not completed makes nothing ready. -/
theorem resolveAll_open {c : TaskId} {status : TaskStatus} {s : ClusterStore}
    (hc : ¬ s.Completed c) {tasks : List Task}
    (htasks : ∀ x ∈ tasks, ∀ r, s.tasks.get? x.id = some r → r.dependsOn = x.dependsOn)
    {t t' : ClusterStore} (hst : Resolves s t) {l : List TaskId}
    (h : (resolveAll now c status tasks).run t = (.ok l, t')) : l = [] := by
  refine resolveAll_eq_nil (fun x hx _ hmem t t₁ hst hres => ?_) hst h
  -- the row is pending, so as it was, and the answer says that `c` is completed
  obtain ⟨r, hr, hp, hdone, -⟩ := ready_of_resolveDependencies hres
  have hr₀ : s.tasks.get? x.id = some r := by
    rcases hst x.id with e | ⟨-, hrb⟩
    · rw [← e, hr]
    · rw [statusOf, hr, Option.map_some, hp] at hrb
      exact absurd hrb (by decide)
  refine hc ((hst.completed_iff c).mp (hdone c ?_))
  rw [htasks x hx r hr₀]
  exact hmem

/-- The tasks a pass makes ready are not completed, and no more than it was given. -/
theorem resolveAll_ready {c : TaskId} {status : TaskStatus} {tasks : List Task}
    {s s' : ClusterStore} {l : List TaskId}
    (h : (resolveAll now c status tasks).run s = (.ok l, s')) :
    l.length ≤ tasks.length ∧ ∀ k ∈ l, ¬ s'.Completed k := by
  induction tasks generalizing s s' l with
  | nil =>
    cases h
    exact ⟨le_refl _, by simp⟩
  | cons x tasks ih =>
    rw [resolveAll] at h
    split at h
    · exact ⟨(ih h).1.trans (Nat.le_succ _), (ih h).2⟩
    split at h
    · exact ⟨(ih h).1.trans (Nat.le_succ _), (ih h).2⟩
    obtain ⟨ready, s₁, hres, h⟩ := Prog.ok_of_run_bind h
    obtain ⟨l₁, s₂, hrest, h⟩ := Prog.ok_of_run_bind h
    obtain ⟨hlen, hopen⟩ := ih hrest
    cases ready with
    | false =>
      cases h
      exact ⟨hlen.trans (Nat.le_succ _), hopen⟩
    | true =>
      cases h
      refine ⟨Nat.succ_le_succ hlen, List.forall_mem_cons.mpr ⟨?_, hopen⟩⟩
      have hrel : Resolves s₁ s' := by
        have := resolves_resolveAll now c status tasks s₁
        rwa [hrest] at this
      rw [hrel.completed_iff]
      rintro ⟨r, hr, hcomp⟩
      have hready := statusOf_ready hres
      rw [statusOf, hr, Option.map_some, hcomp] at hready
      exact absurd hready (by decide)

/-- A pass over tasks that are not pending any more makes none of them ready. -/
theorem resolveAll_blocked {c : TaskId} {s t t' : ClusterStore} {tasks : List Task}
    (htasks : ∀ x ∈ tasks, s.statusOf x.id = some x.status.value) (hst : Resolves s t)
    {l : List TaskId} (h : (resolveAll now c .blocked tasks).run t = (.ok l, t')) : l = [] := by
  refine resolveAll_eq_nil (fun x hx hblocked _ t t₁ hst hres => ?_) hst h
  obtain ⟨r, hr, hp, -, -⟩ := ready_of_resolveDependencies hres
  have hstatus := htasks x hx
  rw [hblocked] at hstatus
  rcases hst x.id with e | ⟨hpend, -⟩
  · rw [statusOf, ← e, hr, Option.map_some, hp] at hstatus
    exact absurd hstatus (by decide)
  · rw [hpend] at hstatus
    exact absurd hstatus (by decide)

/-- A chain from a task that is not completed ends at once. -/
theorem propagate_open (depth : Nat) {c : TaskId} {s s' : ClusterStore}
    {x : Option (List TaskId)} (hc : ¬ s.Completed c)
    (h : (propagate now turns depth c).run s = (.ok x, s')) : x = some [] := by
  cases depth with
  | zero => cases h; rfl
  | succ depth =>
    rw [propagate] at h
    obtain ⟨tasks, s₁, hall, h⟩ := Prog.ok_of_run_bind h
    obtain ⟨rfl, rfl, -⟩ := getAllTasks_inv hall
    obtain ⟨l₁, t₁, hpend, h⟩ := Prog.ok_of_run_bind h
    obtain ⟨l₂, t₂, hblock, h⟩ := Prog.ok_of_run_bind h
    have htasks : ∀ x ∈ s₁.tasks.rows.map readRow, ∀ r, s₁.tasks.get? x.id = some r →
        r.dependsOn = x.dependsOn := by
      intro x hx r hr
      obtain ⟨q, hq, rfl⟩ := List.mem_map.mp hx
      rw [readRow_id, ← key_taskRow, Table.mem_rows_iff.mp hq] at hr
      cases hr
      rfl
    have hst : Resolves s₁ t₁ := by
      have := resolves_resolveAll now c .pending (s₁.tasks.rows.map readRow) s₁
      rwa [hpend] at this
    cases resolveAll_open hc htasks (Resolves.refl s₁) hpend
    cases resolveAll_open hc htasks hst hblock
    cases turns <;> (cases h; rfl)

/-- The list is not extended, and the loop over it ends. -/
theorem cascade_open (depth : Nat) {tids : List TaskId} {n : Nat} {s s' : ClusterStore}
    {x : Option (List TaskId)} (hopen : ∀ k ∈ tids, ¬ s.Completed k) (hn : tids.length ≤ n)
    (h : (cascade (propagate now turns depth) n tids).run s = (.ok x, s')) : x ≠ none := by
  induction tids generalizing n s s' x with
  | nil => cases n <;> (cases h; exact Option.some_ne_none _)
  | cons tid tids ih =>
    cases n with
    | zero => exact absurd hn (by simp)
    | succ n =>
      rw [cascade] at h
      obtain ⟨inner, s₁, hinner, h⟩ := Prog.ok_of_run_bind h
      cases propagate_open depth (hopen tid List.mem_cons_self) hinner
      dsimp only at h
      rw [List.append_nil] at h
      obtain ⟨y, s₂, hrest, h⟩ := Prog.ok_of_run_bind h
      have hrel : Resolves s s₁ := by
        have := resolves_propagate now turns depth tid s
        rwa [hinner] at this
      have hy : y ≠ none := by
        refine ih (fun k hk => ?_) (Nat.le_of_succ_le_succ hn) hrest
        rw [hrel.completed_iff]
        exact hopen k (List.mem_cons_of_mem tid hk)
      cases h
      rwa [Ne, Option.map_eq_none_iff]

/-- **The loops of `_propagate` end**, in as many turns as there are tasks. -/
theorem propagate_ends (depth : Nat) {c : TaskId} {s s' : ClusterStore}
    {x : Option (List TaskId)} (hturns : s.tasks.rows.length ≤ turns)
    (h : (propagate now turns depth c).run s = (.ok x, s')) : x ≠ none := by
  cases depth with
  | zero => cases h; exact Option.some_ne_none _
  | succ depth =>
    rw [propagate] at h
    obtain ⟨tasks, s₁, hall, h⟩ := Prog.ok_of_run_bind h
    obtain ⟨rfl, rfl, hdec⟩ := getAllTasks_inv hall
    obtain ⟨l₁, t₁, hpend, h⟩ := Prog.ok_of_run_bind h
    obtain ⟨l₂, t₂, hblock, h⟩ := Prog.ok_of_run_bind h
    have hst₁ : Resolves s₁ t₁ := by
      have := resolves_resolveAll now c .pending (s₁.tasks.rows.map readRow) s₁
      rwa [hpend] at this
    have hst₂ : Resolves t₁ t₂ := by
      have := resolves_resolveAll now c .blocked (s₁.tasks.rows.map readRow) t₁
      rwa [hblock] at this
    have htasks : ∀ x ∈ s₁.tasks.rows.map readRow,
        s₁.statusOf x.id = some x.status.value := by
      intro x hx
      obtain ⟨q, hq, rfl⟩ := List.mem_map.mp hx
      rw [statusOf, readRow_id, ← key_taskRow, Table.mem_rows_iff.mp hq, Option.map_some,
        readRow_status (hdec q hq)]
    obtain ⟨hlen, hopen⟩ := resolveAll_ready hpend
    cases resolveAll_blocked htasks hst₁ hblock
    rw [List.append_nil] at h
    refine cascade_open depth (fun k hk => ?_) ?_ h
    · rw [hst₂.completed_iff]
      exact hopen k hk
    · rw [List.length_map] at hlen
      exact hlen.trans hturns

/-! ### The pass over the pending tasks -/

namespace ClusterStore

/-- The task has failed. -/
def hasFailed (s : ClusterStore) (d : TaskId) : Bool := s.statusOf d = some TaskStatus.failed.value

/-- What `resolve_dependencies` makes of a pending row of the table `s`. -/
def resolvedRow (s : ClusterStore) (now : Time) (r : TaskRow) : TaskRow :=
  if r.dependsOn.any s.hasFailed then withStatus now .blocked "dependency failed" r
  else if s.allDone r.dependsOn then withStatus now .ready "" r
  else r

/-- The pending rows of the table that depend on `c`, in the order of the pass. -/
def waitingOn (s : ClusterStore) (c : TaskId) : List TaskRow :=
  s.tasks.rows.filter fun r => r.status = TaskStatus.pending.value ∧ c ∈ r.dependsOn

/-- A dependency of `q`, and not one behind the first that has failed, is one of the rows `seen`
and does not decode any more once it is resolved. -/
def stuck (s : ClusterStore) (now : Time) (seen : List TaskRow) (q : TaskRow) : Bool :=
  (q.dependsOn.takeWhile fun d => !s.hasFailed d).any fun d =>
    seen.any fun p => p.id = d ∧ decodes (s.resolvedRow now p) = false

/-- The rows of `seen ++ todo` the pass resolves before it is stuck. -/
def handled (s : ClusterStore) (now : Time) (seen : List TaskRow) : List TaskRow → List TaskRow
  | [] => seen
  | q :: todo => if s.stuck now seen q then seen else s.handled now (seen ++ [q]) todo

/-- The table in the middle of the pass. -/
def Midway (s : ClusterStore) (now : Time) (seen : List TaskRow) (t : ClusterStore) : Prop :=
  ∀ k, t.tasks.get? k =
    (s.tasks.get? k).map fun r => if r ∈ seen then s.resolvedRow now r else r

end ClusterStore

section Pass

variable {s : ClusterStore} {c : TaskId} {seen : List TaskRow} {t : ClusterStore}

/-- A resolved row has neither completed nor failed. -/
theorem resolvedRow_status (s : ClusterStore) (now : Time) {r : TaskRow}
    (hp : r.status = TaskStatus.pending.value) {u : TaskStatus}
    (hu : u = .completed ∨ u = .failed) : (s.resolvedRow now r).status ≠ u.value := by
  rw [resolvedRow]
  split
  · show TaskStatus.blocked.value ≠ u.value
    rcases hu with rfl | rfl <;> decide
  split
  · show TaskStatus.ready.value ≠ u.value
    rcases hu with rfl | rfl <;> decide
  · rw [hp]
    rcases hu with rfl | rfl <;> decide

/-- The rows of the table a pass has seen. -/
def SeenOf (s : ClusterStore) (seen : List TaskRow) : Prop :=
  ∀ p ∈ seen, s.tasks.get? p.id = some p ∧ p.status = TaskStatus.pending.value

/-- A resolved row of the pass that does not decode. -/
def Spoiled (s : ClusterStore) (now : Time) (seen : List TaskRow) (d : TaskId) : Prop :=
  ∃ p ∈ seen, p.id = d ∧ decodes (s.resolvedRow now p) = false

variable {d : TaskId}

theorem getTask_spoiled (hseen : SeenOf s seen) (hmid : Midway s now seen t)
    (h : Spoiled s now seen d) :
    s.hasFailed d = false ∧ ∃ e, t.getTask d = .error e := by
  obtain ⟨p, hp, rfl, hbad⟩ := h
  obtain ⟨hget, hpend⟩ := hseen p hp
  have hrow := hmid p.id
  rw [hget, Option.map_some, if_pos hp] at hrow
  refine ⟨?_, getTask_raises hrow (by rw [hbad]; exact Bool.false_ne_true)⟩
  rw [hasFailed, statusOf, hget, Option.map_some, hpend]
  decide

/-- What `get_task` says of a dependency in the middle of the pass is what it said before. -/
theorem getTask_midway (hdec : ∀ r ∈ s.tasks.rows, decodes r = true) (hseen : SeenOf s seen)
    (hmid : Midway s now seen t) (h : ¬ Spoiled s now seen d) :
    ∃ x, t.getTask d = .ok x ∧ (x.any (·.status = .failed) = s.hasFailed d) ∧
      (x.any (·.status = .completed) = true ↔ s.Completed d) := by
  have hrow := hmid d
  cases hr : s.tasks.get? d with
  | none =>
    rw [hr] at hrow
    refine ⟨none, getTask_of_none hrow, ?_, ?_⟩
    · rw [hasFailed, statusOf, hr]
      rfl
    · exact iff_of_false Bool.false_ne_true (not_completed_of_none hr)
  | some r =>
    rw [hr, Option.map_some] at hrow
    rw [completed_of_some hr, hasFailed, statusOf, hr, Option.map_some]
    by_cases hmem : r ∈ seen
    · obtain ⟨-, hpend⟩ := hseen r hmem
      rw [if_pos hmem] at hrow
      have hok : decodes (s.resolvedRow now r) = true := by
        by_contra hbad
        exact h ⟨r, hmem, Table.key_of_get? hr, Bool.eq_false_iff.mpr hbad⟩
      have hne : ∀ u : TaskStatus, u = .completed ∨ u = .failed →
          (readRow (s.resolvedRow now r)).status ≠ u := by
        intro u hu he
        refine resolvedRow_status s now hpend hu ?_
        rw [readRow_status hok, he]
      refine ⟨_, getTask_of_some hrow hok, ?_, ?_⟩
      · rw [Option.any_some, hpend, decide_eq_false (hne .failed (.inr rfl))]
        decide
      · rw [Option.any_some, decide_eq_true_eq, hpend]
        exact iff_of_false (hne .completed (.inl rfl)) (by decide)
    · rw [if_neg hmem] at hrow
      have hok := hdec r (Table.mem_of_get? hr)
      refine ⟨_, getTask_of_some hrow hok, ?_, ?_⟩
      · rw [Option.any_some, readRow_status hok, decide_eq_decide, Option.some.injEq]
        exact TaskStatus.value_inj.symm
      · rw [Option.any_some, decide_eq_true_eq, readRow_status hok]
        exact TaskStatus.value_inj.symm

theorem run_check_cons {x : Option Task} (h : t.getTask d = .ok x) (deps : List TaskId)
    (allDone : Bool) :
    (checkDependencies (d :: deps) allDone).run t =
      if x.any (·.status = .failed) then (.ok (allDone, true), t)
      else (checkDependencies deps (allDone && x.any (·.status = .completed))).run t := by
  rw [checkDependencies, Prog.run_bind_ok _ (Session.run_getTask_ok h)]
  cases x with
  | none => simp
  | some x =>
    simp only [Option.any_some, decide_eq_true_eq]
    split <;> rfl

theorem stuck_iff {q : TaskRow} : s.stuck now seen q = true ↔
    ∃ d ∈ q.dependsOn.takeWhile fun d => !s.hasFailed d, Spoiled s now seen d := by
  simp [stuck, Spoiled, List.any_eq_true]

theorem run_check_stuck (hdec : ∀ r ∈ s.tasks.rows, decodes r = true) (hseen : SeenOf s seen)
    (hmid : Midway s now seen t) {deps : List TaskId}
    (h : ∃ d ∈ deps.takeWhile fun d => !s.hasFailed d, Spoiled s now seen d) (allDone : Bool) :
    ∃ e, (checkDependencies deps allDone).run t = (.error e, t) := by
  induction deps generalizing allDone with
  | nil =>
    obtain ⟨d, hd, -⟩ := h
    cases hd
  | cons d deps ih =>
    by_cases hd : Spoiled s now seen d
    · obtain ⟨-, e, he⟩ := getTask_spoiled hseen hmid hd
      rw [checkDependencies, Prog.run_bind_error _ (Session.run_getTask_error he)]
      exact ⟨e, rfl⟩
    · obtain ⟨x, hx, hfail, -⟩ := getTask_midway hdec hseen hmid hd
      obtain ⟨d', hd', hbad⟩ := h
      have hopen : s.hasFailed d = false := by
        by_contra hf
        rw [List.takeWhile_cons_of_neg (by simpa using hf)] at hd'
        cases hd'
      rw [List.takeWhile_cons_of_pos (by simpa using hopen)] at hd'
      rw [run_check_cons hx, hfail, hopen, if_neg Bool.false_ne_true]
      rcases List.mem_cons.mp hd' with rfl | hmem
      · exact absurd hbad hd
      · exact ih ⟨d', hmem, hbad⟩ _

theorem run_check_midway (hdec : ∀ r ∈ s.tasks.rows, decodes r = true) (hseen : SeenOf s seen)
    (hmid : Midway s now seen t) {deps : List TaskId}
    (h : ¬ ∃ d ∈ deps.takeWhile fun d => !s.hasFailed d, Spoiled s now seen d)
    (allDone : Bool) :
    ∃ b, (checkDependencies deps allDone).run t = (.ok (b, deps.any s.hasFailed), t) ∧
      (deps.any s.hasFailed = false → (b = true ↔ allDone = true ∧ s.allDone deps = true)) := by
  induction deps generalizing allDone with
  | nil => exact ⟨allDone, rfl, fun _ => by simp [allDone_iff]⟩
  | cons d deps ih =>
    have hgood : ¬ Spoiled s now seen d := by
      intro hd
      refine h ⟨d, ?_, hd⟩
      rw [List.takeWhile_cons_of_pos (by simp [(getTask_spoiled hseen hmid hd).1])]
      exact List.mem_cons_self
    obtain ⟨x, hx, hfail, hcomp⟩ := getTask_midway hdec hseen hmid hgood
    rw [run_check_cons hx, hfail, List.any_cons]
    cases hf : s.hasFailed d with
    | true => exact ⟨allDone, rfl, fun hc => by cases hc⟩
    | false =>
      have htail : ¬ ∃ d ∈ deps.takeWhile fun d => !s.hasFailed d, Spoiled s now seen d := by
        rintro ⟨d', hd', hbad⟩
        refine h ⟨d', ?_, hbad⟩
        rw [List.takeWhile_cons_of_pos (by simp [hf])]
        exact List.mem_cons_of_mem d hd'
      obtain ⟨b, hrun, hb⟩ := ih htail (allDone && x.any (·.status = .completed))
      refine ⟨b, hrun, fun hc => ?_⟩
      rw [hb hc, Bool.and_eq_true, hcomp, allDone_iff, allDone_iff, List.forall_mem_cons,
        and_assoc]

variable {q : TaskRow}

/-- One more row resolved. -/
theorem midway_step {t' : ClusterStore} {f : TaskRow → TaskRow} (hmid : Midway s now seen t)
    (hq : s.tasks.get? q.id = some q) (hnew : q ∉ seen)
    (hget : ∀ k, t'.tasks.get? k = if k = q.id then (t.tasks.get? k).map f else t.tasks.get? k)
    (hf : f q = s.resolvedRow now q) : Midway s now (seen ++ [q]) t' := by
  intro k
  rw [hget, hmid]
  by_cases hk : k = q.id
  · subst hk
    rw [if_pos rfl, hq, Option.map_some, Option.map_some, Option.map_some, if_neg hnew,
      if_pos (by simp), hf]
  · rw [if_neg hk]
    cases hr : s.tasks.get? k with
    | none => rfl
    | some r =>
      have hne : r ≠ q := by
        rintro rfl
        exact hk (Table.key_of_get? hr).symm
      simp [hne]

/-- `resolve_dependencies` of a pending task.  Without dependencies the loop finds all of them
completed, so the branch that skips it makes no difference. -/
theorem run_resolve_pending (hrow : t.tasks.get? q.id = some q) (hok : decodes q = true)
    (hp : q.status = TaskStatus.pending.value) :
    (resolveDependencies now q.id).run t = ((do
      let checked ← checkDependencies q.dependsOn true
      if checked.2 then do
        let _ ← Session.setTaskStatus now q.id .blocked "dependency failed"
        return false
      else if checked.1 then do
        let _ ← Session.setTaskStatus now q.id .ready
        return true
      else return false : Session Bool)).run t := by
  have hread : (readRow q).status = .pending := by
    rw [readRow_of_status hp]
    rfl
  have hsame : (readRow q).dependsOn = q.dependsOn := rfl
  rw [resolveDependencies, Prog.run_bind_ok _ (Session.run_getTask_ok (getTask_of_some hrow hok))]
  dsimp only
  rw [if_neg (not_not.mpr hread), hsame]
  by_cases hnil : q.dependsOn = []
  · rw [if_pos hnil, hnil]
    rfl
  · rw [if_neg hnil]

theorem resolve_stuck (hdec : ∀ r ∈ s.tasks.rows, decodes r = true) (hseen : SeenOf s seen)
    (hmid : Midway s now seen t) (hq : s.tasks.get? q.id = some q)
    (hp : q.status = TaskStatus.pending.value) (hnew : q ∉ seen)
    (h : s.stuck now seen q = true) :
    ∃ e, (resolveDependencies now q.id).run t = (.error e, t) := by
  have hrow := hmid q.id
  rw [hq, Option.map_some, if_neg hnew] at hrow
  have hok := hdec q (Table.mem_of_get? hq)
  obtain ⟨e, he⟩ := run_check_stuck hdec hseen hmid (stuck_iff.mp h) true
  refine ⟨e, ?_⟩
  rw [run_resolve_pending hrow hok hp]
  exact Prog.run_bind_error _ he

/-- A task that has all its dependencies completed has none that failed. -/
theorem not_hasFailed_of_allDone {deps : List TaskId} (h : s.allDone deps = true) :
    deps.any s.hasFailed = false := by
  rw [List.any_eq_false]
  intro d hd hf
  rw [hasFailed, decide_eq_true_eq] at hf
  exact not_completed_of_statusOf hf (by decide) (allDone_iff.mp h d hd)

theorem resolve_midway (hdec : ∀ r ∈ s.tasks.rows, decodes r = true) (hseen : SeenOf s seen)
    (hmid : Midway s now seen t) (hq : s.tasks.get? q.id = some q)
    (hp : q.status = TaskStatus.pending.value) (hnew : q ∉ seen)
    (h : ¬ s.stuck now seen q = true) :
    ∃ t', (resolveDependencies now q.id).run t = (.ok (s.allDone q.dependsOn), t') ∧
      Midway s now (seen ++ [q]) t' := by
  have hrow := hmid q.id
  rw [hq, Option.map_some, if_neg hnew] at hrow
  have hok := hdec q (Table.mem_of_get? hq)
  obtain ⟨b, hrun, hb⟩ := run_check_midway hdec hseen hmid (fun hs => h (stuck_iff.mpr hs)) true
  rw [run_resolve_pending hrow hok hp, Prog.run_bind_ok _ hrun]
  cases hf : q.dependsOn.any s.hasFailed with
  | true =>
    have hopen : s.allDone q.dependsOn = false := by
      by_contra hall
      rw [not_hasFailed_of_allDone (Bool.not_eq_false _ ▸ hall)] at hf
      cases hf
    rw [hopen]
    refine ⟨_, rfl, midway_step hmid hq hnew (get?_setTaskStatus t now q.id _ _) ?_⟩
    rw [resolvedRow, if_pos hf]
  | false =>
    have hb := hb hf
    cases b with
    | true =>
      rw [(hb.mp rfl).2]
      refine ⟨_, rfl, midway_step hmid hq hnew (get?_setTaskStatus t now q.id _ _) ?_⟩
      rw [resolvedRow, hf, if_neg Bool.false_ne_true, if_pos (hb.mp rfl).2]
    | false =>
      have hopen : s.allDone q.dependsOn = false := by
        by_contra hall
        exact Bool.false_ne_true (hb.mpr ⟨rfl, Bool.not_eq_false _ ▸ hall⟩)
      rw [hopen]
      refine ⟨t, rfl, midway_step (f := id) hmid hq hnew (fun k => by simp) ?_⟩
      rw [resolvedRow, hf, if_neg Bool.false_ne_true, hopen, if_neg Bool.false_ne_true]
      rfl

/-- Passing over tasks first changes nothing. -/
theorem resolveAll_filter (c : TaskId) (status : TaskStatus) (tasks : List Task) :
    resolveAll now c status tasks =
      resolveAll now c status (tasks.filter fun x => x.status = status ∧ c ∈ x.dependsOn) := by
  induction tasks with
  | nil => rfl
  | cons x tasks ih =>
    rw [resolveAll, List.filter_cons]
    split
    · rename_i h
      rw [if_neg (by simp [h]), ih]
    split
    · rename_i h
      rw [if_neg (by simp [h]), ih]
    · rename_i h₁ h₂
      rw [if_pos (by simp [not_not.mp h₁, not_not.mp h₂]), resolveAll, if_neg h₁, if_neg h₂, ih]

theorem seenOf_concat (h : SeenOf s seen) {q : TaskRow} (hq : s.tasks.get? q.id = some q)
    (hp : q.status = TaskStatus.pending.value) : SeenOf s (seen ++ [q]) := by
  intro p hp'
  rcases List.mem_append.mp hp' with hmem | hlast
  · exact h p hmem
  · rw [List.mem_singleton.mp hlast]
    exact ⟨hq, hp⟩

/-- The pass ends with the rows it handles resolved.  If these are all, it returns those that
are due, and if not, it has raised. -/
theorem resolveAll_midway (hdec : ∀ r ∈ s.tasks.rows, decodes r = true) {todo : List TaskRow}
    (htodo : ∀ q ∈ todo, s.tasks.get? q.id = some q ∧ q.status = TaskStatus.pending.value ∧
      c ∈ q.dependsOn)
    (hnodup : (seen ++ todo).Nodup) (hseen : SeenOf s seen) (hmid : Midway s now seen t) :
    ∃ res t', (resolveAll now c .pending (todo.map readRow)).run t = (res, t') ∧
      Midway s now (s.handled now seen todo) t' ∧
      (s.handled now seen todo = seen ++ todo ∧
          res = .ok ((todo.filter fun q => s.allDone q.dependsOn).map TaskRow.id) ∨
        s.handled now seen todo ≠ seen ++ todo ∧ ∃ e, res = .error e) := by
  induction todo generalizing seen t with
  | nil => exact ⟨.ok [], t, rfl, hmid, .inl ⟨(List.append_nil seen).symm, rfl⟩⟩
  | cons q todo ih =>
    obtain ⟨hq, hp, hmem⟩ := htodo q List.mem_cons_self
    have hnew : q ∉ seen := fun h => List.disjoint_of_nodup_append hnodup h List.mem_cons_self
    have hread : (readRow q).status = .pending := by
      rw [readRow_of_status hp]
      rfl
    have hdeps : c ∈ (readRow q).dependsOn := hmem
    rw [List.map_cons, resolveAll, if_neg (not_not.mpr hread), if_neg (not_not.mpr hdeps), handled,
      readRow_id]
    by_cases hstuck : s.stuck now seen q = true
    · obtain ⟨e, he⟩ := resolve_stuck hdec hseen hmid hq hp hnew hstuck
      rw [if_pos hstuck, Prog.run_bind_error _ he]
      exact ⟨.error e, t, rfl, hmid, .inr ⟨by simp, e, rfl⟩⟩
    · obtain ⟨t₁, hrun, hmid₁⟩ := resolve_midway hdec hseen hmid hq hp hnew hstuck
      obtain ⟨res, t₂, hrest, hmid₂, hall⟩ :=
        ih (fun q' hq' => htodo q' (List.mem_cons_of_mem q hq')) (by simpa using hnodup)
          (seenOf_concat hseen hq hp) hmid₁
      rw [List.append_assoc, List.singleton_append] at hall
      rw [if_neg hstuck, Prog.run_bind_ok _ hrun]
      rcases hall with ⟨hall, rfl⟩ | ⟨hall, e, rfl⟩
      · rw [Prog.run_bind_ok _ hrest]
        refine ⟨_, t₂, rfl, hmid₂, .inl ⟨hall, ?_⟩⟩
        rw [List.filter_cons]
        cases s.allDone q.dependsOn <;> rfl
      · rw [Prog.run_bind_error _ hrest]
        exact ⟨.error e, t₂, rfl, hmid₂, .inr ⟨hall, e, rfl⟩⟩

theorem subset_handled (todo : List TaskRow) {r : TaskRow} (h : r ∈ seen) :
    r ∈ s.handled now seen todo := by
  induction todo generalizing seen with
  | nil => exact h
  | cons q todo ih =>
    rw [handled]
    split
    · exact h
    · exact ih (List.mem_append_left [q] h)

/-- The pass comes to a row if it is not stuck before, or at the row. -/
theorem mem_handled_iff {todo : List TaskRow} {r : TaskRow} (hr : r ∈ todo) (hnew : r ∉ seen) :
    r ∈ s.handled now seen todo ↔
      ∀ a q b, todo = a ++ q :: b → r ∉ a → ¬ s.stuck now (seen ++ a) q = true := by
  induction todo generalizing seen with
  | nil => cases hr
  | cons q todo ih =>
    rw [handled]
    split
    · rename_i hstuck
      refine iff_of_false hnew fun h => h [] q todo rfl (by simp) ?_
      rw [List.append_nil]
      exact hstuck
    · rename_i hgo
      have hhead : ∀ a q' b, q :: todo = a ++ q' :: b → a = [] →
          ¬ s.stuck now (seen ++ a) q' = true := by
        rintro a q' b h rfl
        cases h
        rwa [List.append_nil]
      by_cases hrq : r = q
      · subst hrq
        refine iff_of_true (subset_handled todo (by simp)) fun a q' b h hra => ?_
        refine hhead a q' b h ?_
        cases a with
        | nil => rfl
        | cons x a =>
          cases h
          exact absurd List.mem_cons_self hra
      · have hrt : r ∈ todo := (List.mem_cons.mp hr).resolve_left hrq
        rw [ih hrt (by simp [hnew, hrq])]
        refine ⟨fun h a q' b hsplit hra => ?_, fun h a q' b hsplit hra => ?_⟩
        · cases a with
          | nil => exact hhead [] q' b hsplit rfl
          | cons x a =>
            cases hsplit
            have := h a q' b rfl fun hm => hra (List.mem_cons_of_mem _ hm)
            rwa [List.append_assoc] at this
        · have := h (q :: a) q' b (by rw [hsplit, List.cons_append]) (by simp [hrq, hra])
          rwa [List.append_assoc]

end Pass

end HermesCluster
