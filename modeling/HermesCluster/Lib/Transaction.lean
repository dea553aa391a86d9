import HermesCluster.Lib.Raise

/-!
# Programs over a database

A `Prog τ ε α` reads the tables `τ` and changes them in transactions; it returns an `α` or
raises an `ε`.

* `run` takes each transaction as one step, which writes nothing when it raises.
* `rel_bind`, `rel_tx`: what every part of a program keeps, the program keeps.
* `exec` runs on a `Connection`, which holds the tables last committed beside those a reader
  sees.  The end of a transaction commits whatever the reader sees, and an exception in one
  goes back to what was last committed, so a write outside of any transaction (`bare`) is kept
  by the next commit and lost to the next rollback.
* `exec_of_clean`: with nothing uncommitted, `exec` does what `run` does.  What it returns is
  the same in any case (`exec_fst`), and so are the tables unless the first transaction raises
  (`exec_not_failsFirst`).
* `faithful_exec_iff`, `whole_exec_iff`: when a rollback, and the program that raised, leave the
  tables as they were.
* `Failures`: whether the first transaction of a program raises, or a later one; with a rule
  for sequences and one for a program over a part of the tables (`zoom`).
-/

/-- A program over the tables `τ`. -/
inductive Prog (τ ε α : Type) : Type 1
  | ret (a : α)
  | raise (e : ε)
  /-- A read, which may raise. -/
  | query {β : Type} (f : τ → Except ε β) (next : β → Prog τ ε α)
  /-- A transaction, which may raise. -/
  | transaction {β : Type} (f : τ → Except ε (β × τ)) (next : β → Prog τ ε α)

namespace Prog

variable {τ ε α β : Type}

def bind : Prog τ ε α → (α → Prog τ ε β) → Prog τ ε β
  | .ret a, f => f a
  | .raise e, _ => .raise e
  | .query g next, f => .query g fun b => (next b).bind f
  | .transaction g next, f => .transaction g fun b => (next b).bind f

instance : Monad (Prog τ ε) where
  pure := .ret
  bind := bind

/-- A read and nothing else. -/
def read (f : τ → Except ε α) : Prog τ ε α := .query f .ret

/-- A transaction and nothing else. -/
def tx (f : τ → Except ε (α × τ)) : Prog τ ε α := .transaction f .ret

/-- A transaction that does not raise. -/
def write (f : τ → α × τ) : Prog τ ε α := tx fun s => .ok (f s)

/-! ### Transactions as steps -/

def run : Prog τ ε α → Raise τ ε α
  | .ret a => fun s => (.ok a, s)
  | .raise e => fun s => (.error e, s)
  | .query f next => fun s =>
    match f s with
    | .ok b => (next b).run s
    | .error e => (.error e, s)
  | .transaction f next => fun s =>
    match f s with
    | .ok (b, s) => (next b).run s
    | .error e => (.error e, s)

/-- Going on after a computation that returned, and not after one that raised. -/
def andThen {σ : Type} (r : Except ε α × σ) (f : α → Raise σ ε β) : Except ε β × σ :=
  match r with
  | (.ok a, s) => f a s
  | (.error e, s) => (.error e, s)

@[simp] theorem andThen_ok {σ : Type} (a : α) (s : σ) (f : α → Raise σ ε β) :
    andThen (.ok a, s) f = f a s := rfl

@[simp] theorem andThen_error {σ : Type} (e : ε) (s : σ) (f : α → Raise σ ε β) :
    andThen (.error e, s) f = (.error e, s) := rfl

@[simp] theorem run_pure (a : α) (s : τ) : (pure a : Prog τ ε α).run s = (.ok a, s) := rfl

theorem run_read_ok {f : τ → Except ε α} {s : τ} {a : α} (h : f s = .ok a) :
    (read f).run s = (.ok a, s) := by
  simp only [read, run, h]

theorem run_read_error {f : τ → Except ε α} {s : τ} {e : ε} (h : f s = .error e) :
    (read f).run s = (.error e, s) := by
  simp only [read, run, h]

@[simp] theorem run_read_snd (f : τ → Except ε α) (s : τ) : ((read f).run s).2 = s := by
  cases h : f s with
  | error e => rw [run_read_error h]
  | ok a => rw [run_read_ok h]

theorem run_tx_ok {f : τ → Except ε (α × τ)} {s s' : τ} {a : α} (h : f s = .ok (a, s')) :
    (tx f).run s = (.ok a, s') := by
  simp only [tx, run, h]

theorem run_tx_error {f : τ → Except ε (α × τ)} {s : τ} {e : ε} (h : f s = .error e) :
    (tx f).run s = (.error e, s) := by
  simp only [tx, run, h]

theorem ok_of_run_read {f : τ → Except ε α} {s s' : τ} {a : α}
    (h : (read f).run s = (.ok a, s')) : f s = .ok a ∧ s' = s := by
  cases hf : f s with
  | error e =>
    rw [run_read_error hf] at h
    cases h
  | ok b =>
    rw [run_read_ok hf] at h
    cases h
    exact ⟨rfl, rfl⟩

theorem ok_of_run_tx {f : τ → Except ε (α × τ)} {s s' : τ} {a : α}
    (h : (tx f).run s = (.ok a, s')) : f s = .ok (a, s') := by
  cases hf : f s with
  | error e =>
    rw [run_tx_error hf] at h
    cases h
  | ok r =>
    rw [run_tx_ok hf] at h
    cases h
    rfl

@[simp] theorem run_write (f : τ → α × τ) (s : τ) :
    (write f : Prog τ ε α).run s = (.ok (f s).1, (f s).2) := rfl

/-- **Sequencing.** -/
theorem run_bind (p : Prog τ ε α) (f : α → Prog τ ε β) (s : τ) :
    (p >>= f).run s = andThen (p.run s) fun a => (f a).run := by
  show (p.bind f).run s = _
  induction p generalizing s with
  | ret a => rfl
  | raise e => rfl
  | query g next ih =>
    simp only [bind, run]
    cases g s with
    | error e => rfl
    | ok b => exact ih b s
  | transaction g next ih =>
    simp only [bind, run]
    cases g s with
    | error e => rfl
    | ok r => exact ih r.1 r.2

theorem run_bind_ok {p : Prog τ ε α} (f : α → Prog τ ε β) {s s' : τ} {a : α}
    (h : p.run s = (.ok a, s')) : (p >>= f).run s = (f a).run s' := by
  rw [run_bind, h, andThen_ok]

theorem run_bind_error {p : Prog τ ε α} (f : α → Prog τ ε β) {s s' : τ} {e : ε}
    (h : p.run s = (.error e, s')) : (p >>= f).run s = (.error e, s') := by
  rw [run_bind, h, andThen_error]

/-- A sequence that returns has two parts that do. -/
theorem ok_of_run_bind {p : Prog τ ε α} {f : α → Prog τ ε β} {s s' : τ} {b : β}
    (h : (p >>= f).run s = (.ok b, s')) :
    ∃ a s₁, p.run s = (.ok a, s₁) ∧ (f a).run s₁ = (.ok b, s') := by
  rcases hr : p.run s with ⟨e | a, s₁⟩
  · rw [run_bind_error f hr] at h
    cases h
  · rw [run_bind_ok f hr] at h
    exact ⟨a, s₁, rfl, h⟩

/-- What a computation of the result does to the tables: nothing. -/
@[simp] theorem run_bind_pure_snd (p : Prog τ ε α) (g : α → β) (s : τ) :
    ((p >>= fun a => pure (g a)).run s).2 = (p.run s).2 := by
  rw [run_bind]
  rcases p.run s with ⟨_ | a, s'⟩
  · rfl
  · rfl

/-! ### What every part keeps -/

/-- A relation that both parts of a sequence keep, from the tables they are run on. -/
theorem rel_bind_at {R : τ → τ → Prop} (htrans : ∀ a b c, R a b → R b c → R a c)
    {p : Prog τ ε α} {f : α → Prog τ ε β} {s : τ} (hp : R s (p.run s).2)
    (hf : ∀ a s', p.run s = (.ok a, s') → R s' ((f a).run s').2) :
    R s ((p >>= f).run s).2 := by
  rw [run_bind]
  rcases hr : p.run s with ⟨_ | a, s'⟩
  · rw [andThen_error]
    rwa [hr] at hp
  · rw [andThen_ok]
    rw [hr] at hp
    exact htrans _ _ _ hp (hf a s' hr)

/-- A relation that both parts of a sequence keep, the sequence keeps. -/
theorem rel_bind {R : τ → τ → Prop} (htrans : ∀ a b c, R a b → R b c → R a c)
    {p : Prog τ ε α} {f : α → Prog τ ε β} (hp : ∀ s, R s (p.run s).2)
    (hf : ∀ a s, R s ((f a).run s).2) (s : τ) : R s ((p >>= f).run s).2 :=
  rel_bind_at htrans (hp s) fun a s' _ => hf a s'

/-- What follows a part that leaves the tables as they are. -/
theorem rel_bind_same {R : τ → τ → Prop} {p : Prog τ ε α} {f : α → Prog τ ε β} {s : τ}
    (hrefl : R s s) (hp : (p.run s).2 = s) (hf : ∀ a, R s ((f a).run s).2) :
    R s ((p >>= f).run s).2 := by
  rcases hr : p.run s with ⟨e | a, s'⟩
  · rw [hr] at hp
    subst hp
    rw [run_bind_error f hr]
    exact hrefl
  · rw [hr] at hp
    subst hp
    rw [run_bind_ok f hr]
    exact hf a

/-- What follows a read, from the tables read. -/
theorem rel_read_bind {R : τ → τ → Prop} {f : τ → Except ε α} {p : α → Prog τ ε β} {s : τ}
    (hrefl : R s s) (hp : ∀ a, f s = .ok a → R s ((p a).run s).2) :
    R s ((read f >>= p).run s).2 := by
  cases h : f s with
  | error e =>
    rw [run_bind_error p (run_read_error h)]
    exact hrefl
  | ok a =>
    rw [run_bind_ok p (run_read_ok h)]
    exact hp a h

/-- What a transaction does when it does not raise, and nothing when it does. -/
theorem rel_tx {R : τ → τ → Prop} (hrefl : ∀ s, R s s) {f : τ → Except ε (α × τ)} {s : τ}
    (hf : ∀ a s', f s = .ok (a, s') → R s s') : R s ((tx f).run s).2 := by
  rcases h : f s with e | ⟨a, s'⟩
  · rw [run_tx_error h]
    exact hrefl s
  · rw [run_tx_ok h]
    exact hf a s' h

end Prog

/-! ### Connections -/

/-- The tables last committed, the tables a reader sees, and for each transaction that was rolled
back what a reader saw before it and after. -/
structure Connection (τ : Type) where
  committed : τ
  visible : τ
  undone : List (τ × τ) := []
deriving DecidableEq

namespace Connection

variable {τ : Type}

/-- A connection to tables without uncommitted changes. -/
def opened (s : τ) : Connection τ := { committed := s, visible := s }

/-- There is nothing to commit. -/
def Clean (c : Connection τ) : Prop := c.committed = c.visible

/-- Every transaction that was rolled back left the tables as it found them. -/
def Faithful (c : Connection τ) : Prop := ∀ p ∈ c.undone, p.2 = p.1

instance [DecidableEq τ] (c : Connection τ) : Decidable c.Faithful :=
  inferInstanceAs (Decidable (∀ p ∈ c.undone, p.2 = p.1))

/-- A write outside of any transaction. -/
def bare (c : Connection τ) (f : τ → τ) : Connection τ := { c with visible := f c.visible }

/-- The end of a transaction. -/
def commit (c : Connection τ) (s : τ) : Connection τ := { c with committed := s, visible := s }

/-- An exception in a transaction. -/
def rollback (c : Connection τ) : Connection τ :=
  { c with visible := c.committed, undone := c.undone ++ [(c.visible, c.committed)] }

theorem faithful_rollback_iff (c : Connection τ) : c.rollback.Faithful ↔ c.Faithful ∧ c.Clean := by
  rw [Faithful, rollback, List.forall_mem_append, List.forall_mem_singleton]
  rfl

end Connection

namespace Prog

variable {σ τ ε α β : Type}

def exec : Prog τ ε α → Raise (Connection τ) ε α
  | .ret a => fun c => (.ok a, c)
  | .raise e => fun c => (.error e, c)
  | .query f next => fun c =>
    match f c.visible with
    | .ok b => (next b).exec c
    | .error e => (.error e, c)
  | .transaction f next => fun c =>
    match f c.visible with
    | .ok (b, s) => (next b).exec (c.commit s)
    | .error e => (.error e, c.rollback)

/-- With nothing uncommitted, a program does on a connection what it does in steps, and leaves
nothing uncommitted. -/
theorem exec_of_clean (p : Prog τ ε α) (c : Connection τ) (h : c.Clean) :
    (p.exec c).1 = (p.run c.visible).1 ∧ (p.exec c).2.visible = (p.run c.visible).2 ∧
      (p.exec c).2.Clean := by
  induction p generalizing c with
  | ret a => exact ⟨rfl, rfl, h⟩
  | raise e => exact ⟨rfl, rfl, h⟩
  | query f next ih =>
    simp only [exec, run]
    cases f c.visible with
    | error e => exact ⟨rfl, rfl, h⟩
    | ok b => exact ih b c h
  | transaction f next ih =>
    simp only [exec, run]
    cases f c.visible with
    | error e => exact ⟨rfl, h, rfl⟩
    | ok r => exact ih r.1 (c.commit r.2) rfl

/-! ### Exceptions in a transaction -/

/-- The tables as the transaction finds them that raises, if one does. -/
def failsAt : Prog τ ε α → τ → Option τ
  | .ret _, _ => none
  | .raise _, _ => none
  | .query f next, s =>
    match f s with
    | .ok b => (next b).failsAt s
    | .error _ => none
  | .transaction f next, s =>
    match f s with
    | .ok (b, s) => (next b).failsAt s
    | .error _ => some s

/-- The first transaction of the program raises. -/
def failsFirst : Prog τ ε α → τ → Bool
  | .ret _, _ => false
  | .raise _, _ => false
  | .query f next, s =>
    match f s with
    | .ok b => (next b).failsFirst s
    | .error _ => false
  | .transaction f _, s =>
    match f s with
    | .ok _ => false
    | .error _ => true

theorem failsAt_of_failsFirst {p : Prog τ ε α} {s : τ} (h : p.failsFirst s = true) :
    p.failsAt s = some s := by
  induction p with
  | ret a => cases h
  | raise e => cases h
  | query f next ih =>
    simp only [failsFirst, failsAt] at h ⊢
    cases hf : f s with
    | error e => rw [hf] at h; cases h
    | ok b =>
      rw [hf] at h
      exact ih b h
  | transaction f next ih =>
    simp only [failsFirst, failsAt] at h ⊢
    cases hf : f s with
    | error e => rfl
    | ok r => rw [hf] at h; cases h

/-- A program none of whose transactions raises rolls nothing back. -/
theorem exec_failsAt_none {p : Prog τ ε α} {c : Connection τ}
    (h : p.failsAt c.visible = none) : (p.exec c).2.undone = c.undone := by
  induction p generalizing c with
  | ret a => rfl
  | raise e => rfl
  | query f next ih =>
    simp only [exec, failsAt] at h ⊢
    cases hf : f c.visible with
    | error e => rfl
    | ok b =>
      rw [hf] at h
      exact ih b h
  | transaction f next ih =>
    simp only [exec, failsAt] at h ⊢
    cases hf : f c.visible with
    | error e => rw [hf] at h; cases h
    | ok r =>
      rw [hf] at h
      exact ih r.1 h

/-- If the first transaction raises, all goes that was not committed before the program. -/
theorem exec_failsFirst {p : Prog τ ε α} {c : Connection τ}
    (h : p.failsFirst c.visible = true) : (p.exec c).2 = c.rollback := by
  induction p with
  | ret a => cases h
  | raise e => cases h
  | query f next ih =>
    simp only [exec, failsFirst] at h ⊢
    cases hf : f c.visible with
    | error e => rw [hf] at h; cases h
    | ok b =>
      rw [hf] at h
      exact ih b h
  | transaction f next ih =>
    simp only [exec, failsFirst] at h ⊢
    cases hf : f c.visible with
    | error e => rfl
    | ok r => rw [hf] at h; cases h

/-- What a program returns or raises does not depend on what is committed. -/
theorem exec_fst (p : Prog τ ε α) (c : Connection τ) : (p.exec c).1 = (p.run c.visible).1 := by
  induction p generalizing c with
  | ret a => rfl
  | raise e => rfl
  | query f next ih =>
    simp only [exec, run]
    cases f c.visible with
    | error e => rfl
    | ok b => exact ih b c
  | transaction f next ih =>
    simp only [exec, run]
    cases f c.visible with
    | error e => rfl
    | ok r => exact ih r.1 (c.commit r.2)

/-- Past its first transaction, a program has nothing uncommitted. -/
theorem exec_not_failsFirst {p : Prog τ ε α} {c : Connection τ}
    (h : p.failsFirst c.visible = false) : (p.exec c).2.visible = (p.run c.visible).2 := by
  induction p with
  | ret a => rfl
  | raise e => rfl
  | query f next ih =>
    simp only [exec, run, failsFirst] at h ⊢
    cases hf : f c.visible with
    | error e => rfl
    | ok b =>
      rw [hf] at h
      exact ih b h
  | transaction f next ih =>
    simp only [exec, run, failsFirst] at h ⊢
    cases hf : f c.visible with
    | error e => rw [hf] at h; cases h
    | ok r => exact (exec_of_clean (next r.1) (c.commit r.2) rfl).2.1

/-- A program leaves the connection as it is, or nothing uncommitted. -/
theorem exec_eq_or_clean (p : Prog τ ε α) (c : Connection τ) :
    (p.exec c).2 = c ∨ (p.exec c).2.Clean := by
  induction p with
  | ret a => exact .inl rfl
  | raise e => exact .inl rfl
  | query f next ih =>
    simp only [exec]
    cases f c.visible with
    | error e => exact .inl rfl
    | ok b => exact ih b
  | transaction f next ih =>
    simp only [exec]
    cases f c.visible with
    | error e => exact .inr rfl
    | ok r => exact .inr (exec_of_clean (next r.1) (c.commit r.2) rfl).2.2

/-- A program commits nothing, or leaves nothing uncommitted. -/
theorem exec_committed (p : Prog τ ε α) (c : Connection τ) :
    (p.exec c).2.committed = c.committed ∨ (p.exec c).2.Clean :=
  (exec_eq_or_clean p c).imp_left (congrArg Connection.committed)

/-- What a program does to the tables a reader sees: what it does in steps, or it takes them back
to those last committed. -/
theorem exec_visible (p : Prog τ ε α) (c : Connection τ) :
    (p.exec c).2.visible = (p.run c.visible).2 ∨ (p.exec c).2.visible = c.committed := by
  cases hfirst : p.failsFirst c.visible with
  | true =>
    rw [exec_failsFirst hfirst]
    exact .inr rfl
  | false => exact .inl (exec_not_failsFirst hfirst)

/-- What holds of the tables last committed, and of those the program leaves when it runs on the
tables a reader sees, holds of the tables committed after it and of those a reader sees. -/
theorem exec_keeps_at {I : τ → Prop} {p : Prog τ ε α} {c : Connection τ} (hc : I c.committed)
    (hp : I (p.run c.visible).2) : I (p.exec c).2.committed ∧ I (p.exec c).2.visible := by
  have hvisible : I (p.exec c).2.visible := by
    rcases exec_visible p c with hrun | hback
    · rwa [hrun]
    · rwa [hback]
  refine ⟨?_, hvisible⟩
  rcases exec_committed p c with hsame | hclean
  · rwa [hsame]
  · rwa [hclean]

/-- What a program keeps of the tables, it keeps of those committed and of those a reader sees. -/
theorem exec_keeps {I : τ → Prop} {p : Prog τ ε α} (hp : ∀ s, I s → I (p.run s).2)
    {c : Connection τ} (hc : I c.committed) (hv : I c.visible) :
    I (p.exec c).2.committed ∧ I (p.exec c).2.visible :=
  exec_keeps_at hc (hp _ hv)

/-- With nothing uncommitted, a transaction that raises leaves the tables as it finds them. -/
theorem exec_failsAt_of_clean {p : Prog τ ε α} {c : Connection τ} (hc : c.Clean) {b : τ}
    (h : p.failsAt c.visible = some b) :
    (p.exec c).2.visible = b ∧ (p.exec c).2.undone = c.undone ++ [(b, b)] := by
  induction p generalizing c with
  | ret a => cases h
  | raise e => cases h
  | query f next ih =>
    simp only [exec, failsAt] at h ⊢
    cases hf : f c.visible with
    | error e => rw [hf] at h; cases h
    | ok b =>
      rw [hf] at h
      exact ih b hc h
  | transaction f next ih =>
    simp only [exec, failsAt] at h ⊢
    cases hf : f c.visible with
    | error e =>
      rw [hf] at h
      cases h
      exact ⟨hc, by rw [Connection.rollback, show c.committed = c.visible from hc]⟩
    | ok r =>
      rw [hf] at h
      exact ih r.1 (c := c.commit r.2) rfl h

/-- A transaction that raises after another has ended leaves the tables as it finds them. -/
theorem exec_failsAt {p : Prog τ ε α} {c : Connection τ} {b : τ}
    (hfirst : p.failsFirst c.visible = false) (h : p.failsAt c.visible = some b) :
    (p.exec c).2.visible = b ∧ (p.exec c).2.undone = c.undone ++ [(b, b)] := by
  induction p generalizing c with
  | ret a => cases h
  | raise e => cases h
  | query f next ih =>
    simp only [exec, failsFirst, failsAt] at hfirst h ⊢
    cases hf : f c.visible with
    | error e => rw [hf] at h; cases h
    | ok b =>
      rw [hf] at h hfirst
      exact ih b hfirst h
  | transaction f next ih =>
    simp only [exec, failsFirst, failsAt] at hfirst h ⊢
    cases hf : f c.visible with
    | error e => rw [hf] at hfirst; cases hfirst
    | ok r =>
      rw [hf] at h
      exact exec_failsAt_of_clean (c := c.commit r.2) rfl h

/-- **One program.**  It leaves a connection faithful exactly if it was, and, should the first
transaction raise, nothing was uncommitted. -/
theorem faithful_exec_iff (p : Prog τ ε α) (c : Connection τ) :
    (p.exec c).2.Faithful ↔ c.Faithful ∧ (p.failsFirst c.visible = true → c.Clean) := by
  cases hfirst : p.failsFirst c.visible with
  | true =>
    rw [exec_failsFirst hfirst, Connection.faithful_rollback_iff]
    simp
  | false =>
    have hno : (false = true → c.Clean) := fun h => absurd h Bool.false_ne_true
    rw [and_iff_left hno]
    cases h : p.failsAt c.visible with
    | none => rw [Connection.Faithful, exec_failsAt_none h, Connection.Faithful]
    | some b =>
      rw [Connection.Faithful, (exec_failsAt hfirst h).2, List.forall_mem_append,
        List.forall_mem_singleton, and_iff_left rfl]
      rfl

/-- **One program, as a whole.**  If it rolls something back, it leaves the tables as they were
before it, exactly if, should the first transaction raise, nothing was uncommitted, and no later
one raises after those before it have changed something. -/
theorem whole_exec_iff (p : Prog τ ε α) (c : Connection τ) :
    ((p.exec c).2.undone ≠ c.undone → (p.exec c).2.visible = c.visible) ↔
      (p.failsFirst c.visible = true → c.Clean) ∧
        ¬ (p.failsFirst c.visible = false ∧
          ∃ b, p.failsAt c.visible = some b ∧ b ≠ c.visible) := by
  cases hfirst : p.failsFirst c.visible with
  | true =>
    rw [exec_failsFirst hfirst]
    simp [Connection.rollback, Connection.Clean]
  | false =>
    cases h : p.failsAt c.visible with
    | none => simp [exec_failsAt_none h]
    | some b =>
      obtain ⟨hv, hu⟩ := exec_failsAt hfirst h
      simp [hv, hu]

/-! ### Where a sequence fails -/

/-- No transaction of the program ever raises. -/
def NeverFails (p : Prog τ ε α) : Prop := ∀ s, p.failsAt s = none

theorem failsFirst_of_none {p : Prog τ ε α} {s : τ} (h : p.failsAt s = none) :
    p.failsFirst s = false := by
  by_contra hf
  rw [failsAt_of_failsFirst (by simpa using hf)] at h
  cases h

theorem failsAt_bind (p : Prog τ ε α) (f : α → Prog τ ε β) (s : τ) :
    (p >>= f).failsAt s = (p.failsAt s).or
      (match p.run s with
      | (.ok a, s) => (f a).failsAt s
      | (.error _, _) => none) := by
  show (p.bind f).failsAt s = _
  induction p generalizing s with
  | ret a => rfl
  | raise e => rfl
  | query g next ih =>
    simp only [bind, failsAt, run]
    cases g s with
    | error e => rfl
    | ok b => exact ih b s
  | transaction g next ih =>
    simp only [bind, failsAt, run]
    cases g s with
    | error e => rfl
    | ok r => exact ih r.1 r.2

theorem NeverFails.bind {p : Prog τ ε α} {f : α → Prog τ ε β} (hp : p.NeverFails)
    (hf : ∀ a, (f a).NeverFails) : (p >>= f).NeverFails := by
  intro s
  rw [failsAt_bind, hp s, Option.none_or]
  split
  · exact hf _ _
  · rfl

theorem NeverFails.ite {c : Prop} [Decidable c] {p q : Prog τ ε α} (hp : p.NeverFails)
    (hq : q.NeverFails) : (if c then p else q).NeverFails := by
  split
  · exact hp
  · exact hq

theorem neverFails_pure (a : α) : (pure a : Prog τ ε α).NeverFails := fun _ => rfl

theorem neverFails_raise (e : ε) : (raise e : Prog τ ε α).NeverFails := fun _ => rfl

theorem neverFails_read (f : τ → Except ε α) : (read f).NeverFails := by
  intro s
  simp only [read, failsAt]
  cases f s <;> rfl

theorem neverFails_tx {f : τ → Except ε (α × τ)} (h : ∀ s, ∃ r, f s = .ok r) :
    (tx f).NeverFails := by
  intro s
  obtain ⟨r, hr⟩ := h s
  simp only [tx, failsAt, hr]

theorem neverFails_write (f : τ → α × τ) : (write f : Prog τ ε α).NeverFails :=
  neverFails_tx fun s => ⟨f s, rfl⟩

/-- The program opens a transaction. -/
def opens : Prog τ ε α → τ → Bool
  | .ret _, _ => false
  | .raise _, _ => false
  | .query f next, s =>
    match f s with
    | .ok b => (next b).opens s
    | .error _ => false
  | .transaction _ _, _ => true

theorem failsFirst_bind (p : Prog τ ε α) (f : α → Prog τ ε β) (s : τ) :
    (p >>= f).failsFirst s = (p.failsFirst s || (!p.opens s &&
      match p.run s with
      | (.ok a, s) => (f a).failsFirst s
      | (.error _, _) => false)) := by
  show (p.bind f).failsFirst s = _
  induction p with
  | ret a => rfl
  | raise e => rfl
  | query g next ih =>
    simp only [bind, failsFirst, opens, run]
    cases g s with
    | error e => rfl
    | ok b => exact ih b
  | transaction g next ih =>
    simp only [bind, failsFirst, opens]
    cases g s <;> rfl

/-- How the program fails from these tables: its first transaction raises, or a later one does
after those before it have changed something. -/
structure Failures (p : Prog τ ε α) (s : τ) (first partway : Prop) : Prop where
  first_iff : p.failsFirst s = true ↔ first
  partway_iff : (p.failsFirst s = false ∧ ∃ b, p.failsAt s = some b ∧ b ≠ s) ↔ partway

theorem Failures.congr {p : Prog τ ε α} {s : τ} {first first' partway partway' : Prop}
    (h : p.Failures s first partway) (hfirst : first ↔ first') (hpartway : partway ↔ partway') :
    p.Failures s first' partway' :=
  ⟨h.first_iff.trans hfirst, h.partway_iff.trans hpartway⟩

theorem NeverFails.failures {p : Prog τ ε α} (h : p.NeverFails) (s : τ) :
    p.Failures s False False where
  first_iff := by simp [failsFirst_of_none (h s)]
  partway_iff := by simp [h s]

theorem failures_tx (f : τ → Except ε (α × τ)) (s : τ) :
    (tx f).Failures s (∃ e, f s = .error e) False where
  first_iff := by
    simp only [tx, failsFirst]
    cases f s <;> simp
  partway_iff := by
    simp only [tx, failsFirst, failsAt]
    cases f s <;> simp

theorem failsAt_tx_iff (f : τ → Except ε (α × τ)) (s : τ) (P : τ → Prop) :
    (∃ b, (tx f).failsAt s = some b ∧ P b) ↔ (∃ e, f s = .error e) ∧ P s := by
  simp only [tx, failsAt]
  cases f s with
  | error e => simp
  | ok r => simp

/-- A transaction that raises unless a condition holds. -/
theorem failures_check {c : Prop} [Decidable c] {f : τ → Except ε (α × τ)} {s : τ} {r : α × τ}
    {e : ε} (hf : f s = if c then .ok r else .error e) : (tx f).Failures s (¬ c) False := by
  refine (failures_tx f s).congr ?_ Iff.rfl
  rw [hf]
  split
  · rename_i h
    simp [h]
  · rename_i h
    simp [h]

/-! What follows does not count if it never fails. -/

theorem failsFirst_bind_left {p : Prog τ ε α} {f : α → Prog τ ε β} (hf : ∀ a, (f a).NeverFails)
    (s : τ) : (p >>= f).failsFirst s = p.failsFirst s := by
  rw [failsFirst_bind]
  split
  · rw [failsFirst_of_none (hf _ _), Bool.and_false, Bool.or_false]
  · rw [Bool.and_false, Bool.or_false]

theorem failsAt_bind_left {p : Prog τ ε α} {f : α → Prog τ ε β} (hf : ∀ a, (f a).NeverFails)
    (s : τ) : (p >>= f).failsAt s = p.failsAt s := by
  rw [failsAt_bind]
  split
  · rw [hf, Option.or_none]
  · rw [Option.or_none]

theorem Failures.bind {p : Prog τ ε α} {f : α → Prog τ ε β} {s : τ} {first partway : Prop}
    (h : p.Failures s first partway) (hf : ∀ a, (f a).NeverFails) :
    (p >>= f).Failures s first partway := by
  refine ⟨?_, ?_⟩
  · rw [failsFirst_bind_left hf]
    exact h.first_iff
  · rw [failsFirst_bind_left hf, failsAt_bind_left hf]
    exact h.partway_iff

/-! A part that opens no transaction leaves the failures to what follows. -/

theorem failsFirst_bind_right {p : Prog τ ε α} {s : τ} {a : α} (hopens : p.opens s = false)
    (hat : p.failsAt s = none) (hrun : p.run s = (.ok a, s)) (f : α → Prog τ ε β) :
    (p >>= f).failsFirst s = (f a).failsFirst s := by
  rw [failsFirst_bind, failsFirst_of_none hat, hopens, hrun]
  rfl

theorem opens_bind_right {p : Prog τ ε α} {s : τ} {a : α} (hopens : p.opens s = false)
    (hrun : p.run s = (.ok a, s)) (f : α → Prog τ ε β) : (p >>= f).opens s = (f a).opens s := by
  show (p.bind f).opens s = _
  induction p with
  | ret a' =>
    cases hrun
    rfl
  | raise e => cases hrun
  | query g next ih =>
    simp only [Prog.bind, opens, run] at hopens hrun ⊢
    cases hg : g s with
    | error e => rw [hg] at hrun; cases hrun
    | ok b =>
      rw [hg] at hopens hrun
      exact ih b hopens hrun
  | transaction g next ih => cases hopens

/-- After a part that ends a transaction, no transaction is the first. -/
theorem failsFirst_bind_opened {p : Prog τ ε α} {s : τ} (hopens : p.opens s = true)
    (hat : p.failsAt s = none) (f : α → Prog τ ε β) : (p >>= f).failsFirst s = false := by
  rw [failsFirst_bind, failsFirst_of_none hat, hopens]
  rfl

theorem failsAt_bind_right {p : Prog τ ε α} {s s' : τ} {a : α} (hat : p.failsAt s = none)
    (hrun : p.run s = (.ok a, s')) (f : α → Prog τ ε β) :
    (p >>= f).failsAt s = (f a).failsAt s' := by
  rw [failsAt_bind, hat, hrun]
  rfl

theorem opens_read (f : τ → Except ε α) (s : τ) : (read f).opens s = false := by
  simp only [read, opens]
  cases f s <;> rfl

theorem Failures.read_bind {f : τ → Except ε α} {s : τ} {a : α} {p : α → Prog τ ε β}
    {first partway : Prop} (hrun : (read f).run s = (.ok a, s))
    (h : (p a).Failures s first partway) : (read f >>= p).Failures s first partway := by
  have hat := neverFails_read f s
  have hfirst := failsFirst_bind_right (opens_read f s) hat hrun p
  refine ⟨?_, ?_⟩
  · rw [hfirst]
    exact h.first_iff
  · rw [hfirst, failsAt_bind_right hat hrun]
    exact h.partway_iff

theorem failures_read_error {f : τ → Except ε α} {s : τ} {e : ε}
    (hrun : (read f).run s = (.error e, s)) (p : α → Prog τ ε β) :
    (read f >>= p).Failures s False False := by
  have hat : (read f >>= p).failsAt s = none := by
    rw [failsAt_bind, neverFails_read f s, hrun]
    rfl
  exact ⟨by simp [failsFirst_of_none hat], by simp [hat]⟩

/-- After a transaction that does not raise, every failure comes partway. -/
theorem failures_write_bind (f : τ → α × τ) (s : τ) (p : α → Prog τ ε β) :
    (write f >>= p).Failures s False (∃ b, (p (f s).1).failsAt (f s).2 = some b ∧ b ≠ s) := by
  have hat := neverFails_write (ε := ε) f s
  have hfirst : (write f >>= p).failsFirst s = false := failsFirst_bind_opened rfl hat p
  refine ⟨by simp [hfirst], ?_⟩
  rw [hfirst, failsAt_bind_right hat (run_write f s)]
  exact and_iff_right rfl

/-! ### One table of several -/

/-- A program over a part of the tables. -/
def zoom (get : σ → τ) (set : σ → τ → σ) : Prog τ ε α → Prog σ ε α
  | .ret a => .ret a
  | .raise e => .raise e
  | .query f next => .query (fun s => f (get s)) fun b => (next b).zoom get set
  | .transaction f next =>
    .transaction (fun s => (f (get s)).map fun r => (r.1, set s r.2)) fun b =>
      (next b).zoom get set

theorem run_zoom {get : σ → τ} {set : σ → τ → σ} (hget : ∀ s t, get (set s t) = t)
    (hset : ∀ s t t', set (set s t) t' = set s t') (hsame : ∀ s, set s (get s) = s)
    (p : Prog τ ε α) (s : σ) :
    (p.zoom get set).run s = ((p.run (get s)).1, set s (p.run (get s)).2) := by
  induction p generalizing s with
  | ret a => exact Prod.ext rfl (hsame s).symm
  | raise e => exact Prod.ext rfl (hsame s).symm
  | query f next ih =>
    simp only [zoom, run]
    cases f (get s) with
    | error e => exact Prod.ext rfl (hsame s).symm
    | ok b => exact ih b s
  | transaction f next ih =>
    simp only [zoom, run]
    cases f (get s) with
    | error e => exact Prod.ext rfl (hsame s).symm
    | ok r =>
      refine (ih r.1 (set s r.2)).trans ?_
      rw [hget, hset]

theorem failsFirst_zoom (get : σ → τ) (set : σ → τ → σ) (p : Prog τ ε α) (s : σ) :
    (p.zoom get set).failsFirst s = p.failsFirst (get s) := by
  induction p with
  | ret a => rfl
  | raise e => rfl
  | query f next ih =>
    simp only [zoom, failsFirst]
    cases f (get s) with
    | error e => rfl
    | ok b => exact ih b
  | transaction f next ih =>
    simp only [zoom, failsFirst]
    cases f (get s) <;> rfl

theorem failsAt_zoom {get : σ → τ} {set : σ → τ → σ} (hget : ∀ s t, get (set s t) = t)
    (hset : ∀ s t t', set (set s t) t' = set s t') (hsame : ∀ s, set s (get s) = s)
    (p : Prog τ ε α) (s : σ) :
    (p.zoom get set).failsAt s = (p.failsAt (get s)).map (set s) := by
  induction p generalizing s with
  | ret a => rfl
  | raise e => rfl
  | query f next ih =>
    simp only [zoom, failsAt]
    cases f (get s) with
    | error e => rfl
    | ok b => exact ih b s
  | transaction f next ih =>
    simp only [zoom, failsAt]
    cases f (get s) with
    | error e => exact congrArg some (hsame s).symm
    | ok r =>
      refine (ih r.1 (set s r.2)).trans ?_
      rw [hget]
      dsimp only
      cases (next r.1).failsAt r.2 with
      | none => rfl
      | some t => exact congrArg some (hset s r.2 t)

theorem Failures.zoom {get : σ → τ} {set : σ → τ → σ} (hget : ∀ s t, get (set s t) = t)
    (hset : ∀ s t t', set (set s t) t' = set s t') (hsame : ∀ s, set s (get s) = s)
    {p : Prog τ ε α} {s : σ} {first partway : Prop} (h : p.Failures (get s) first partway) :
    (p.zoom get set).Failures s first partway := by
  refine ⟨by rw [failsFirst_zoom]; exact h.first_iff, ?_⟩
  rw [failsFirst_zoom, failsAt_zoom hget hset hsame, ← h.partway_iff]
  refine and_congr_right fun _ => ⟨?_, ?_⟩
  · rintro ⟨b, hb, hne⟩
    obtain ⟨t, ht, rfl⟩ := Option.map_eq_some_iff.mp hb
    refine ⟨t, ht, ?_⟩
    rintro rfl
    exact hne (hsame s)
  · rintro ⟨t, ht, hne⟩
    refine ⟨set s t, by rw [ht]; rfl, fun he => hne ?_⟩
    rw [← hget s t, he]

end Prog
