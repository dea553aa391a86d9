import Mathlib.Data.List.Basic

/-!
# Computations that may raise

`Raise σ ε α` runs on a state: it returns a value or raises, and leaves a state in either
case, so what was written before an exception stays.  `transact` is a step that writes
nothing when it raises.

* `run_bind_of_ok`, `run_bind_of_error`: a sequence goes on after a step that returns, and
  stops at one that raises.
* `each_sim`: a loop whose turns follow the turns of a pure loop, as long as a relation
  that may speak of the elements still to come is kept.
* `mapM_ok`, `mapM_error`, `exists_of_mapM_error`: reading every element of a list with a
  partial function; `eq_map_of_mapM` collects results.
-/

/-- A computation over the state `σ` that may raise an `ε`. -/
def Raise (σ ε α : Type) : Type := σ → Except ε α × σ

namespace Raise

variable {σ τ ε α β : Type}

instance : Monad (Raise σ ε) where
  pure a := fun s => (.ok a, s)
  bind p f := fun s =>
    match p s with
    | (.ok a, s) => f a s
    | (.error e, s) => (.error e, s)

/-- `raise e` -/
def throw (e : ε) : Raise σ ε α := fun s => (.error e, s)

/-- A read that may raise. -/
def read (f : σ → Except ε α) : Raise σ ε α := fun s => (f s, s)

/-- A step that does not raise. -/
def update (f : σ → α × σ) : Raise σ ε α := fun s => (.ok (f s).1, (f s).2)

/-- A step that leaves the state alone when it raises. -/
def transact (f : σ → Except ε (α × σ)) : Raise σ ε α := fun s =>
  match f s with
  | .ok (a, s) => (.ok a, s)
  | .error e => (.error e, s)

/-- `for b in bs: p b` -/
def each (p : β → Raise σ ε Unit) : List β → Raise σ ε Unit
  | [] => pure ()
  | b :: bs => do
    p b
    each p bs

/-! ### Running -/

theorem run_bind_of_ok {p : Raise σ ε α} (f : α → Raise σ ε β) {s s' : σ} {a : α}
    (h : p s = (.ok a, s')) : (p >>= f) s = f a s' := by
  show (match p s with
    | (.ok a, s) => f a s
    | (.error e, s) => (.error e, s)) = _
  rw [h]

theorem run_bind_of_error {p : Raise σ ε α} (f : α → Raise σ ε β) {s s' : σ} {e : ε}
    (h : p s = (.error e, s')) : (p >>= f) s = (.error e, s') := by
  show (match p s with
    | (.ok a, s) => f a s
    | (.error e, s) => (.error e, s)) = _
  rw [h]

theorem run_read_of_ok {f : σ → Except ε α} {s : σ} {a : α} (h : f s = .ok a) :
    read f s = (.ok a, s) := by
  rw [read, h]

theorem run_transact_of_ok {f : σ → Except ε (α × σ)} {s s' : σ} {a : α}
    (h : f s = .ok (a, s')) : transact f s = (.ok a, s') := by
  rw [transact, h]

/-- **Loops.**  `R l` relates the states while the elements `l` are still to come. -/
theorem each_sim {R : List β → σ → τ → Prop} {p : β → Raise σ ε Unit} {g : τ → β → τ}
    (h : ∀ b l s t, R (b :: l) s t → ∃ s', p b s = (.ok (), s') ∧ R l s' (g t b)) :
    ∀ (l : List β) (s : σ) (t : τ), R l s t →
      ∃ s', each p l s = (.ok (), s') ∧ R [] s' (l.foldl g t) := by
  intro l
  induction l with
  | nil => intro s t hr; exact ⟨s, rfl, hr⟩
  | cons b l ih =>
    intro s t hr
    obtain ⟨s₁, hone, hr₁⟩ := h b l s t hr
    obtain ⟨s₂, hrest, hr₂⟩ := ih s₁ (g t b) hr₁
    refine ⟨s₂, ?_, hr₂⟩
    rw [each, run_bind_of_ok _ hone, hrest]

/-! ### Reading a list -/

/-- If every element is read, so is the list. -/
theorem mapM_ok {f : α → Except ε β} {g : α → β} {l : List α} (h : ∀ a ∈ l, f a = .ok (g a)) :
    l.mapM f = .ok (l.map g) := by
  induction l with
  | nil => rfl
  | cons a l ih =>
    rw [List.mapM_cons, h a List.mem_cons_self, ih fun b hb => h b (List.mem_cons_of_mem a hb)]
    rfl

/-- If some element is not, neither is the list. -/
theorem mapM_error {f : α → Except ε β} {l : List α} {a : α} (ha : a ∈ l) {e : ε}
    (h : f a = .error e) : ∃ e', l.mapM f = .error e' := by
  induction l with
  | nil => cases ha
  | cons b l ih =>
    rw [List.mapM_cons]
    cases hb : f b with
    | error e' => exact ⟨e', rfl⟩
    | ok b' =>
      rcases List.mem_cons.mp ha with rfl | ha
      · rw [h] at hb
        cases hb
      · obtain ⟨e', hl⟩ := ih ha
        rw [hl]
        exact ⟨e', rfl⟩

/-- What raises on a list raises on one of its elements. -/
theorem exists_of_mapM_error {f : α → Except ε β} {l : List α} {e : ε} (h : l.mapM f = .error e) :
    ∃ a ∈ l, f a = .error e := by
  induction l with
  | nil => cases h
  | cons a l ih =>
    rw [List.mapM_cons] at h
    cases ha : f a with
    | error e' =>
      rw [ha] at h
      cases h
      exact ⟨a, List.mem_cons_self, ha⟩
    | ok b =>
      rw [ha] at h
      cases hl : l.mapM f with
      | error e' =>
        rw [hl] at h
        cases h
        obtain ⟨a', ha', he⟩ := ih hl
        exact ⟨a', List.mem_cons_of_mem a ha', he⟩
      | ok bs =>
        rw [hl] at h
        cases h

/-- Results that can be collected are all there. -/
theorem eq_map_of_mapM {l : List (Except ε β)} {bs : List β} (h : l.mapM id = .ok bs) :
    l = bs.map .ok := by
  induction l generalizing bs with
  | nil =>
    cases h
    rfl
  | cons a l ih =>
    rw [List.mapM_cons] at h
    cases a with
    | error e => cases h
    | ok b =>
      cases hl : l.mapM id with
      | error e =>
        rw [hl] at h
        cases h
      | ok rest =>
        rw [hl] at h
        cases h
        rw [ih hl]
        rfl

end Raise
