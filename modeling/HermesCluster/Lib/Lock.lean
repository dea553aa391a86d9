import Mathlib.Data.List.Basic

/-!
# Locks that are not reentrant

`LockM L σ α` is what one thread does: given the locks it holds and a state, it ends with
a value and a state, or it acquires a lock it holds already and waits for itself (`none`).

`Returns p held s` says that `p` does not wait for itself.  There is a rule for each way
to build a computation: `returns_bind`, `returns_withLock`, and `returns_each` for a loop
whose turns depend on what the loop leaves alone.
-/

/-- A computation of one thread over the locks `L` and the state `σ`. -/
def LockM (L σ α : Type) : Type := List L → σ → Option (α × σ)

namespace LockM

variable {L σ α β : Type}

instance : Monad (LockM L σ) where
  pure a := fun _ s => some (a, s)
  bind p f := fun held s => (p held s).bind fun r => f r.1 held r.2

/-- A step that takes no lock. -/
def lift (f : σ → α × σ) : LockM L σ α := fun _ s => some (f s)

/-- `with l: p` -/
def withLock [DecidableEq L] (l : L) (p : LockM L σ α) : LockM L σ α := fun held s =>
  if l ∈ held then none else p (l :: held) s

/-- `for b in bs: p b` -/
def each (p : β → LockM L σ Unit) : List β → LockM L σ Unit
  | [] => pure ()
  | b :: bs => do
    p b
    each p bs

/-- The computation does not wait for a lock of its own thread. -/
def Returns (p : LockM L σ α) (held : List L) (s : σ) : Prop := (p held s).isSome = true

instance (p : LockM L σ α) (held : List L) (s : σ) : Decidable (Returns p held s) := by
  unfold Returns; infer_instance

/-! ### Running -/

variable {held : List L} {s : σ}

@[simp] theorem run_pure (a : α) : (pure a : LockM L σ α) held s = some (a, s) := rfl

@[simp] theorem run_lift (f : σ → α × σ) : (lift f : LockM L σ α) held s = some (f s) := rfl

theorem run_bind (p : LockM L σ α) (f : α → LockM L σ β) :
    (p >>= f) held s = (p held s).bind fun r => f r.1 held r.2 := rfl

theorem run_bind_of_some {p : LockM L σ α} (f : α → LockM L σ β) {r : α × σ}
    (h : p held s = some r) : (p >>= f) held s = f r.1 held r.2 := by
  rw [run_bind, h]; rfl

theorem run_bind_of_none {p : LockM L σ α} (f : α → LockM L σ β) (h : p held s = none) :
    (p >>= f) held s = none := by
  rw [run_bind, h]; rfl

theorem run_withLock [DecidableEq L] {l : L} (p : LockM L σ α) (h : l ∉ held) :
    withLock l p held s = p (l :: held) s := if_neg h

/-! ### Returning -/

theorem returns_lift (f : σ → α × σ) : Returns (lift f : LockM L σ α) held s := rfl

theorem returns_bind {p : LockM L σ α} {f : α → LockM L σ β} :
    Returns (p >>= f) held s ↔ ∃ r, p held s = some r ∧ Returns (f r.1) held r.2 := by
  rw [Returns, run_bind]
  cases h : p held s with
  | none =>
    refine iff_of_false Bool.false_ne_true ?_
    intro ⟨r, hr, _⟩
    cases hr
  | some r =>
    rw [Option.bind_some]
    exact ⟨fun hf => ⟨r, rfl, hf⟩, fun ⟨r', hr', hf⟩ => by rwa [Option.some.inj hr']⟩

/-- A computation that returns is followed by what its result says. -/
theorem returns_bind_of_some {p : LockM L σ α} {f : α → LockM L σ β} {r : α × σ}
    (h : p held s = some r) : Returns (p >>= f) held s ↔ Returns (f r.1) held r.2 := by
  rw [Returns, run_bind_of_some f h, Returns]

/-- What follows does not count if it returns whatever the result. -/
theorem returns_bind_left {p : LockM L σ α} {f : α → LockM L σ β}
    (hf : ∀ r, p held s = some r → Returns (f r.1) held r.2) :
    Returns (p >>= f) held s ↔ Returns p held s := by
  rw [returns_bind, Returns]
  refine ⟨?_, ?_⟩
  · intro ⟨r, hr, _⟩
    rw [hr]
    rfl
  · intro h
    obtain ⟨r, hr⟩ := Option.isSome_iff_exists.mp h
    exact ⟨r, hr, hf r hr⟩

/-- A lock is waited for exactly when it is held, or in the block under it. -/
theorem returns_withLock [DecidableEq L] {l : L} {p : LockM L σ α} :
    Returns (withLock l p) held s ↔ l ∉ held ∧ Returns p (l :: held) s := by
  rw [Returns, withLock]
  by_cases h : l ∈ held
  · rw [if_pos h]
    exact iff_of_false Bool.false_ne_true fun hc => hc.1 h
  · rw [if_neg h]
    exact ⟨fun hp => ⟨h, hp⟩, fun hp => hp.2⟩

/-- **Loops.**  When a turn of the loop keeps `I`, and from states with `I` it returns
exactly under `Q`, the loop returns exactly when every element is under `Q`. -/
theorem returns_each {p : β → LockM L σ Unit} {I : σ → Prop} {Q : β → Prop}
    (hQ : ∀ b s, I s → (Returns (p b) held s ↔ Q b))
    (hI : ∀ b s r, I s → p b held s = some r → I r.2) :
    ∀ (l : List β) (s : σ), I s → (Returns (each p l) held s ↔ ∀ b ∈ l, Q b) := by
  intro l
  induction l with
  | nil =>
    intro s _
    exact iff_of_true rfl fun b hb => absurd hb List.not_mem_nil
  | cons b l ih =>
    intro s hs
    rw [each, returns_bind, List.forall_mem_cons]
    refine ⟨?_, ?_⟩
    · intro ⟨r, hr, hrest⟩
      refine ⟨(hQ b s hs).mp ?_, (ih r.2 (hI b s r hs hr)).mp hrest⟩
      rw [Returns, hr]; rfl
    · intro ⟨hb, hl⟩
      obtain ⟨r, hr⟩ := Option.isSome_iff_exists.mp ((hQ b s hs).mpr hb)
      exact ⟨r, hr, (ih r.2 (hI b s r hs hr)).mpr hl⟩

/-- What each turn of a loop keeps, the loop keeps. -/
theorem each_preserves {p : β → LockM L σ Unit} {I : σ → Prop}
    (hI : ∀ b s r, I s → p b held s = some r → I r.2) :
    ∀ (l : List β) (s : σ) (r : Unit × σ), I s → each p l held s = some r → I r.2 := by
  intro l
  induction l with
  | nil =>
    intro s r hs hr
    rw [each, run_pure] at hr
    rw [← Option.some.inj hr]
    exact hs
  | cons b l ih =>
    intro s r hs hr
    rw [each, run_bind] at hr
    obtain ⟨r₁, hr₁, hrest⟩ := Option.bind_eq_some_iff.mp hr
    exact ih r₁.2 r (hI b s r₁ hs hr₁) hrest

end LockM
