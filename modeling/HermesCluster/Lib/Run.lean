import Mathlib.Data.List.Basic
import Mathlib.Data.List.Infix

/-!
# Runs of a step function

A system is a step function `σ → ι → σ`; a run is the list of its inputs, and
`exec` the state it leads to.  The states a run passes through are those its
prefixes lead to: `Always P` says that `P` holds in all of them, `EachStep C`
that `C` holds of every input at the state it is taken in.

* `always_of_eachStep`: an invariant kept by every step that meets `C` holds
  along every run that meets `C`.
* `always_iff_eachStep`: when one step from a good state lands in `P` exactly if
  it meets `C`, a run stays in `P` exactly if each of its steps meets `C`.
* `exec_preserves`: what steps meeting `C` preserve is still there later in the run.
* `related_iff_eachStep`: a preorder that each step respects, the whole run respects.
* `simulates`: two systems whose steps keep a relation answer every input of a run alike.
* `exec_keeps`: what no step changes, no run changes.
* `never_after_iff`: when a state is left for good.
-/

universe u v

namespace Run

variable {σ : Type u} {ι : Type v} {step : σ → ι → σ}

/-- The state a list of inputs leads to. -/
def exec (step : σ → ι → σ) (s : σ) (run : List ι) : σ := run.foldl step s

/-- `P` holds in every state the run passes through, its first and last included. -/
def Always (step : σ → ι → σ) (P : σ → Prop) (s : σ) (run : List ι) : Prop :=
  ∀ l, l <+: run → P (exec step s l)

/-- `C` holds of every input of the run, at the state the input is taken in. -/
def EachStep (step : σ → ι → σ) (C : σ → ι → Prop) (s : σ) (run : List ι) : Prop :=
  ∀ l i, l ++ [i] <+: run → C (exec step s l) i

@[simp] theorem exec_cons (s : σ) (i : ι) (run : List ι) :
    exec step s (i :: run) = exec step (step s i) run := rfl

theorem exec_append (s : σ) (l m : List ι) :
    exec step s (l ++ m) = exec step (exec step s l) m := List.foldl_append

theorem exec_concat (s : σ) (l : List ι) (i : ι) :
    exec step s (l ++ [i]) = step (exec step s l) i := by
  rw [exec_append]; rfl

/-! ### One input at a time -/

theorem prefix_of_concat {l run : List ι} {i : ι} (h : l ++ [i] <+: run) : l <+: run :=
  (List.prefix_append l [i]).trans h

theorem always_nil {P : σ → Prop} (s : σ) : Always step P s [] ↔ P s := by
  refine ⟨?_, ?_⟩
  · intro h; exact h [] (List.prefix_refl [])
  · intro h l hl
    rw [List.prefix_nil.mp hl]
    exact h

theorem always_cons {P : σ → Prop} (s : σ) (i : ι) (run : List ι) :
    Always step P s (i :: run) ↔ P s ∧ Always step P (step s i) run := by
  refine ⟨?_, ?_⟩
  · intro h
    refine ⟨h [] List.nil_prefix, fun l hl => ?_⟩
    exact h (i :: l) (List.cons_prefix_cons.mpr ⟨rfl, hl⟩)
  · rintro ⟨h0, h⟩ l hl
    cases l with
    | nil => exact h0
    | cons j l =>
      obtain ⟨rfl, hl'⟩ := List.cons_prefix_cons.mp hl
      exact h l hl'

theorem eachStep_nil {C : σ → ι → Prop} (s : σ) : EachStep step C s [] := by
  intro l i h
  have := List.prefix_nil.mp h
  simp at this

theorem eachStep_cons {C : σ → ι → Prop} (s : σ) (i : ι) (run : List ι) :
    EachStep step C s (i :: run) ↔ C s i ∧ EachStep step C (step s i) run := by
  refine ⟨?_, ?_⟩
  · intro h
    refine ⟨h [] i (by simp), fun l j hl => ?_⟩
    exact h (i :: l) j (List.cons_prefix_cons.mpr ⟨rfl, hl⟩)
  · rintro ⟨h0, h⟩ l j hl
    cases l with
    | nil =>
      obtain ⟨rfl, -⟩ := List.cons_prefix_cons.mp hl
      exact h0
    | cons a l =>
      obtain ⟨rfl, hl'⟩ := List.cons_prefix_cons.mp hl
      exact h l j hl'

theorem eachStep_append {C : σ → ι → Prop} (s : σ) (l m : List ι) :
    EachStep step C s (l ++ m) ↔ EachStep step C s l ∧ EachStep step C (exec step s l) m := by
  induction l generalizing s with
  | nil => exact ⟨fun h => ⟨eachStep_nil s, h⟩, fun h => h.2⟩
  | cons i l ih => rw [List.cons_append, eachStep_cons, eachStep_cons, ih, and_assoc, exec_cons]

theorem EachStep.imp {C D : σ → ι → Prop} {s : σ} {run : List ι}
    (h : EachStep step C s run) (hcd : ∀ s i, C s i → D s i) : EachStep step D s run :=
  fun l i hl => hcd _ _ (h l i hl)

theorem eachStep_congr {C D : σ → ι → Prop} (hcd : ∀ s i, C s i ↔ D s i) (s : σ) (run : List ι) :
    EachStep step C s run ↔ EachStep step D s run :=
  ⟨fun h => h.imp fun s i => (hcd s i).mp, fun h => h.imp fun s i => (hcd s i).mpr⟩

theorem eachStep_and {C D : σ → ι → Prop} (s : σ) (run : List ι) :
    EachStep step (fun s i => C s i ∧ D s i) s run ↔
      EachStep step C s run ∧ EachStep step D s run :=
  ⟨fun h => ⟨h.imp fun _ _ => And.left, h.imp fun _ _ => And.right⟩,
    fun h l i hl => ⟨h.1 l i hl, h.2 l i hl⟩⟩

theorem Always.imp {P Q : σ → Prop} {s : σ} {run : List ι}
    (h : Always step P s run) (hpq : ∀ s, P s → Q s) : Always step Q s run :=
  fun l hl => hpq _ (h l hl)

/-! ### Invariants -/

/-- **Invariant rule.**  What holds first and is kept by every step meeting `C`
holds along every run whose steps meet `C`. -/
theorem always_of_eachStep {I : σ → Prop} {C : σ → ι → Prop}
    (hstep : ∀ s i, I s → C s i → I (step s i)) :
    ∀ (run : List ι) (s : σ), I s → EachStep step C s run → Always step I s run := by
  intro run
  induction run with
  | nil => intro s h0 _; exact (always_nil s).mpr h0
  | cons i run ih =>
    intro s h0 hc
    obtain ⟨hi, hrest⟩ := (eachStep_cons s i run).mp hc
    exact (always_cons s i run).mpr ⟨h0, ih (step s i) (hstep s i h0 hi) hrest⟩

/-- **Step rule.**  What each step meeting `C` does from a state with the
invariant, it does along every run whose steps meet `C`. -/
theorem eachStep_of_eachStep {I : σ → Prop} {C D : σ → ι → Prop}
    (hstep : ∀ s i, I s → C s i → I (step s i)) (hd : ∀ s i, I s → C s i → D s i)
    (run : List ι) (s : σ) (h0 : I s) (hc : EachStep step C s run) :
    EachStep step D s run := by
  have hinv := always_of_eachStep hstep run s h0 hc
  exact fun l i hl => hd _ i (hinv l (prefix_of_concat hl)) (hc l i hl)

/-- **Exact rule.**  Along runs whose steps meet the assumption `A`: if a step from
a state with the invariant lands in `P` exactly when it meets `C`, and then keeps
the invariant, the run stays in `P` exactly when each of its steps meets `C`. -/
theorem always_iff_eachStep {I P : σ → Prop} {A C : σ → ι → Prop}
    (hP : ∀ s, I s → P s) (hiff : ∀ s i, I s → A s i → (P (step s i) ↔ C s i))
    (hstep : ∀ s i, I s → A s i → P (step s i) → I (step s i)) :
    ∀ (run : List ι) (s : σ), I s → EachStep step A s run →
      (Always step P s run ↔ EachStep step C s run) := by
  intro run
  induction run with
  | nil => intro s h0 _; exact ⟨fun _ => eachStep_nil s, fun _ => (always_nil s).mpr (hP s h0)⟩
  | cons i run ih =>
    intro s h0 ha
    obtain ⟨hai, har⟩ := (eachStep_cons s i run).mp ha
    rw [always_cons, eachStep_cons]
    refine ⟨?_, ?_⟩
    · rintro ⟨-, h⟩
      have hp : P (step s i) := h [] List.nil_prefix
      exact ⟨(hiff s i h0 hai).mp hp, (ih _ (hstep s i h0 hai hp) har).mp h⟩
    · rintro ⟨hi, h⟩
      have hp : P (step s i) := (hiff s i h0 hai).mpr hi
      exact ⟨hP s h0, (ih _ (hstep s i h0 hai hp) har).mpr h⟩

/-- What steps meeting `C` preserve is still there later in the run. -/
theorem exec_preserves {Q : σ → Prop} {C : σ → ι → Prop}
    (hstep : ∀ s i, Q s → C s i → Q (step s i)) (s : σ) (l : List ι) :
    ∀ m : List ι, EachStep step C (exec step s l) m → Q (exec step s l) →
      Q (exec step s (l ++ m)) := by
  intro m hc hq
  rw [exec_append]
  exact always_of_eachStep hstep m _ hq hc m (List.prefix_refl m)

/-- What no step changes, no run changes. -/
theorem exec_keeps {β : Type*} (look : σ → β) (h : ∀ s i, look (step s i) = look s)
    (run : List ι) (s : σ) : look (exec step s run) = look s := by
  induction run generalizing s with
  | nil => rfl
  | cons i run ih => rw [exec_cons, ih, h]

/-- **Simulation rule.**  If, at an input meeting `C`, related states lead to related states
with the same output, then along a run of inputs meeting `C` in the second system all states
are related and all outputs the same. -/
theorem simulates {τ : Type*} {ω : Type*} {step' : τ → ι → τ} {R : σ → τ → Prop}
    {C : τ → ι → Prop} (out : σ → ι → ω) (out' : τ → ι → ω)
    (h : ∀ s t i, R s t → C t i → out s i = out' t i ∧ R (step s i) (step' t i)) :
    ∀ (run : List ι) (s : σ) (t : τ), R s t → EachStep step' C t run →
      (∀ l, l <+: run → R (exec step s l) (exec step' t l)) ∧
      ∀ l i, l ++ [i] <+: run → out (exec step s l) i = out' (exec step' t l) i := by
  intro run s t hr hc
  have hrel : ∀ l, l <+: run → R (exec step s l) (exec step' t l) := by
    intro l
    induction l using List.reverseRecOn with
    | nil => exact fun _ => hr
    | append_singleton l i ih =>
      intro hl
      rw [exec_concat, exec_concat]
      exact (h _ _ i (ih (prefix_of_concat hl)) (hc l i hl)).2
  exact ⟨hrel, fun l i hl => (h _ _ i (hrel l (prefix_of_concat hl)) (hc l i hl)).1⟩

/-- For a reflexive and transitive relation: each state of the run is related to all later
ones exactly when each step relates the state before it to the state after. -/
theorem related_iff_eachStep {R : σ → σ → Prop} (hrefl : ∀ s, R s s)
    (htrans : ∀ a b c, R a b → R b c → R a c) (s : σ) (run : List ι) :
    (∀ l m, l ++ m <+: run → R (exec step s l) (exec step s (l ++ m))) ↔
      EachStep step (fun s i => R s (step s i)) s run := by
  refine ⟨?_, ?_⟩
  · intro h l i hl
    have hone := h l [i] hl
    rwa [exec_concat] at hone
  · intro h l m hl
    induction m using List.reverseRecOn with
    | nil =>
      rw [List.append_nil]
      exact hrefl _
    | append_singleton m i ih =>
      rw [← List.append_assoc] at hl ⊢
      rw [exec_concat]
      exact htrans _ _ _ (ih (prefix_of_concat hl)) (h (l ++ m) i hl)

/-- **Once and never again.**  Suppose `Q` puts the system in `S`, which excludes `R`;
a step keeps `S` unless it meets `B`, and a step meeting `B` lands in `R`.  Then `R` is
never reached after `Q` exactly when no step after `Q` meets `B`. -/
theorem never_after_iff {Q S R : σ → Prop} {B : σ → ι → Prop}
    (hQ : ∀ s, Q s → S s) (hR : ∀ s, S s → ¬ R s)
    (hkeep : ∀ s i, S s → ¬ B s i → S (step s i)) (hbad : ∀ s i, B s i → R (step s i))
    (s : σ) (run : List ι) :
    (∀ l m, l ++ m <+: run → Q (exec step s l) → ¬ R (exec step s (l ++ m))) ↔
      ∀ l m i, l ++ m ++ [i] <+: run → Q (exec step s l) → ¬ B (exec step s (l ++ m)) i := by
  refine ⟨?_, ?_⟩
  · intro h l m i hl hq hb
    refine h l (m ++ [i]) (by rwa [← List.append_assoc]) hq ?_
    rw [← List.append_assoc, exec_concat]
    exact hbad _ i hb
  · intro h l m hl hq
    refine hR _ (exec_preserves (C := fun s i => ¬ B s i) hkeep s l m ?_ (hQ _ hq))
    intro m' i hm
    rw [← exec_append]
    refine h l m' i (List.IsPrefix.trans ?_ hl) hq
    rw [List.append_assoc]
    exact (List.prefix_append_right_inj l).mpr hm

/-! ### Outputs -/

/-- What the steps of a run put out, one after the other. -/
def outputs {ω : Type*} (step : σ → ι → σ) (out : σ → ι → List ω) : σ → List ι → List ω
  | _, [] => []
  | s, i :: run => out s i ++ outputs step out (step s i) run

theorem outputs_concat {ω : Type*} (out : σ → ι → List ω) (s : σ) (run : List ι) (i : ι) :
    outputs step out s (run ++ [i]) = outputs step out s run ++ out (exec step s run) i := by
  induction run generalizing s with
  | nil => exact List.append_nil _
  | cons j run ih => rw [List.cons_append, outputs, outputs, ih, exec_cons, List.append_assoc]

end Run
