import HermesCluster.Lib.Transaction

/-!
# Programs among others

The programs of a `Pool` share one set of tables and take turns: between two accesses of a
program the others may do any number of theirs.

* `run_step`: a program that nobody interrupts takes the accesses of `run`.
* `Each R`: every access of the program does what `R` allows, whatever it finds; there is a rule
  for each way to build a program.
* `Ensures rely post`: if the tables change only as `rely` allows while the program waits for its
  turns, then it ends in `post`, unless it raises.
-/

namespace Prog

variable {σ τ ε α β : Type}

/-- One access: what is left of the program, and the tables after. -/
def step : Prog τ ε α → τ → Prog τ ε α × τ
  | .ret a, s => (.ret a, s)
  | .raise e, s => (.raise e, s)
  | .query f next, s =>
    match f s with
    | .ok b => (next b, s)
    | .error e => (.raise e, s)
  | .transaction f next, s =>
    match f s with
    | .ok (b, s) => (next b, s)
    | .error e => (.raise e, s)

/-- **Alone**, a program takes one access after the other. -/
theorem run_step (p : Prog τ ε α) (s : τ) : (p.step s).1.run (p.step s).2 = p.run s := by
  cases p with
  | ret a => rfl
  | raise e => rfl
  | query f next =>
    simp only [step, run]
    cases f s <;> rfl
  | transaction f next =>
    simp only [step, run]
    cases f s <;> rfl

/-- `try: p except Exception: pass` -/
def attempt : Prog τ ε Unit → Prog τ ε Unit
  | .ret a => .ret a
  | .raise _ => .ret ()
  | .query f next =>
    .query (fun s => .ok (f s).toOption) fun b =>
      match b with
      | some b => (next b).attempt
      | none => .ret ()
  | .transaction f next =>
    .transaction
      (fun s =>
        match f s with
        | .ok (b, s) => .ok (some b, s)
        | .error _ => .ok (none, s))
      fun b =>
        match b with
        | some b => (next b).attempt
        | none => .ret ()

/-- It writes what the program writes, and does not raise. -/
theorem run_attempt (p : Prog τ ε Unit) (s : τ) : p.attempt.run s = (.ok (), (p.run s).2) := by
  induction p generalizing s with
  | ret a => rfl
  | raise e => rfl
  | query f next ih =>
    simp only [attempt, run]
    cases f s with
    | error e => rfl
    | ok b => exact ih b s
  | transaction f next ih =>
    simp only [attempt, run]
    cases f s with
    | error e => rfl
    | ok r => exact ih r.1 r.2

/-! ### What every access does -/

/-- Every access of the program does what `R` allows. -/
def Each (R : τ → τ → Prop) : Prog τ ε α → Prop
  | .ret _ => True
  | .raise _ => True
  | .query _ next => ∀ b, (next b).Each R
  | .transaction f next => (∀ s b s', f s = .ok (b, s') → R s s') ∧ ∀ b, (next b).Each R

section Each

variable {R : τ → τ → Prop}

@[simp] theorem each_pure (a : α) : (pure a : Prog τ ε α).Each R := trivial

@[simp] theorem each_raise (e : ε) : (raise e : Prog τ ε α).Each R := trivial

@[simp] theorem each_read (f : τ → Except ε α) : (read f).Each R := fun _ => trivial

theorem each_tx {f : τ → Except ε (α × τ)} (h : ∀ s a s', f s = .ok (a, s') → R s s') :
    (tx f).Each R := ⟨h, fun _ => trivial⟩

theorem each_write {f : τ → α × τ} (h : ∀ s, R s (f s).2) :
    (write f : Prog τ ε α).Each R := by
  refine each_tx fun s a s' hf => ?_
  have hs : (f s).2 = s' := congrArg Prod.snd (Except.ok.inj hf)
  rw [← hs]
  exact h s

theorem Each.bind {p : Prog τ ε α} {f : α → Prog τ ε β} (hp : p.Each R)
    (hf : ∀ a, (f a).Each R) : (p >>= f).Each R := by
  show (p.bind f).Each R
  induction p with
  | ret a => exact hf a
  | raise e => trivial
  | query g next ih => exact fun b => ih b (hp b)
  | transaction g next ih => exact ⟨hp.1, fun b => ih b (hp.2 b)⟩

theorem Each.ite {c : Prop} [Decidable c] {p q : Prog τ ε α} (hp : c → p.Each R)
    (hq : ¬ c → q.Each R) : (if c then p else q).Each R := by
  by_cases h : c
  · rw [if_pos h]
    exact hp h
  · rw [if_neg h]
    exact hq h

/-- A program over a part of the tables. -/
theorem Each.zoom {get : σ → τ} {set : σ → τ → σ} {R' : σ → σ → Prop}
    (h : ∀ s t, R (get s) t → R' s (set s t)) {p : Prog τ ε α} (hp : p.Each R) :
    (p.zoom get set).Each R' := by
  induction p with
  | ret a => trivial
  | raise e => trivial
  | query f next ih => exact fun b => ih b (hp b)
  | transaction f next ih =>
    refine ⟨fun s b s' hs => ?_, fun b => ih b (hp.2 b)⟩
    cases hf : f (get s) with
    | error e =>
      simp only [hf] at hs
      cases hs
    | ok r =>
      simp only [hf] at hs
      cases hs
      exact h s r.2 (hp.1 _ _ _ hf)

/-- What an exception in the program does not do. -/
theorem Each.attempt (hrefl : ∀ s, R s s) {p : Prog τ ε Unit} (hp : p.Each R) :
    p.attempt.Each R := by
  induction p with
  | ret a => trivial
  | raise e => trivial
  | query f next ih =>
    rw [Prog.attempt, Each]
    rintro (_ | b)
    · trivial
    · exact ih b (hp b)
  | transaction f next ih =>
    rw [Prog.attempt, Each]
    refine ⟨fun s b s' hs => ?_, ?_⟩
    · cases hf : f s with
      | error e =>
        simp only [hf] at hs
        cases hs
        exact hrefl s
      | ok r =>
        simp only [hf] at hs
        cases hs
        exact hp.1 _ _ _ hf
    · rintro (_ | b)
      · trivial
      · exact ih b (hp.2 b)

theorem Each.step {p : Prog τ ε α} (hp : p.Each R) (s : τ) : (p.step s).1.Each R := by
  cases p with
  | ret a => trivial
  | raise e => trivial
  | query f next =>
    rw [Prog.step]
    split
    · exact hp _
    · trivial
  | transaction f next =>
    rw [Prog.step]
    split
    · exact hp.2 _
    · trivial

theorem Each.rel_step (hrefl : ∀ s, R s s) {p : Prog τ ε α} (hp : p.Each R) (s : τ) :
    R s (p.step s).2 := by
  cases p with
  | ret a => exact hrefl s
  | raise e => exact hrefl s
  | query f next =>
    rw [Prog.step]
    split <;> exact hrefl s
  | transaction f next =>
    rw [Prog.step]
    split
    · rename_i hf
      exact hp.1 _ _ _ hf
    · exact hrefl s

theorem Each.rel_run (hrefl : ∀ s, R s s) (htrans : ∀ a b c, R a b → R b c → R a c)
    {p : Prog τ ε α} (hp : p.Each R) (s : τ) : R s (p.run s).2 := by
  induction p generalizing s with
  | ret a => exact hrefl s
  | raise e => exact hrefl s
  | query f next ih =>
    simp only [run]
    split
    · exact ih _ (hp _) s
    · exact hrefl s
  | transaction f next ih =>
    simp only [run]
    split
    · rename_i hf
      exact htrans _ _ _ (hp.1 _ _ _ hf) (ih _ (hp.2 _) _)
    · exact hrefl s

end Each

/-! ### What a program ensures -/

/-- Among others that keep to `rely`, the program ends in `post`, unless it raises. -/
def Ensures (rely : τ → τ → Prop) (post : α → τ → Prop) : Prog τ ε α → τ → Prop
  | .ret a, s => ∀ s', rely s s' → post a s'
  | .raise _, _ => True
  | .query f next, s =>
    ∀ s', rely s s' → ∀ b, f s' = .ok b → (next b).Ensures rely post s'
  | .transaction f next, s =>
    ∀ s', rely s s' → ∀ b s'', f s' = .ok (b, s'') → (next b).Ensures rely post s''

section Ensures

variable {rely : τ → τ → Prop} {post : α → τ → Prop} {s : τ}

/-- The others take turns. -/
theorem Ensures.others (htrans : ∀ a b c, rely a b → rely b c → rely a c) {p : Prog τ ε α}
    {s' : τ} (h : p.Ensures rely post s) (hs : rely s s') : p.Ensures rely post s' := by
  cases p with
  | ret a => exact fun s'' hs' => h s'' (htrans _ _ _ hs hs')
  | raise e => trivial
  | query f next => exact fun s'' hs' => h s'' (htrans _ _ _ hs hs')
  | transaction f next => exact fun s'' hs' => h s'' (htrans _ _ _ hs hs')

/-- The program takes its turn. -/
theorem Ensures.step (hrefl : ∀ s, rely s s) {p : Prog τ ε α} (h : p.Ensures rely post s) :
    (p.step s).1.Ensures rely post (p.step s).2 := by
  cases p with
  | ret a => exact h
  | raise e => trivial
  | query f next =>
    rw [Prog.step]
    split
    · rename_i hf
      exact h s (hrefl s) _ hf
    · trivial
  | transaction f next =>
    rw [Prog.step]
    split
    · rename_i hf
      exact h s (hrefl s) _ _ hf
    · trivial

theorem ensures_tx {f : τ → Except ε (α × τ)}
    (h : ∀ s', rely s s' → ∀ a s'', f s' = .ok (a, s'') → ∀ s₁, rely s'' s₁ → post a s₁) :
    (tx f).Ensures rely post s := h

theorem ensures_write {f : τ → α × τ}
    (h : ∀ s', rely s s' → ∀ s₁, rely (f s').2 s₁ → post (f s').1 s₁) :
    (write f : Prog τ ε α).Ensures rely post s := by
  refine ensures_tx fun s' hs a s'' hf s₁ hs₁ => ?_
  obtain ⟨ha, hs''⟩ := Prod.ext_iff.mp (Except.ok.inj hf)
  dsimp only at ha hs''
  rw [← ha]
  exact h s' hs s₁ (hs'' ▸ hs₁)

/-- **Sequencing.** -/
theorem Ensures.bind (hrefl : ∀ s, rely s s) {p : Prog τ ε α} {f : α → Prog τ ε β}
    {M : α → τ → Prop} {post : β → τ → Prop} (hp : p.Ensures rely M s)
    (hf : ∀ a s, M a s → (f a).Ensures rely post s) : (p >>= f).Ensures rely post s := by
  show (p.bind f).Ensures rely post s
  induction p generalizing s with
  | ret a => exact hf a s (hp s (hrefl s))
  | raise e => trivial
  | query g next ih => exact fun s' hs b hb => ih b (hp s' hs b hb)
  | transaction g next ih => exact fun s' hs b s'' hb => ih b (hp s' hs b s'' hb)

/-- What the others keep, and every access of the program, there is still at the end. -/
theorem Each.ensures {I : τ → Prop} (hI : ∀ s s', rely s s' → I s → I s') {p : Prog τ ε α}
    (hp : p.Each rely) (h : I s) : p.Ensures rely (fun _ => I) s := by
  induction p generalizing s with
  | ret a => exact fun s' hs => hI s s' hs h
  | raise e => trivial
  | query f next ih => exact fun s' hs b _ => ih b (hp b) (hI s s' hs h)
  | transaction f next ih =>
    exact fun s' hs b s'' hb => ih b (hp.2 b) (hI s' s'' (hp.1 s' b s'' hb) (hI s s' hs h))

/-- A program over a part of the tables. -/
theorem Ensures.zoom {get : σ → τ} {set : σ → τ → σ} {rely' : σ → σ → Prop}
    (hget : ∀ s t, get (set s t) = t) (hrely : ∀ s s', rely' s s' → rely (get s) (get s'))
    {p : Prog τ ε α} {s : σ} (h : p.Ensures rely post (get s)) :
    (p.zoom get set).Ensures rely' (fun a s => post a (get s)) s := by
  induction p generalizing s with
  | ret a => exact fun s' hs => h (get s') (hrely _ _ hs)
  | raise e => trivial
  | query f next ih => exact fun s' hs b hb => ih b (h (get s') (hrely _ _ hs) b hb)
  | transaction f next ih =>
    intro s' hs b s'' hb
    cases hf : f (get s') with
    | error e =>
      simp only [hf] at hb
      cases hb
    | ok r =>
      simp only [hf] at hb
      cases hb
      refine ih r.1 ?_
      rw [hget]
      exact h (get s') (hrely _ _ hs) r.1 r.2 hf

end Ensures

end Prog

/-! ### Pools -/

/-- Programs that share their tables. -/
structure Pool (τ ε : Type) where
  tables : τ
  threads : List (Prog τ ε Unit) := []

namespace Pool

variable {τ ε : Type} {R : τ → τ → Prop} {p : Pool τ ε}

/-- A new thread. -/
def spawn (p : Pool τ ε) (t : Prog τ ε Unit) : Pool τ ε :=
  { p with threads := p.threads ++ [t] }

/-- The turn of one thread. -/
def advance (p : Pool τ ε) (i : Nat) : Pool τ ε :=
  match p.threads[i]? with
  | none => p
  | some t => { tables := (t.step p.tables).2, threads := p.threads.set i (t.step p.tables).1 }

/-- Every access of every thread does what `R` allows. -/
def Each (R : τ → τ → Prop) (p : Pool τ ε) : Prop := ∀ t ∈ p.threads, t.Each R

theorem Each.spawn (h : p.Each R) {t : Prog τ ε Unit} (ht : t.Each R) : (p.spawn t).Each R := by
  intro u hu
  rcases List.mem_append.mp hu with hu | hu
  · exact h u hu
  · rw [List.mem_singleton.mp hu]
    exact ht

/-- A turn does what `R` allows, and the rest of the thread will. -/
theorem Each.advance (hrefl : ∀ s, R s s) (h : p.Each R) (i : Nat) :
    (p.advance i).Each R ∧ R p.tables (p.advance i).tables := by
  rw [Pool.advance]
  cases hi : p.threads[i]? with
  | none => exact ⟨h, hrefl p.tables⟩
  | some t =>
    have ht : t.Each R := h t (List.mem_of_getElem? hi)
    refine ⟨fun u hu => ?_, ht.rel_step hrefl p.tables⟩
    rcases List.mem_or_eq_of_mem_set hu with hu | rfl
    · exact h u hu
    · exact ht.step p.tables

end Pool
