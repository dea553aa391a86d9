import HermesCluster.Lib.Lock
import Mathlib.Data.DFinsupp.WellFounded
import Mathlib.Data.Fintype.Order

/-!
# Threads that share locks

A `Thread L σ α` is what one thread does, action by action: it acquires and releases locks of
`L`, changes the shared state in atomic steps, and ends with a value.  In a `Config` any
number of threads take turns; a thread that asks for a lock waits while it is held.

* `Represents`: a thread that runs alone does what a computation of `LockM` does.
* `Ordered`: it acquires locks in the order of their ranks only; there is a rule for each way
  to build a thread.
* `Config.Orderly.completes`: threads that keep to one order never block each other, whatever
  they do to the state: every schedule comes to its end, and then all of them have ended.
* `Config.Embraced.reaches`: two threads that wait for each other's lock do so for ever.
-/

/-- The actions of one thread. -/
inductive Thread (L σ α : Type) : Type
  | ret (a : α)
  | acquire (l : L) (k : Thread L σ α)
  | release (l : L) (k : Thread L σ α)
  /-- One atomic step; what follows may look at the state before it. -/
  | step (f : σ → σ) (k : σ → Thread L σ α)

namespace Thread

variable {L σ α β : Type}

protected def bind : Thread L σ α → (α → Thread L σ β) → Thread L σ β
  | ret a, f => f a
  | acquire l k, f => acquire l (k.bind f)
  | release l k, f => release l (k.bind f)
  | step g k, f => step g fun s => (k s).bind f

instance : Monad (Thread L σ) where
  pure := ret
  bind := Thread.bind

theorem bind_assoc {γ : Type} (p : Thread L σ α) (f : α → Thread L σ β)
    (g : β → Thread L σ γ) : (p >>= f) >>= g = p >>= fun a => f a >>= g := by
  show (p.bind f).bind g = p.bind fun a => (f a).bind g
  induction p with
  | ret a => rfl
  | acquire l k ih => exact congrArg (acquire l) ih
  | release l k ih => exact congrArg (release l) ih
  | step h k ih => exact congrArg (step h) (funext ih)

/-- One atomic step with a value. -/
def lift (f : σ → α × σ) : Thread L σ α := step (fun s => (f s).2) fun s => ret (f s).1

/-- `with l: p` -/
def withLock (l : L) (p : Thread L σ α) : Thread L σ α :=
  acquire l (p.bind fun a => release l (ret a))

/-- `for b in bs: p b` -/
def each (p : β → Thread L σ Unit) : List β → Thread L σ Unit
  | [] => pure ()
  | b :: bs => do
    p b
    each p bs

/-- The thread has ended. -/
def Ended : Thread L σ α → Prop
  | ret _ => True
  | _ => False

/-! ### A thread that runs alone -/

section Alone

variable [DecidableEq L]

/-- What the thread does without others: `none` when it waits for a lock it holds. -/
def alone : Thread L σ α → List L → σ → Option (α × List L × σ)
  | ret a, held, s => some (a, held, s)
  | acquire l k, held, s => if l ∈ held then none else k.alone (l :: held) s
  | release l k, held, s => k.alone (held.erase l) s
  | step f k, held, s => (k s).alone held (f s)

/-- Run alone, the thread does what `q` does, and gives back the locks it takes. -/
def Represents (p : Thread L σ α) (q : LockM L σ α) : Prop :=
  ∀ held s, p.alone held s = (q held s).map fun r => (r.1, held, r.2)

theorem alone_bind (p : Thread L σ α) (f : α → Thread L σ β) (held : List L) (s : σ) :
    (p.bind f).alone held s = (p.alone held s).bind fun r => (f r.1).alone r.2.1 r.2.2 := by
  induction p generalizing held s with
  | ret a => rfl
  | acquire l k ih =>
    rw [Thread.bind, alone, alone]
    split
    · rfl
    · exact ih (l :: held) s
  | release l k ih => exact ih (held.erase l) s
  | step g k ih => exact ih s held (g s)

/-- What follows a thread that ends. -/
theorem alone_bind_of_some {p : Thread L σ α} (f : α → Thread L σ β) {held held' : List L}
    {s s' : σ} {a : α} (h : p.alone held s = some (a, held', s')) :
    (p >>= f).alone held s = (f a).alone held' s' :=
  (alone_bind p f held s).trans (by rw [h]; rfl)

theorem alone_section {l : L} {held : List L} (hl : l ∉ held) (f : σ → α × σ) (s : σ) :
    (withLock l (lift f)).alone held s = some ((f s).1, held, (f s).2) := by
  rw [withLock, alone, if_neg hl]
  simp [lift, Thread.bind, alone]

theorem alone_withLock {l : L} {held : List L} (hl : l ∉ held) {p : Thread L σ α} {s s' : σ}
    {a : α} (h : p.alone (l :: held) s = some (a, l :: held, s')) :
    (withLock l p).alone held s = some (a, held, s') := by
  rw [withLock, alone, if_neg hl, alone_bind, h]
  simp [alone]

theorem represents_pure (a : α) : Represents (pure a : Thread L σ α) (pure a) := fun _ _ => rfl

theorem represents_lift (f : σ → α × σ) : Represents (lift f : Thread L σ α) (LockM.lift f) :=
  fun _ _ => rfl

theorem Represents.bind {p : Thread L σ α} {q : LockM L σ α} {f : α → Thread L σ β}
    {g : α → LockM L σ β} (hp : Represents p q) (hf : ∀ a, Represents (f a) (g a)) :
    Represents (p >>= f) (q >>= g) := by
  intro held s
  show (p.bind f).alone held s = _
  rw [alone_bind, hp, LockM.run_bind]
  cases q held s with
  | none => rfl
  | some r => exact hf r.1 held r.2

theorem Represents.withLock {p : Thread L σ α} {q : LockM L σ α} (l : L) (hp : Represents p q) :
    Represents (withLock l p) (LockM.withLock l q) := by
  intro held s
  rw [Thread.withLock, LockM.withLock, alone]
  split
  · rfl
  · rw [alone_bind, hp]
    cases q (l :: held) s with
    | none => rfl
    | some r => simp [alone]

/-- One step under a lock. -/
theorem represents_section (l : L) (f : σ → α × σ) :
    Represents (withLock l (lift f)) (LockM.withLock l (LockM.lift f)) :=
  (represents_lift f).withLock l

theorem Represents.each {p : β → Thread L σ Unit} {q : β → LockM L σ Unit}
    (hp : ∀ b, Represents (p b) (q b)) (bs : List β) :
    Represents (each p bs) (LockM.each q bs) := by
  induction bs with
  | nil => exact represents_pure ()
  | cons b bs ih => exact (hp b).bind fun _ => ih

end Alone

/-! ### Locks in order -/

section Ordered

variable [DecidableEq L] (rank : L → ℕ) (I : σ → Prop)

/-- Holding `held`, the thread acquires a lock only while all it holds are of lower rank,
releases only what it holds, keeps the invariant `I` of the state, and ends under `Q`. -/
def Ordered : List L → Thread L σ α → (α → List L → Prop) → Prop
  | held, ret a, Q => Q a held
  | held, acquire l k, Q => (∀ m ∈ held, rank m < rank l) ∧ Ordered (l :: held) k Q
  | held, release l k, Q => l ∈ held ∧ Ordered (held.erase l) k Q
  | held, step f k, Q => ∀ s, I s → I (f s) ∧ Ordered held (k s) Q

variable {rank I} {held : List L} {p : Thread L σ α} {Q : α → List L → Prop}

theorem Ordered.mono {R : α → List L → Prop} (h : Ordered rank I held p Q)
    (hQ : ∀ a held, Q a held → R a held) : Ordered rank I held p R := by
  induction p generalizing held with
  | ret a => exact hQ a held h
  | acquire l k ih => exact ⟨h.1, ih h.2⟩
  | release l k ih => exact ⟨h.1, ih h.2⟩
  | step f k ih => exact fun s hs => ⟨(h s hs).1, ih s (h s hs).2⟩

theorem Ordered.bind {f : α → Thread L σ β} {R : β → List L → Prop}
    (h : Ordered rank I held p Q) (hf : ∀ a held, Q a held → Ordered rank I held (f a) R) :
    Ordered rank I held (p >>= f) R := by
  show Ordered rank I held (p.bind f) R
  induction p generalizing held with
  | ret a => exact hf a held h
  | acquire l k ih => exact ⟨h.1, ih h.2⟩
  | release l k ih => exact ⟨h.1, ih h.2⟩
  | step g k ih => exact fun s hs => ⟨(h s hs).1, ih s (h s hs).2⟩

theorem ordered_lift {f : σ → α × σ} (hI : ∀ s, I s → I (f s).2)
    (hQ : ∀ s, I s → Q (f s).1 held) : Ordered rank I held (lift f) Q :=
  fun s hs => ⟨hI s hs, hQ s hs⟩

/-- **With a lock.**  Everything held is of lower rank, and the block gives back the rest. -/
theorem ordered_withLock {l : L} {P : α → Prop} (hrank : ∀ m ∈ held, rank m < rank l)
    (h : Ordered rank I (l :: held) p fun a held' => held' = l :: held ∧ P a) :
    Ordered rank I held (withLock l p) fun a held' => held' = held ∧ P a := by
  refine ⟨hrank, Ordered.bind h ?_⟩
  rintro a held' ⟨rfl, ha⟩
  exact ⟨List.mem_cons_self, List.erase_cons_head l held, ha⟩

theorem ordered_each {p : β → Thread L σ Unit} {bs : List β}
    (h : ∀ b ∈ bs, Ordered rank I held (p b) fun _ held' => held' = held) :
    Ordered rank I held (each p bs) fun _ held' => held' = held := by
  induction bs with
  | nil => exact rfl
  | cons b bs ih =>
    refine (h b List.mem_cons_self).bind ?_
    rintro _ held' rfl
    exact ih fun b hb => h b (List.mem_cons_of_mem _ hb)

end Ordered

/-! ### What is left of a thread -/

/-- What a thread still does after its first action. -/
inductive Rest : Thread L σ α → Thread L σ α → Prop
  | acquire (l : L) (k : Thread L σ α) : Rest k (.acquire l k)
  | release (l : L) (k : Thread L σ α) : Rest k (.release l k)
  | step (f : σ → σ) (k : σ → Thread L σ α) (s : σ) : Rest (k s) (.step f k)

theorem wellFounded_rest : WellFounded (Rest (L := L) (σ := σ) (α := α)) := by
  refine ⟨fun p => ?_⟩
  induction p with
  | ret a => exact ⟨_, fun _ h => by cases h⟩
  | acquire l k ih => exact ⟨_, fun _ h => by cases h; exact ih⟩
  | release l k ih => exact ⟨_, fun _ h => by cases h; exact ih⟩
  | step f k ih => exact ⟨_, fun _ h => by cases h with | step _ _ s => exact ih s⟩

/-- One thread does its first action, and the others stay. -/
theorem lex_update {n : ℕ} {todo : Fin n → Thread L σ Unit} {i : Fin n} {k : Thread L σ Unit}
    (h : Rest k (todo i)) :
    Pi.Lex (· < ·) (fun {_} => Rest) (Function.update todo i k) todo := by
  refine ⟨i, fun j hj => Function.update_of_ne hj.ne k todo, ?_⟩
  rw [Function.update_self]
  exact h

/-! ### Threads that take turns -/

/-- The shared state, and for each of `n` threads the locks it holds and what it still does. -/
structure Config (L σ : Type) (n : ℕ) where
  state : σ
  held : Fin n → List L
  todo : Fin n → Thread L σ Unit

namespace Config

variable [DecidableEq L] {n : ℕ} {c c' : Config L σ n}

/-- All threads at their beginning. -/
def start (s : σ) (p : Fin n → Thread L σ Unit) : Config L σ n := ⟨s, fun _ => [], p⟩

/-- One action of one thread. -/
inductive Step (c : Config L σ n) : Config L σ n → Prop
  | acquire (i : Fin n) (l : L) (k : Thread L σ Unit) (h : c.todo i = .acquire l k)
      (hfree : ∀ j, l ∉ c.held j) :
      Step c ⟨c.state, Function.update c.held i (l :: c.held i), Function.update c.todo i k⟩
  | release (i : Fin n) (l : L) (k : Thread L σ Unit) (h : c.todo i = .release l k) :
      Step c ⟨c.state, Function.update c.held i ((c.held i).erase l), Function.update c.todo i k⟩
  | step (i : Fin n) (f : σ → σ) (k : σ → Thread L σ Unit) (h : c.todo i = .step f k) :
      Step c ⟨f c.state, c.held, Function.update c.todo i (k c.state)⟩

abbrev Reaches (c c' : Config L σ n) : Prop := Relation.ReflTransGen Step c c'

/-- No thread can go on, and not all have ended. -/
def Deadlocked (c : Config L σ n) : Prop := (∀ c', ¬ Step c c') ∧ ∃ i, ¬ (c.todo i).Ended

/-- The state has the invariant, and every thread keeps to the order and gives back its
locks. -/
def Orderly (rank : L → ℕ) (I : σ → Prop) (c : Config L σ n) : Prop :=
  I c.state ∧ ∀ i, Ordered rank I (c.held i) (c.todo i) fun _ held => held = []

variable {rank : L → ℕ} {I : σ → Prop}

/-- What a thread does keeps to the order, and the others are not concerned. -/
theorem ordered_update {i : Fin n} {held : List L} {p : Thread L σ Unit}
    (h : ∀ i, Ordered rank I (c.held i) (c.todo i) fun _ held => held = [])
    (hi : Ordered rank I held p fun _ held => held = []) (j : Fin n) :
    Ordered rank I (Function.update c.held i held j) (Function.update c.todo i p j)
      fun _ held => held = [] := by
  by_cases hj : j = i
  · subst hj
    rw [Function.update_self, Function.update_self]
    exact hi
  · rw [Function.update_of_ne hj, Function.update_of_ne hj]
    exact h j

theorem Orderly.step (h : Orderly rank I c) (hs : Step c c') : Orderly rank I c' := by
  obtain ⟨hI, hord⟩ := h
  cases hs with
  | acquire i l k hk _ =>
    have hi := hord i
    rw [hk] at hi
    exact ⟨hI, ordered_update hord hi.2⟩
  | release i l k hk =>
    have hi := hord i
    rw [hk] at hi
    exact ⟨hI, ordered_update hord hi.2⟩
  | step i f k hk =>
    have hi := hord i
    rw [hk] at hi
    refine ⟨(hi c.state hI).1, fun j => ?_⟩
    have hj := ordered_update (i := i) hord (hi c.state hI).2 j
    rwa [Function.update_eq_self] at hj

theorem Orderly.reaches (h : Orderly rank I c) (hr : Reaches c c') : Orderly rank I c' := by
  induction hr with
  | refl => exact h
  | tail _ hs ih => exact ih.step hs

/-- A thread that cannot go on and has not ended asks for a lock some thread holds. -/
theorem wants_of_stuck (hstuck : ∀ c', ¬ Step c c') {i : Fin n} (hi : ¬ (c.todo i).Ended) :
    ∃ l k, c.todo i = .acquire l k ∧ ∃ j, l ∈ c.held j := by
  cases hk : c.todo i with
  | ret a => rw [hk] at hi; exact absurd trivial hi
  | acquire l k =>
    refine ⟨l, k, rfl, ?_⟩
    by_contra hfree
    exact hstuck _ (.acquire i l k hk fun j hj => hfree ⟨j, hj⟩)
  | release l k => exact absurd (.release i l k hk) (hstuck _)
  | step f k => exact absurd (.step i f k hk) (hstuck _)

/-- The rank of the lock a thread asks for next. -/
def wantedRank (rank : L → ℕ) (c : Config L σ n) (i : Fin n) : ℕ :=
  match c.todo i with
  | .acquire l _ => rank l
  | _ => 0

/-- **No deadlock.**  Were all stuck, whoever holds a lock that is asked for would ask for one
of greater rank, and so on without end. -/
theorem Orderly.not_deadlocked (h : Orderly rank I c) : ¬ Deadlocked c := by
  rintro ⟨hstuck, i₀, hi₀⟩
  have hgreater : ∀ N : ℕ, ∃ i l k, c.todo i = .acquire l k ∧ N ≤ rank l ∧ ∃ j, l ∈ c.held j := by
    intro N
    induction N with
    | zero =>
      obtain ⟨l, k, hk, hheld⟩ := wants_of_stuck hstuck hi₀
      exact ⟨i₀, l, k, hk, Nat.zero_le _, hheld⟩
    | succ N ih =>
      obtain ⟨i, l, k, -, hN, j, hj⟩ := ih
      have hordered := h.2 j
      have hnot : ¬ (c.todo j).Ended := by
        intro hend
        cases hk : c.todo j with
        | ret a =>
          rw [hk] at hordered
          have hnil : c.held j = [] := hordered
          rw [hnil] at hj
          exact absurd hj List.not_mem_nil
        | _ => rw [hk] at hend; exact hend
      obtain ⟨l', k', hk', hheld⟩ := wants_of_stuck hstuck hnot
      rw [hk'] at hordered
      exact ⟨j, l', k', hk', Nat.lt_of_le_of_lt hN (hordered.1 l hj), hheld⟩
  obtain ⟨i, l, k, hk, hN, -⟩ := hgreater (Finset.univ.sup (wantedRank rank c) + 1)
  have hle := Finset.le_sup (f := wantedRank rank c) (Finset.mem_univ i)
  have hrank : wantedRank rank c i = rank l := by rw [wantedRank, hk]
  omega

/-! ### Deadly embraces -/

/-- Each of two threads holds the lock that the other asks for. -/
structure Embraced (c : Config L σ n) (i j : Fin n) (a b : L) : Prop where
  holds_left : a ∈ c.held i
  wants_left : ∃ k, c.todo i = .acquire b k
  holds_right : b ∈ c.held j
  wants_right : ∃ k, c.todo j = .acquire a k

/-- A thread that moves does not ask for a lock that is held. -/
theorem Embraced.step {i j : Fin n} {a b : L} (h : Embraced c i j a b) (hs : Step c c') :
    Embraced c' i j a b := by
  obtain ⟨ha, ⟨k₁, hi⟩, hb, ⟨k₂, hj⟩⟩ := h
  have hne : ∀ {m : Fin n}, c.todo m ≠ c.todo i → c.todo m ≠ c.todo j → i ≠ m ∧ j ≠ m :=
    fun hi hj => ⟨fun h => hi (h ▸ rfl), fun h => hj (h ▸ rfl)⟩
  cases hs with
  | acquire m l k hm hfree =>
    have hlb : l ≠ b := fun h => hfree j (h ▸ hb)
    have hla : l ≠ a := fun h => hfree i (h ▸ ha)
    obtain ⟨hmi, hmj⟩ : i ≠ m ∧ j ≠ m := by
      refine hne ?_ ?_
      · rw [hm, hi]; exact fun h => hlb (by injection h)
      · rw [hm, hj]; exact fun h => hla (by injection h)
    refine ⟨?_, ⟨k₁, ?_⟩, ?_, ⟨k₂, ?_⟩⟩ <;> simp only [Function.update_of_ne hmi,
      Function.update_of_ne hmj] <;> assumption
  | release m l k hm =>
    obtain ⟨hmi, hmj⟩ : i ≠ m ∧ j ≠ m := hne (by rw [hm, hi]; nofun) (by rw [hm, hj]; nofun)
    refine ⟨?_, ⟨k₁, ?_⟩, ?_, ⟨k₂, ?_⟩⟩ <;> simp only [Function.update_of_ne hmi,
      Function.update_of_ne hmj] <;> assumption
  | step m f k hm =>
    obtain ⟨hmi, hmj⟩ : i ≠ m ∧ j ≠ m := hne (by rw [hm, hi]; nofun) (by rw [hm, hj]; nofun)
    refine ⟨ha, ⟨k₁, ?_⟩, hb, ⟨k₂, ?_⟩⟩ <;> simp only [Function.update_of_ne hmi,
      Function.update_of_ne hmj] <;> assumption

/-- **Deadly embrace.**  Whatever the other threads do, the two never go on. -/
theorem Embraced.reaches {i j : Fin n} {a b : L} (h : Embraced c i j a b) (hr : Reaches c c') :
    Embraced c' i j a b := by
  induction hr with
  | refl => exact h
  | tail _ hs ih => exact ih.step hs

omit [DecidableEq L] in
theorem Embraced.not_ended {i j : Fin n} {a b : L} (h : Embraced c i j a b) :
    ¬ (c.todo i).Ended ∧ ¬ (c.todo j).Ended := by
  obtain ⟨-, ⟨k₁, hi⟩, -, ⟨k₂, hj⟩⟩ := h
  rw [hi, hj]
  exact ⟨id, id⟩

/-- Two threads that take their first lock, do one step and ask for the other's lock can
embrace each other. -/
theorem exists_embraced {i j : Fin n} (hij : i ≠ j) {a b : L} (hab : a ≠ b)
    (hfree : ∀ m, a ∉ c.held m ∧ b ∉ c.held m) {f g : σ → σ} {k k' : σ → Thread L σ Unit}
    (hi : c.todo i = .acquire a (.step f k)) (hki : ∃ p, k c.state = .acquire b p)
    (hj : c.todo j = .acquire b (.step g k')) (hkj : ∃ p, k' (f c.state) = .acquire a p) :
    ∃ c', Reaches c c' ∧ Embraced c' i j a b := by
  have hji : j ≠ i := hij.symm
  -- the first thread takes its lock and does its step
  let held₁ := Function.update c.held i (a :: c.held i)
  let todo₁ := Function.update c.todo i (.step f k)
  have h₁ : Step c ⟨c.state, held₁, todo₁⟩ := .acquire i a _ hi fun m => (hfree m).1
  let todo₂ := Function.update todo₁ i (k c.state)
  have h₂ : Step ⟨c.state, held₁, todo₁⟩ ⟨f c.state, held₁, todo₂⟩ :=
    .step i f k (Function.update_self i _ c.todo)
  -- then the second does
  have hfree₁ : ∀ m, b ∉ held₁ m := by
    intro m
    by_cases hm : m = i
    · rw [hm, show held₁ i = a :: c.held i from Function.update_self i _ c.held, List.mem_cons]
      exact fun h => h.elim hab.symm (hfree i).2
    · rw [show held₁ m = c.held m from Function.update_of_ne hm _ c.held]
      exact (hfree m).2
  have hj₂ : todo₂ j = .acquire b (.step g k') :=
    (Function.update_of_ne hji _ todo₁).trans ((Function.update_of_ne hji _ c.todo).trans hj)
  let held₃ := Function.update held₁ j (b :: held₁ j)
  let todo₃ := Function.update todo₂ j (.step g k')
  have h₃ : Step ⟨f c.state, held₁, todo₂⟩ ⟨f c.state, held₃, todo₃⟩ :=
    .acquire j b _ hj₂ hfree₁
  let todo₄ := Function.update todo₃ j (k' (f c.state))
  have h₄ : Step ⟨f c.state, held₃, todo₃⟩ ⟨g (f c.state), held₃, todo₄⟩ :=
    .step j g k' (Function.update_self j _ todo₂)
  refine ⟨_, (((Relation.ReflTransGen.single h₁).tail h₂).tail h₃).tail h₄, ?_⟩
  obtain ⟨p, hp⟩ := hki
  obtain ⟨q, hq⟩ := hkj
  refine ⟨?_, ⟨p, ?_⟩, ?_, ⟨q, ?_⟩⟩
  · simp [held₃, held₁, Function.update_of_ne hij]
  · simp [todo₄, todo₃, todo₂, Function.update_of_ne hij, hp]
  · simp [held₃]
  · simp [todo₄, hq]

/-! ### Ending -/

/-- No schedule goes on for ever. -/
theorem wellFounded_step :
    WellFounded fun c' c : Config L σ n => Step c c' := by
  refine Subrelation.wf (fun {c' c} h => ?_) (InvImage.wf (fun c : Config L σ n => c.todo)
    (Pi.Lex.wellFounded (· < ·) fun _ => wellFounded_rest))
  cases h with
  | acquire i l k hk _ => exact lex_update (hk ▸ .acquire l k)
  | release i l k hk => exact lex_update (hk ▸ .release l k)
  | step i f k hk => exact lex_update (hk ▸ .step f k c.state)

/-- **Completion.**  Threads that keep to one order of the locks: every schedule comes to its
end, and where it cannot go on all of them have ended and given back their locks. -/
theorem Orderly.completes (h : Orderly rank I c) :
    WellFounded (fun c' c : Config L σ n => Step c c') ∧
      ∀ c', Reaches c c' → (∀ c'', ¬ Step c' c'') →
        ∀ i, (c'.todo i).Ended ∧ c'.held i = [] := by
  refine ⟨wellFounded_step, fun c' hr hstuck i => ?_⟩
  have h' := h.reaches hr
  have hend : (c'.todo i).Ended := by
    by_contra hi
    exact h'.not_deadlocked ⟨hstuck, i, hi⟩
  have hi := h'.2 i
  cases hk : c'.todo i with
  | ret a =>
    rw [hk] at hi
    exact ⟨trivial, hi⟩
  | _ => rw [hk] at hend; exact absurd hend id

end Config

end Thread
