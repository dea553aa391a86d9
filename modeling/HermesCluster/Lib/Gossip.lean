import HermesCluster.Lib.Run
import Mathlib.Data.Finset.Lattice.Basic
import Mathlib.Data.Fintype.Basic
import Mathlib.Data.List.Forall2

/-!
# Gossip of snapshots

Replicas that send each other snapshots of all they hold.  A snapshot that was sent may be
delivered to any replica at any later time, any number of times, in any order or not at all;
the receiver merges it into what it holds.

Who has heard of whom is a gossip of its own, `hearsay`, in which a replica holds the set of
those it has heard of: with every run of the one goes the run of the other.

* `gathered`: what holds of a replica that has heard of itself alone, and goes over to
  snapshots and from two sets to their union in a merge, holds of each replica in every run,
  with the set of those it has heard of.
* `heard_eq_univ`: once a snapshot of each has come to each, every replica has heard of all.
-/

universe u v w x

namespace Gossip

variable {ι : Type u} {σ : Type v} {μ : Type w} {τ : Type x}

/-- How a replica takes a snapshot, if it can, and how it merges one, at a clock reading. -/
structure Protocol (σ : Type v) (μ : Type w) (τ : Type x) where
  snapshot : σ → τ → Option μ
  merge : σ → τ → μ → σ

inductive Event (ι : Type u) (τ : Type x)
  | push (i : ι) (t : τ)
  /-- The snapshot of the `m`-th push comes to `j`. -/
  | deliver (j : ι) (m : ℕ) (t : τ)

def Event.IsPush : Event ι τ → Bool
  | push .. => true
  | deliver .. => false

/-- The replicas, and what was sent at each push. -/
structure Net (ι : Type u) (σ : Type v) (μ : Type w) where
  replica : ι → σ
  sent : List (Option μ) := []

variable [DecidableEq ι]

def step (p : Protocol σ μ τ) (c : Net ι σ μ) : Event ι τ → Net ι σ μ
  | .push i t => { c with sent := c.sent ++ [p.snapshot (c.replica i) t] }
  | .deliver j m t => (c.sent[m]?.join).elim c fun msg =>
      { c with replica := Function.update c.replica j (p.merge (c.replica j) t msg) }

theorem step_deliver {p : Protocol σ μ τ} {c : Net ι σ μ} {n : ℕ} {m : μ}
    (h : c.sent[n]?.join = some m) (j : ι) (t : τ) : step p c (.deliver j n t) =
      { c with replica := Function.update c.replica j (p.merge (c.replica j) t m) } := by
  rw [step, h]
  rfl

/-- The gossip about the gossip. -/
def hearsay (ι : Type u) [DecidableEq ι] (τ : Type x) : Protocol (Finset ι) (Finset ι) τ where
  snapshot h _ := some h
  merge h _ h' := h ∪ h'

/-- At first everyone has heard of himself. -/
def hearing (run : List (Event ι τ)) : Net ι (Finset ι) (Finset ι) :=
  Run.exec (step (hearsay ι τ)) { replica := fun i => {i} } run

/-- Those a replica has heard of, itself included. -/
def heard (run : List (Event ι τ)) (j : ι) : Finset ι := (hearing run).replica j

/-! ### The replicas and what they have heard -/

variable {p : Protocol σ μ τ} {start : ι → σ}

/-- A net and the hearsay along with it. -/
structure Related (R : σ → Finset ι → Prop) (M : μ → Finset ι → Prop) (c : Net ι σ μ)
    (h : Net ι (Finset ι) (Finset ι)) : Prop where
  replica : ∀ i, R (c.replica i) (h.replica i)
  sent : List.Forall₂ (fun o o' => ∃ m b, o = some m ∧ o' = some b ∧ M m b) c.sent h.sent

/-- One step of both. -/
theorem Related.step {R : σ → Finset ι → Prop} {M : μ → Finset ι → Prop}
    (hsnap : ∀ s b t, R s b → ∃ m, p.snapshot s t = some m ∧ M m b)
    (hmerge : ∀ s b t m b', R s b → M m b' → R (p.merge s t m) (b ∪ b'))
    {c : Net ι σ μ} {h : Net ι (Finset ι) (Finset ι)} (hr : Related R M c h) (e : Event ι τ) :
    Related R M (step p c e) (step (hearsay ι τ) h e) := by
  cases e with
  | push i t =>
    obtain ⟨m, hm, hM⟩ := hsnap _ _ t (hr.replica i)
    exact ⟨hr.replica, List.rel_append hr.sent (.cons ⟨m, _, hm, rfl, hM⟩ .nil)⟩
  | deliver j n t =>
    rcases lt_or_ge n c.sent.length with hn | hn
    · have hn' : n < h.sent.length := hr.sent.length_eq ▸ hn
      obtain ⟨m, b, hm, hb, hM⟩ := hr.sent.get hn hn'
      have hc : c.sent[n]?.join = some m := by
        rw [List.getElem?_eq_getElem hn]
        exact hm
      have hh : h.sent[n]?.join = some b := by
        rw [List.getElem?_eq_getElem hn']
        exact hb
      rw [step_deliver hc, step_deliver hh]
      refine ⟨fun i => ?_, hr.sent⟩
      show R (Function.update c.replica j (p.merge (c.replica j) t m) i)
        (Function.update h.replica j (h.replica j ∪ b) i)
      by_cases hi : i = j
      · rw [hi, Function.update_self, Function.update_self]
        exact hmerge _ _ t m b (hr.replica j) hM
      · rw [Function.update_of_ne hi, Function.update_of_ne hi]
        exact hr.replica i
    · have hn' : h.sent.length ≤ n := hr.sent.length_eq ▸ hn
      rw [Gossip.step, Gossip.step, List.getElem?_eq_none hn, List.getElem?_eq_none hn']
      exact hr

/-- **The gossip rule.** -/
theorem gathered {R : σ → Finset ι → Prop} {M : μ → Finset ι → Prop}
    (hstart : ∀ i, R (start i) {i})
    (hsnap : ∀ s b t, R s b → ∃ m, p.snapshot s t = some m ∧ M m b)
    (hmerge : ∀ s b t m b', R s b → M m b' → R (p.merge s t m) (b ∪ b'))
    (run : List (Event ι τ)) (j : ι) :
    R ((Run.exec (step p) { replica := start } run).replica j) (heard run j) := by
  have hrel : Related R M (Run.exec (step p) { replica := start } run) (hearing run) := by
    induction run using List.reverseRecOn with
    | nil => exact ⟨hstart, .nil⟩
    | append_singleton run e ih =>
      rw [hearing, Run.exec_concat, Run.exec_concat]
      exact ih.step hsnap hmerge e
  exact hrel.replica j

/-! ### Who has heard of whom -/

theorem hearing_append (l m : List (Event ι τ)) :
    hearing (l ++ m) = Run.exec (step (hearsay ι τ)) (hearing l) m := Run.exec_append _ l m

theorem hearing_concat (l : List (Event ι τ)) (e : Event ι τ) :
    hearing (l ++ [e]) = step (hearsay ι τ) (hearing l) e := Run.exec_concat _ l e

/-- One more event, and no less is heard. -/
theorem heard_subset_step (h : Net ι (Finset ι) (Finset ι)) (e : Event ι τ) (j : ι) :
    h.replica j ⊆ (step (hearsay ι τ) h e).replica j := by
  cases e with
  | push i t => exact Finset.Subset.refl _
  | deliver i n t =>
    rw [step]
    cases h.sent[n]?.join with
    | none => exact Finset.Subset.refl _
    | some b =>
      show h.replica j ⊆ Function.update h.replica i (h.replica i ∪ b) j
      by_cases hij : j = i
      · rw [hij, Function.update_self]
        exact Finset.subset_union_left
      · rw [Function.update_of_ne hij]

theorem heard_subset_append (l m : List (Event ι τ)) (j : ι) : heard l j ⊆ heard (l ++ m) j := by
  induction m using List.reverseRecOn with
  | nil => rw [List.append_nil]
  | append_singleton m e ih =>
    rw [← List.append_assoc, heard, heard, hearing_concat]
    exact ih.trans (heard_subset_step _ e j)

theorem self_mem_heard (run : List (Event ι τ)) (j : ι) : j ∈ heard run j :=
  heard_subset_append [] run j (Finset.mem_singleton_self j)

theorem sent_step (h : Net ι (Finset ι) (Finset ι)) (e : Event ι τ) :
    h.sent <+: (step (hearsay ι τ) h e).sent := by
  cases e with
  | push i t => exact List.prefix_append _ _
  | deliver i n t =>
    rw [step]
    cases h.sent[n]?.join with
    | none => exact List.prefix_rfl
    | some b => exact List.prefix_rfl

theorem sent_hearing_prefix (l m : List (Event ι τ)) :
    (hearing l).sent <+: (hearing (l ++ m)).sent := by
  induction m using List.reverseRecOn with
  | nil => rw [List.append_nil]
  | append_singleton m e ih =>
    rw [← List.append_assoc, hearing_concat]
    exact ih.trans (sent_step _ e)

theorem length_sent (l : List (Event ι τ)) :
    (hearing l).sent.length = l.countP Event.IsPush := by
  induction l using List.reverseRecOn with
  | nil => rfl
  | append_singleton l e ih =>
    rw [hearing_concat, List.countP_append, ← ih]
    cases e with
    | push i t => exact List.length_append
    | deliver i n t =>
      rw [step]
      cases (hearing l).sent[n]?.join with
      | none => rfl
      | some b => rfl

/-- A snapshot of `i` was pushed and later delivered to `j`. -/
def Exchanged (run : List (Event ι τ)) (i j : ι) : Prop :=
  ∃ l t m t' r, run = l ++ .push i t :: m ++ .deliver j (l.countP Event.IsPush) t' :: r

/-- Whoever gets a snapshot has heard of all the sender had heard of. -/
theorem heard_of_delivered (l m r : List (Event ι τ)) (i j : ι) (t t' : τ) :
    heard l i ⊆ heard (l ++ .push i t :: m ++ .deliver j (l.countP Event.IsPush) t' :: r) j := by
  have hsent : (hearing (l ++ .push i t :: m)).sent[l.countP Event.IsPush]?.join =
      some (heard l i) := by
    have hpush : (hearing (l ++ [.push i t])).sent[l.countP Event.IsPush]? =
        some (some (heard l i)) := by
      rw [hearing_concat, ← length_sent]
      exact List.getElem?_concat_length
    obtain ⟨more, hmore⟩ := sent_hearing_prefix (l ++ [Event.push i t]) m
    obtain ⟨hlt, -⟩ := List.getElem?_eq_some_iff.mp hpush
    rw [List.append_cons, ← hmore, List.getElem?_append_left hlt, hpush]
    rfl
  have hdeliver : heard l i ⊆
      heard (l ++ .push i t :: m ++ [.deliver j (l.countP Event.IsPush) t']) j := by
    rw [heard, heard, hearing_concat, step_deliver hsent]
    show _ ⊆ Function.update (hearing _).replica j (_ ∪ heard l i) j
    rw [Function.update_self]
    exact Finset.subset_union_right
  rw [List.append_cons _ (Event.deliver _ _ _)]
  exact hdeliver.trans (heard_subset_append _ r j)

/-- **A full exchange.**  Once a snapshot of each has come to each other, in whatever order and
among whatever else is sent, every replica has heard of all. -/
theorem heard_eq_univ [Fintype ι] {run : List (Event ι τ)}
    (h : ∀ i j, i ≠ j → Exchanged run i j) (j : ι) : heard run j = Finset.univ := by
  refine Finset.eq_univ_iff_forall.mpr fun i => ?_
  by_cases hij : i = j
  · rw [hij]
    exact self_mem_heard run j
  · obtain ⟨l, t, m, t', r, rfl⟩ := h i j hij
    exact heard_of_delivered l m r i j t t' (self_mem_heard l i)

end Gossip
