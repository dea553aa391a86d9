import Mathlib.Data.List.Nodup
import Mathlib.Data.List.Count
import Mathlib.Data.List.Lattice
import Mathlib.Data.List.Pairwise

/-!
# A search of bounded depth

`traverse next` walks a graph depth first, at most `fuel` edges deep.  It marks each node it
expands and notes every edge out of one, whether or not the far end was met before, so the
notes of a run may name a node twice.

* `Steps`: a path of the graph by its length.
* `Grown`: what a run adds to the notes and the marks, one entry for each expanded node.
* `chain_exact_iff`: the notes list every node within reach just once exactly if no two of the
  nodes nearer than the bound have an edge to the same node.

A node first expanded near the bound hides what lies behind it from a later, shorter path.  It
has two edges into it then, so its own name is noted twice.
-/

namespace Traverse

variable {α : Type*}

/-! ### Paths -/

/-- A path of so many edges. -/
inductive Steps (R : α → α → Prop) : Nat → α → α → Prop
  | refl (a : α) : Steps R 0 a a
  | cons {k : Nat} {a b c : α} (hab : R a b) (hbc : Steps R k b c) : Steps R (k + 1) a c

namespace Steps

variable {R : α → α → Prop} {k : Nat} {a b c : α}

theorem snoc (hab : Steps R k a b) (hbc : R b c) : Steps R (k + 1) a c := by
  induction hab with
  | refl a => exact .cons hbc (.refl c)
  | cons hab' _ ih => exact .cons hab' (ih hbc)

theorem eq_of_zero (h : Steps R 0 a b) : a = b := by
  cases h
  rfl

/-- The last edge of a path. -/
theorem last (h : Steps R (k + 1) a c) : ∃ b, Steps R k a b ∧ R b c := by
  induction k generalizing a with
  | zero =>
    cases h with
    | cons hab hbc => exact ⟨a, .refl a, hbc.eq_of_zero ▸ hab⟩
  | succ k ih =>
    cases h with
    | cons hab hbc =>
      obtain ⟨d, hd, hdc⟩ := ih hbc
      exact ⟨d, .cons hab hd, hdc⟩

end Steps

/-! ### The search -/

/-- The notes of a search and its marks, each in the order it was made. -/
structure Trail (α : Type*) where
  chain : List α := []
  visited : List α := []

/-- Expand the node unless it is marked or no fuel is left. -/
def traverse [DecidableEq α] (next : α → List α) : Nat → α → Trail α → Trail α
  | 0, _, t => t
  | fuel + 1, a, t =>
    if a ∈ t.visited then t
    else (next a).foldl (fun t b => traverse next fuel b { t with chain := t.chain ++ [b] })
      { t with visited := t.visited ++ [a] }

/-- What is searched from a node, once its name is noted. -/
def explore [DecidableEq α] (next : α → List α) (fuel : Nat) (t : Trail α) (b : α) : Trail α :=
  traverse next fuel b { t with chain := t.chain ++ [b] }

variable {next : α → List α} {fuel : Nat} {a : α} {t t' u : Trail α}

theorem traverse_marked [DecidableEq α] (h : a ∈ t.visited) :
    traverse next (fuel + 1) a t = t := if_pos h

theorem traverse_fresh [DecidableEq α] (h : a ∉ t.visited) : traverse next (fuel + 1) a t =
    (next a).foldl (explore next fuel) { t with visited := t.visited ++ [a] } := if_neg h

/-! ### What a run adds -/

/-- From `t` to `t'` the nodes of `new` were expanded, each with the fuel left for it: the
search started at `starts` with `fuel`, and noted `noted` besides the edges out of `new`. -/
structure Grown (next : α → List α) (fuel : Nat) (starts noted : List α) (t t' : Trail α)
    (new : List (α × Nat)) : Prop where
  marks : t'.visited = t.visited ++ new.map Prod.fst
  notes : ∃ l, t'.chain = t.chain ++ l ∧ l.Perm (noted ++ new.flatMap fun p => next p.1)
  nodup : t.visited.Nodup → t'.visited.Nodup
  depth : ∀ p ∈ new, 1 ≤ p.2 ∧
    ∃ s ∈ starts, ∃ k, Steps (fun a b => b ∈ next a) k s p.1 ∧ k + p.2 = fuel
  origin : ∀ p ∈ new, (p.1 ∈ starts ∧ p.2 = fuel) ∨ ∃ q ∈ new, q.2 = p.2 + 1 ∧ p.1 ∈ next q.1
  closed : ∀ p ∈ new, ∀ b ∈ next p.1, p.2 = 1 ∨ b ∈ t'.visited
  start : ∀ s ∈ starts, fuel = 0 ∨ s ∈ t'.visited

namespace Grown

variable {starts starts' noted noted' : List α} {new new' : List (α × Nat)}

theorem visited_subset (h : Grown next fuel starts noted t t' new) {b : α}
    (hb : b ∈ t.visited) : b ∈ t'.visited := by
  rw [h.marks]
  exact List.mem_append_left _ hb

theorem nothing (hstart : ∀ s ∈ starts, fuel = 0 ∨ s ∈ t.visited) :
    Grown next fuel starts [] t t [] where
  marks := (List.append_nil _).symm
  notes := ⟨[], (List.append_nil _).symm, .refl _⟩
  nodup := id
  depth := fun _ hp => absurd hp List.not_mem_nil
  origin := fun _ hp => absurd hp List.not_mem_nil
  closed := fun _ hp => absurd hp List.not_mem_nil
  start := hstart

/-- A note made before the run counts among its notes. -/
theorem note (b : α) (h : Grown next fuel starts noted { t with chain := t.chain ++ [b] } t' new) :
    Grown next fuel starts (b :: noted) t t' new where
  marks := h.marks
  notes := by
    obtain ⟨l, hl, hperm⟩ := h.notes
    exact ⟨b :: l, by rw [hl, List.append_assoc, List.singleton_append], hperm.cons b⟩
  nodup := h.nodup
  depth := h.depth
  origin := h.origin
  closed := h.closed
  start := h.start

theorem append [DecidableEq α] (h : Grown next fuel starts noted t u new)
    (h' : Grown next fuel starts' noted' u t' new') :
    Grown next fuel (starts ++ starts') (noted ++ noted') t t' (new ++ new') where
  marks := by rw [h'.marks, h.marks, List.map_append, List.append_assoc]
  notes := by
    obtain ⟨l, hl, hperm⟩ := h.notes
    obtain ⟨l', hl', hperm'⟩ := h'.notes
    refine ⟨l ++ l', by rw [hl', hl, List.append_assoc], ?_⟩
    refine (hperm.append hperm').trans (List.perm_iff_count.mpr fun b => ?_)
    simp only [List.flatMap_append, List.count_append]
    omega
  nodup := fun hnd => h'.nodup (h.nodup hnd)
  depth := by
    intro p hp
    rcases List.mem_append.mp hp with hp | hp
    · obtain ⟨hone, s, hs, hk⟩ := h.depth p hp
      exact ⟨hone, s, List.mem_append_left _ hs, hk⟩
    · obtain ⟨hone, s, hs, hk⟩ := h'.depth p hp
      exact ⟨hone, s, List.mem_append_right _ hs, hk⟩
  origin := by
    intro p hp
    rcases List.mem_append.mp hp with hp | hp
    · rcases h.origin p hp with ⟨hs, hf⟩ | ⟨q, hq, hpq⟩
      · exact .inl ⟨List.mem_append_left _ hs, hf⟩
      · exact .inr ⟨q, List.mem_append_left _ hq, hpq⟩
    · rcases h'.origin p hp with ⟨hs, hf⟩ | ⟨q, hq, hpq⟩
      · exact .inl ⟨List.mem_append_right _ hs, hf⟩
      · exact .inr ⟨q, List.mem_append_right _ hq, hpq⟩
  closed := by
    intro p hp b hb
    rcases List.mem_append.mp hp with hp | hp
    · exact (h.closed p hp b hb).imp_right h'.visited_subset
    · exact h'.closed p hp b hb
  start := by
    intro s hs
    rcases List.mem_append.mp hs with hs | hs
    · exact (h.start s hs).imp_right h'.visited_subset
    · exact h'.start s hs

/-- An unmarked node is expanded, then everything one edge away is searched. -/
theorem expand (hfresh : a ∉ t.visited)
    (h : Grown next fuel (next a) (next a) { t with visited := t.visited ++ [a] } t' new) :
    Grown next (fuel + 1) [a] [] t t' ((a, fuel + 1) :: new) where
  marks := by rw [h.marks, List.map_cons, List.append_assoc, List.singleton_append]
  notes := h.notes
  nodup := by
    intro hnd
    refine h.nodup (List.nodup_append'.mpr ⟨hnd, List.nodup_singleton a, ?_⟩)
    exact List.disjoint_singleton.mpr hfresh
  depth := by
    intro p hp
    rcases List.mem_cons.mp hp with rfl | hp
    · exact ⟨Nat.succ_pos fuel, a, List.mem_singleton_self a, 0, .refl a, Nat.zero_add _⟩
    · obtain ⟨hone, s, hs, k, hk, hsum⟩ := h.depth p hp
      exact ⟨hone, a, List.mem_singleton_self a, k + 1, .cons hs hk, by omega⟩
  origin := by
    intro p hp
    rcases List.mem_cons.mp hp with rfl | hp
    · exact .inl ⟨List.mem_singleton_self a, rfl⟩
    · rcases h.origin p hp with ⟨hs, hf⟩ | ⟨q, hq, hpq⟩
      · exact .inr ⟨(a, fuel + 1), List.mem_cons_self, by rw [hf], hs⟩
      · exact .inr ⟨q, List.mem_cons_of_mem _ hq, hpq⟩
  closed := by
    intro p hp b hb
    rcases List.mem_cons.mp hp with rfl | hp
    · exact (h.start b hb).imp_left fun h0 => by rw [h0]
    · exact h.closed p hp b hb
  start := by
    intro s hs
    rw [List.mem_singleton.mp hs]
    exact .inr (h.visited_subset (List.mem_append_right _ (List.mem_singleton_self a)))

/-- If each run over one node grows its trail, so does the run over a list of nodes. -/
theorem foldl [DecidableEq α]
    (hone : ∀ b t, ∃ new, Grown next fuel [b] [] t (traverse next fuel b t) new)
    (l : List α) (t : Trail α) :
    ∃ new, Grown next fuel l l t (l.foldl (explore next fuel) t) new := by
  induction l generalizing t with
  | nil => exact ⟨[], nothing fun _ hs => absurd hs List.not_mem_nil⟩
  | cons b l ih =>
    obtain ⟨new, hb⟩ := hone b { t with chain := t.chain ++ [b] }
    obtain ⟨new', hl⟩ := ih (explore next fuel t b)
    exact ⟨new ++ new', (hb.note b).append hl⟩

end Grown

/-- **Every run grows its trail**, by induction on the fuel. -/
theorem grown_traverse [DecidableEq α] (next : α → List α) (fuel : Nat) (a : α) (t : Trail α) :
    ∃ new, Grown next fuel [a] [] t (traverse next fuel a t) new := by
  induction fuel generalizing a t with
  | zero => exact ⟨[], .nothing fun _ _ => .inl rfl⟩
  | succ fuel ih =>
    by_cases h : a ∈ t.visited
    · rw [traverse_marked h]
      refine ⟨[], .nothing fun s hs => .inr ?_⟩
      rwa [List.mem_singleton.mp hs]
    · rw [traverse_fresh h]
      obtain ⟨new, hnew⟩ := Grown.foldl ih (next a) { t with visited := t.visited ++ [a] }
      exact ⟨(a, fuel + 1) :: new, hnew.expand h⟩

/-- A run from an empty trail expands the node it starts at, with all the fuel. -/
theorem grown_traverse_empty [DecidableEq α] (next : α → List α) (fuel : Nat) (a : α) :
    ∃ new, Grown next fuel [a] [] {} (traverse next fuel a {}) new ∧
      (0 < fuel → (a, fuel) ∈ new) := by
  cases fuel with
  | zero =>
    obtain ⟨new, h⟩ := grown_traverse next 0 a {}
    exact ⟨new, h, fun h0 => absurd h0 (Nat.lt_irrefl 0)⟩
  | succ fuel =>
    have hfresh : a ∉ ({} : Trail α).visited := List.not_mem_nil
    rw [traverse_fresh hfresh]
    obtain ⟨new, h⟩ := Grown.foldl (grown_traverse next fuel) (next a) { visited := [] ++ [a] }
    exact ⟨(a, fuel + 1) :: new, h.expand hfresh, fun _ => List.mem_cons_self⟩

/-! ### A run from an empty trail -/

/-- A path of fewer edges than the bound. -/
def Near (next : α → List α) (bound : Nat) (r p : α) : Prop :=
  ∃ k < bound, Steps (fun a b => b ∈ next a) k r p

/-- A path of between one edge and the bound. -/
def Within (next : α → List α) (bound : Nat) (r c : α) : Prop :=
  ∃ k, 1 ≤ k ∧ k ≤ bound ∧ Steps (fun a b => b ∈ next a) k r c

/-- No two of the nodes nearer than the bound have an edge to the same node. -/
def SoleParents (next : α → List α) (bound : Nat) (r : α) : Prop :=
  ∀ p q c, Near next bound r p → Near next bound r q → c ∈ next p → c ∈ next q → p = q

theorem within_iff {bound : Nat} {r c : α} :
    Within next bound r c ↔ ∃ p, Near next bound r p ∧ c ∈ next p := by
  refine ⟨?_, ?_⟩
  · rintro ⟨k, hone, hk, hc⟩
    obtain ⟨k, rfl⟩ := Nat.exists_eq_add_of_le' hone
    obtain ⟨p, hp, hpc⟩ := hc.last
    exact ⟨p, ⟨k, hk, hp⟩, hpc⟩
  · rintro ⟨p, ⟨k, hk, hp⟩, hpc⟩
    exact ⟨k + 1, Nat.succ_pos k, hk, hp.snoc hpc⟩

/-- What `Grown` says of a run that starts with no notes and no marks. -/
structure Search (next : α → List α) (bound : Nat) (r : α) (chain : List α)
    (new : List (α × Nat)) : Prop where
  notes : chain.Perm (new.flatMap fun p => next p.1)
  nodup : (new.map Prod.fst).Nodup
  near : ∀ p ∈ new, Near next bound r p.1
  origin : ∀ p ∈ new, p.2 = bound ∨ ∃ q ∈ new, q.2 = p.2 + 1 ∧ p.1 ∈ next q.1
  closed : ∀ p ∈ new, ∀ b ∈ next p.1, p.2 = 1 ∨ ∃ q ∈ new, q.1 = b
  root : 0 < bound → (r, bound) ∈ new

theorem exists_search [DecidableEq α] (next : α → List α) (bound : Nat) (r : α) :
    ∃ new, Search next bound r (traverse next bound r {}).chain new := by
  obtain ⟨new, h, hroot⟩ := grown_traverse_empty next bound r
  have hmarks : (traverse next bound r {}).visited = new.map Prod.fst := h.marks
  obtain ⟨l, hl, hperm⟩ := h.notes
  refine ⟨new, ?_, ?_, ?_, ?_, ?_, hroot⟩
  · rw [hl]
    exact hperm
  · rw [← hmarks]
    exact h.nodup List.nodup_nil
  · intro p hp
    obtain ⟨hone, s, hs, k, hk, hsum⟩ := h.depth p hp
    rw [List.mem_singleton.mp hs] at hk
    exact ⟨k, by omega, hk⟩
  · exact fun p hp => (h.origin p hp).imp_left And.right
  · intro p hp b hb
    refine (h.closed p hp b hb).imp_right fun hmem => ?_
    rw [hmarks] at hmem
    exact List.mem_map.mp hmem

namespace Search

variable {bound : Nat} {r : α} {chain : List α} {new : List (α × Nat)}

/-- Expanded nodes with an edge to the same node are one. -/
def Apart (next : α → List α) (new : List (α × Nat)) : Prop :=
  ∀ p ∈ new, ∀ q ∈ new, ∀ c, c ∈ next p.1 → c ∈ next q.1 → p = q

/-- The notes name no node twice exactly if the expanded nodes are apart. -/
theorem nodup_chain_iff (h : Search next bound r chain new) (hnext : ∀ a, (next a).Nodup) :
    chain.Nodup ↔ Apart next new := by
  have hnew : new.Nodup := h.nodup.of_map
  have hall : ∀ p ∈ new, (next p.1).Nodup := fun p _ => hnext p.1
  rw [h.notes.nodup_iff, List.nodup_flatMap, and_iff_right hall]
  refine ⟨?_, ?_⟩
  · intro hpair p hp q hq c hcp hcq
    have hsymm : Std.Symm (Function.onFun List.Disjoint fun p : α × Nat => next p.1) :=
      ⟨fun _ _ hd => List.Disjoint.symm hd⟩
    by_contra hne
    exact hpair.forall hp hq hne hcp hcq
  · intro hapart
    refine hnew.imp_of_mem fun hp hq hne c hcp hcq => hne ?_
    exact hapart _ hp _ hq c hcp hcq

/-- **If the expanded nodes are apart, every near node is expanded**, with all the fuel its
shortest path leaves: the one edge into it is the edge that path ends with. -/
theorem expanded (h : Search next bound r chain new) (hapart : Apart next new) {k : Nat} {x : α}
    (hk : k < bound) (hx : Steps (fun a b => b ∈ next a) k r x) :
    ∃ p ∈ new, p.1 = x ∧ bound ≤ p.2 + k := by
  induction k generalizing x with
  | zero => exact ⟨(r, bound), h.root hk, hx.eq_of_zero, Nat.le_refl _⟩
  | succ k ih =>
    obtain ⟨y, hy, hyx⟩ := hx.last
    obtain ⟨q, hq, rfl, hfuel⟩ := ih (by omega) hy
    rcases h.closed q hq x hyx with hone | ⟨p, hp, rfl⟩
    · omega
    · refine ⟨p, hp, rfl, ?_⟩
      rcases h.origin p hp with hroot | ⟨q', hq', hq2, hq'x⟩
      · omega
      · rw [hapart q hq q' hq' p.1 hyx hq'x] at hfuel
        omega

theorem apart_iff (h : Search next bound r chain new) :
    Apart next new ↔ SoleParents next bound r := by
  refine ⟨?_, ?_⟩
  · rintro hapart p q c ⟨k, hk, hp⟩ ⟨k', hk', hq⟩ hcp hcq
    obtain ⟨p, hpnew, rfl, -⟩ := h.expanded hapart hk hp
    obtain ⟨q, hqnew, rfl, -⟩ := h.expanded hapart hk' hq
    rw [hapart p hpnew q hqnew c hcp hcq]
  · intro hsole p hp q hq c hcp hcq
    refine List.inj_on_of_nodup_map h.nodup hp hq ?_
    exact hsole p.1 q.1 c (h.near p hp) (h.near q hq) hcp hcq

theorem mem_chain_iff (h : Search next bound r chain new) (hapart : Apart next new) {c : α} :
    c ∈ chain ↔ Within next bound r c := by
  rw [h.notes.mem_iff, List.mem_flatMap, within_iff]
  refine ⟨?_, ?_⟩
  · rintro ⟨p, hp, hc⟩
    exact ⟨p.1, h.near p hp, hc⟩
  · rintro ⟨p, ⟨k, hk, hp⟩, hc⟩
    obtain ⟨p, hpnew, rfl, -⟩ := h.expanded hapart hk hp
    exact ⟨p, hpnew, hc⟩

end Search

/-- **The notes are exact**, each node within reach and no other, none of them twice, just when
no two near nodes have an edge to the same node. -/
theorem chain_exact_iff [DecidableEq α] (hnext : ∀ a, (next a).Nodup) (bound : Nat) (r : α) :
    ((traverse next bound r {}).chain.Nodup ∧
        ∀ c, c ∈ (traverse next bound r {}).chain ↔ Within next bound r c) ↔
      SoleParents next bound r := by
  obtain ⟨new, h⟩ := exists_search next bound r
  rw [← h.apart_iff, h.nodup_chain_iff hnext]
  exact ⟨And.left, fun hapart => ⟨hapart, fun c => h.mem_chain_iff hapart⟩⟩

end Traverse
