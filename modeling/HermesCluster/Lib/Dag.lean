import Mathlib.Logic.Relation

/-!
# Directed acyclic graphs

A graph is a relation on its nodes, acyclic when no node reaches itself.  The one change made
here replaces the edges out of one node.

* `acyclic_redirect_iff`: that keeps a graph acyclic exactly if no new target reaches the node.
* `Acyclic.mono`: a graph with fewer edges stays acyclic.
-/

namespace Dag

open Relation

variable {α : Type*} {R S : α → α → Prop}

/-- No node reaches itself, by one edge or by more. -/
def Acyclic (R : α → α → Prop) : Prop := ∀ a, ¬ TransGen R a a

/-- The graph with the edges out of `t` replaced by those to `deps`. -/
def Redirect (R : α → α → Prop) (t : α) (deps : α → Prop) (a b : α) : Prop :=
  (a = t ∧ deps b) ∨ (a ≠ t ∧ R a b)

theorem Acyclic.mono (h : Acyclic S) (hsub : ∀ a b, R a b → S a b) : Acyclic R :=
  fun a ha => h a (TransGen.mono hsub a a ha)

theorem acyclic_congr (h : ∀ a b, R a b ↔ S a b) : Acyclic R ↔ Acyclic S :=
  ⟨fun hr => hr.mono fun a b => (h a b).mpr, fun hs => hs.mono fun a b => (h a b).mp⟩

theorem acyclic_of_no_edge (h : ∀ a b, ¬ R a b) : Acyclic R := by
  intro a ha
  obtain ⟨b, hab, -⟩ := TransGen.head'_iff.mp ha
  exact h a b hab

variable {t : α} {deps : α → Prop}

/-- Along a path that reaches `t`, up to its first visit there, nothing has changed. -/
theorem reach_redirect {a : α} (h : ReflTransGen R a t) : ReflTransGen (Redirect R t deps) a t := by
  induction h using ReflTransGen.head_induction_on with
  | refl => exact .refl
  | @head a c hac _ ih =>
    by_cases ha : a = t
    · subst ha
      exact .refl
    · exact .head (.inr ⟨ha, hac⟩) ih

/-- A path to `t` of the new graph is one of the old, or leaves `t` by a new edge whose target
reaches `t` in the old. -/
theorem reach_of_redirect {a : α} (h : ReflTransGen (Redirect R t deps) a t) :
    ReflTransGen R a t ∨ ∃ d, deps d ∧ ReflTransGen R d t := by
  induction h using ReflTransGen.head_induction_on with
  | refl => exact .inl .refl
  | @head a c hac _ ih =>
    rcases ih with hc | hd
    · rcases hac with ⟨-, hdep⟩ | ⟨-, hold⟩
      · exact .inr ⟨c, hdep, hc⟩
      · exact .inl (.head hold hc)
    · exact .inr hd

/-- A path of the new graph is one of the old, or visits `t` and goes on. -/
theorem path_of_redirect {a b : α} (h : TransGen (Redirect R t deps) a b) :
    TransGen R a b ∨
      ReflTransGen (Redirect R t deps) a t ∧ TransGen (Redirect R t deps) t b := by
  induction h with
  | @single b hab =>
    rcases hab with ⟨rfl, hdep⟩ | ⟨-, hold⟩
    · exact .inr ⟨.refl, .single (.inl ⟨rfl, hdep⟩)⟩
    · exact .inl (.single hold)
  | @tail b c hab hbc ih =>
    rcases ih with hold | ⟨hat, htb⟩
    · rcases hbc with ⟨rfl, hdep⟩ | ⟨-, hold'⟩
      · exact .inr ⟨hab.to_reflTransGen, .single (.inl ⟨rfl, hdep⟩)⟩
      · exact .inl (hold.tail hold')
    · exact .inr ⟨hat, htb.tail hbc⟩

/-- **Replacing the edges out of one node** keeps an acyclic graph acyclic exactly if no new
target reaches the node. -/
theorem acyclic_redirect_iff (h : Acyclic R) :
    Acyclic (Redirect R t deps) ↔ ∀ d, deps d → ¬ ReflTransGen R d t := by
  refine ⟨?_, ?_⟩
  · intro hnew d hd hreach
    exact hnew t (.head' (.inl ⟨rfl, hd⟩) (reach_redirect hreach))
  · intro hdeps a ha
    -- a cycle of the new graph visits `t`, as the old one has none
    have hcycle : TransGen (Redirect R t deps) t t := by
      rcases path_of_redirect ha with hold | ⟨hat, hta⟩
      · exact absurd hold (h a)
      · exact hta.trans_left hat
    obtain ⟨d, hedge, hdt⟩ := TransGen.head'_iff.mp hcycle
    rcases hedge with ⟨-, hd⟩ | ⟨hne, -⟩
    · rcases reach_of_redirect hdt with hreach | ⟨d', hd', hreach⟩
      · exact hdeps d hd hreach
      · exact hdeps d' hd' hreach
    · exact hne rfl

end Dag
