import HermesCluster.Lib.Dag
import Mathlib.Data.Finset.Card
import Mathlib.Order.WellFoundedSet

/-!
# Workflows

Items that wait for others, and that are worked on one move at a time.  An item is waiting,
ready, active, done, failed or out; it can be worked on when something is able to.  A step
may move any number of items at once.

* `achievable_iff`: no step changes which items can still be done, for a given set of items
  that will fail.
* `done_iff_achievable`: once nothing is left to do, exactly those are done, in whatever
  order the work was taken.
* `Feasible.done_iff`: in an acyclic workflow that can be worked on these are the items that
  wait for no failed item, directly or through others.
* `card_live_le`, `card_live_lt`: with each item that is done or fails there is one less to do.
-/

universe u

/-- Where the work on an item stands.  An item that is out is not worked on at present. -/
inductive Phase | waiting | ready | active | done | failed | out
deriving DecidableEq, Repr

structure Workflow (α : Type u) where
  items : Finset α
  /-- `needs a d`: the item `a` waits for `d`. -/
  needs : α → α → Prop
  /-- Something is able to work on the item. -/
  able : α → Prop
  phase : α → Phase
  outside : ∀ a, a ∉ items → phase a = .out

namespace Workflow

open Relation

variable {α : Type u} {w w' w₁ w₂ : Workflow α} {F : α → Prop} {a d : α}

/-- The moves of one item in a step from `w` to `w'`. -/
inductive Move (w w' : Workflow α) (a : α) : Prop
  | stay (h : w'.phase a = w.phase a)
  | release (h : w.phase a = .waiting) (h' : w'.phase a = .ready)
      (hdone : ∀ d, w.needs a d → w'.phase d = .done)
  | start (h : w.phase a = .ready) (h' : w'.phase a = .active) (hable : w.able a)
  | requeue (h : w.phase a = .active) (h' : w'.phase a = .ready) (hable : w.able a)
  | finish (h : w.phase a = .active) (h' : w'.phase a = .done)
  | fail (h : w.phase a = .active) (h' : w'.phase a = .failed)
  | block (h : w.phase a = .waiting) (h' : w'.phase a = .out)
      (d : α) (hneeds : w.needs a d) (hfailed : w'.phase d = .failed)
  | unblock (h : w.phase a = .out) (h' : w'.phase a = .waiting)
      (d : α) (hneeds : w.needs a d) (hfailed : w'.phase d = .failed)

/-- A step: the items and what is able to work on them stay, and each item makes a move. -/
structure Advances (w w' : Workflow α) : Prop where
  items : w'.items = w.items
  needs : w'.needs = w.needs
  able : w'.able = w.able
  move : ∀ a, Move w w' a

/-- Any number of steps. -/
abbrev Reaches (w w' : Workflow α) : Prop := ReflTransGen Advances w w'

/-- The items that can still be done when those of `F` fail. -/
inductive Achievable (w : Workflow α) (F : α → Prop) : α → Prop
  | done {a : α} (h : w.phase a = .done) : Achievable w F a
  | active {a : α} (h : w.phase a = .active) (hF : ¬ F a) : Achievable w F a
  | ready {a : α} (h : w.phase a = .ready) (hable : w.able a) (hF : ¬ F a) : Achievable w F a
  | waiting {a : α} (h : w.phase a = .waiting) (hable : w.able a) (hF : ¬ F a)
      (hneeds : ∀ d, w.needs a d → Achievable w F d) : Achievable w F a

/-- Nothing is being worked on, and nothing could be. -/
structure Settled (w : Workflow α) : Prop where
  idle : ∀ a, w.phase a ≠ .active
  started : ∀ a, w.phase a = .ready → ¬ w.able a
  released : ∀ a, w.phase a = .waiting → w.able a → ∃ d, w.needs a d ∧ w.phase d ≠ .done

/-- Neither done nor failed. -/
def Live (w : Workflow α) (a : α) : Prop := w.phase a ≠ .done ∧ w.phase a ≠ .failed

instance (w : Workflow α) : DecidablePred w.Live := fun a => by unfold Live; infer_instance

/-- The items still to be done. -/
def live (w : Workflow α) : Finset α := w.items.filter w.Live

theorem mem_items (h : w.phase a ≠ .out) : a ∈ w.items := by
  by_contra hn
  exact h (w.outside a hn)

/-! ### What a step keeps -/

theorem Advances.done (h : Advances w w') (ha : w.phase a = .done) : w'.phase a = .done := by
  cases h.move a with
  | stay hs => exact hs.trans ha
  | _ hp => exact absurd (ha.symm.trans hp) (by decide)

theorem Advances.failed (h : Advances w w') (ha : w.phase a = .failed) :
    w'.phase a = .failed := by
  cases h.move a with
  | stay hs => exact hs.trans ha
  | _ hp => exact absurd (ha.symm.trans hp) (by decide)

theorem Advances.live (h : Advances w w') (ha : w'.Live a) : w.Live a :=
  ⟨fun hd => ha.1 (h.done hd), fun hf => ha.2 (h.failed hf)⟩

theorem Reaches.items (h : Reaches w w') : w'.items = w.items := by
  induction h with
  | refl => rfl
  | tail _ hs ih => exact hs.items.trans ih

theorem Reaches.needs (h : Reaches w w') : w'.needs = w.needs := by
  induction h with
  | refl => rfl
  | tail _ hs ih => exact hs.needs.trans ih

theorem Reaches.able (h : Reaches w w') : w'.able = w.able := by
  induction h with
  | refl => rfl
  | tail _ hs ih => exact hs.able.trans ih

theorem Reaches.done (h : Reaches w w') (ha : w.phase a = .done) : w'.phase a = .done := by
  induction h with
  | refl => exact ha
  | tail _ hs ih => exact hs.done ih

theorem Reaches.failed (h : Reaches w w') (ha : w.phase a = .failed) :
    w'.phase a = .failed := by
  induction h with
  | refl => exact ha
  | tail _ hs ih => exact hs.failed ih

theorem Reaches.live (h : Reaches w w') (ha : w'.Live a) : w.Live a :=
  ⟨fun hd => ha.1 (h.done hd), fun hf => ha.2 (h.failed hf)⟩

/-! ### What can still be done -/

/-- What is done after a step could be done before it. -/
theorem Advances.achievable_of_done (h : Advances w w') (hF : ∀ a, w'.phase a = .done → ¬ F a)
    (ha : w'.phase a = .done) : w.Achievable F a := by
  cases h.move a with
  | stay hs => exact .done (hs.symm.trans ha)
  | finish hw _ => exact .active hw (hF a ha)
  | _ _ hp => exact absurd (ha.symm.trans hp) (by decide)

theorem not_achievable_of_failed (h : w.phase a = .failed) : ¬ w.Achievable F a := by
  intro ha
  cases ha with
  | _ hp => exact absurd (h.symm.trans hp) (by decide)

/-- A step makes nothing possible that was not. -/
theorem Advances.achievable_before (h : Advances w w') (hF : ∀ a, w'.phase a = .done → ¬ F a)
    (ha : w'.Achievable F a) : w.Achievable F a := by
  induction ha with
  | done hp => exact h.achievable_of_done hF hp
  | @active a hp hn =>
    cases h.move a with
    | stay hs => exact .active (hs.symm.trans hp) hn
    | start hw _ hable => exact .ready hw hable hn
    | _ _ hq => exact absurd (hp.symm.trans hq) (by decide)
  | @ready a hp hable hn =>
    rw [h.able] at hable
    cases h.move a with
    | stay hs => exact .ready (hs.symm.trans hp) hable hn
    | release hw _ hdone =>
      exact .waiting hw hable hn fun d hd => h.achievable_of_done hF (hdone d hd)
    | requeue hw _ _ => exact .active hw hn
    | _ _ hq => exact absurd (hp.symm.trans hq) (by decide)
  | @waiting a hp hable hn hneeds ih =>
    rw [h.able] at hable
    rw [h.needs] at hneeds ih
    cases h.move a with
    | stay hs => exact .waiting (hs.symm.trans hp) hable hn ih
    | unblock _ _ d hd hf => exact absurd (hneeds d hd) (not_achievable_of_failed hf)
    | _ _ hq => exact absurd (hp.symm.trans hq) (by decide)

/-- A step makes nothing impossible that was not, when what fails in it is in `F`. -/
theorem Advances.achievable_after (h : Advances w w') (hF : ∀ a, w'.phase a = .failed → F a)
    (ha : w.Achievable F a) : w'.Achievable F a := by
  induction ha with
  | done hp => exact .done (h.done hp)
  | @active a hp hn =>
    cases h.move a with
    | stay hs => exact .active (hs.trans hp) hn
    | requeue _ hq hable => exact .ready hq (h.able ▸ hable) hn
    | finish _ hq => exact .done hq
    | fail _ hq => exact absurd (hF a hq) hn
    | _ hq => exact absurd (hp.symm.trans hq) (by decide)
  | @ready a hp hable hn =>
    cases h.move a with
    | stay hs => exact .ready (hs.trans hp) (h.able ▸ hable) hn
    | start _ hq _ => exact .active hq hn
    | _ hq => exact absurd (hp.symm.trans hq) (by decide)
  | @waiting a hp hable hn hneeds ih =>
    cases h.move a with
    | stay hs => exact .waiting (hs.trans hp) (h.able ▸ hable) hn (h.needs ▸ ih)
    | release _ hq _ => exact .ready hq (h.able ▸ hable) hn
    | block _ _ d hd hf => exact absurd (ih d hd) (not_achievable_of_failed hf)
    | _ hq => exact absurd (hp.symm.trans hq) (by decide)

/-- **What can still be done** when the items that fail are those of `F` is the same all
along. -/
theorem achievable_iff (h : Reaches w w') (hdone : ∀ a, w'.phase a = .done → ¬ F a)
    (hfailed : ∀ a, w'.phase a = .failed → F a) : w.Achievable F a ↔ w'.Achievable F a := by
  induction h using ReflTransGen.head_induction_on with
  | refl => exact Iff.rfl
  | @head w₀ w₁ hstep hrest ih =>
    have hd : ∀ a, w₁.phase a = .done → ¬ F a := fun a ha => hdone a (Reaches.done hrest ha)
    have hf : ∀ a, w₁.phase a = .failed → F a := fun a ha => hfailed a (Reaches.failed hrest ha)
    rw [← ih]
    exact ⟨hstep.achievable_after hf, hstep.achievable_before hd⟩

theorem Settled.achievable (h : w.Settled) (ha : w.Achievable F a) : w.phase a = .done := by
  induction ha with
  | done hp => exact hp
  | active hp _ => exact absurd hp (h.idle _)
  | ready hp hable _ => exact absurd hable (h.started _ hp)
  | waiting hp hable _ _ ih =>
    obtain ⟨d, hd, hn⟩ := h.released _ hp hable
    exact absurd (ih d hd) hn

/-- **What gets done.**  When nothing is left to do, exactly the items are done that were
achievable at the start with the items that failed. -/
theorem done_iff_achievable (h : Reaches w w') (hs : w'.Settled) :
    w'.phase a = .done ↔ w.Achievable (fun d => w'.phase d = .failed) a := by
  rw [achievable_iff h (fun d hd hf => by rw [hd] at hf; cases hf) (fun d hd => hd)]
  exact ⟨.done, hs.achievable⟩

/-! ### Acyclic workflows -/

/-- Everything can be done: what the items wait for exists, in no circle, each can be worked
on, and none was taken up before all it waits for was done. -/
structure Feasible (w : Workflow α) : Prop where
  acyclic : Dag.Acyclic w.needs
  exist : ∀ a d, w.needs a d → d ∈ w.items
  within : ∀ a ∈ w.items, w.phase a ≠ .out
  able : ∀ a ∈ w.items, w.able a
  gated : ∀ a, w.phase a ≠ .waiting → ∀ d, w.needs a d → w.phase d = .done

theorem Feasible.done_of_needs (h : w.Feasible) (ha : w.phase a = .done)
    (had : ReflTransGen w.needs a d) : w.phase d = .done := by
  induction had with
  | refl => exact ha
  | @tail b c _ hbc ih => exact h.gated b (by rw [ih]; decide) c hbc

/-- What is achievable waits for no failing item, directly or through others. -/
theorem Feasible.no_failure (h : w.Feasible) (hdone : ∀ a, w.phase a = .done → ¬ F a)
    (ha : w.Achievable F a) (had : ReflTransGen w.needs a d) : ¬ F d := by
  have hstarted : ∀ a, w.phase a ≠ .waiting → ¬ F a → ReflTransGen w.needs a d → ¬ F d := by
    intro a hp hn had
    rcases had.cases_head with rfl | ⟨b, hab, hbd⟩
    · exact hn
    · exact hdone d (h.done_of_needs (h.gated a hp b hab) hbd)
  induction ha with
  | done hp => exact hdone d (h.done_of_needs hp had)
  | active hp hn => exact hstarted _ (by rw [hp]; decide) hn had
  | ready hp _ hn => exact hstarted _ (by rw [hp]; decide) hn had
  | waiting hp _ hn _ ih =>
    rcases had.cases_head with rfl | ⟨b, hab, hbd⟩
    · exact hn
    · exact ih b hab hbd

/-- What waits for no failing item is achievable, by induction along the needs. -/
theorem Feasible.achievable (h : w.Feasible) (hfailed : ∀ a, w.phase a = .failed → F a)
    (ha : a ∈ w.items) (hF : ∀ d, ReflTransGen w.needs a d → ¬ F d) : w.Achievable F a := by
  have hstrict : IsStrictOrder α (fun d a => TransGen w.needs a d) :=
    { irrefl := h.acyclic, trans := fun _ _ _ hd ha => ha.trans hd }
  have hwf : (w.items : Set α).WellFoundedOn (fun d a => TransGen w.needs a d) :=
    w.items.finite_toSet.wellFoundedOn
  refine hwf.induction (P := fun a => (∀ d, ReflTransGen w.needs a d → ¬ F d) → w.Achievable F a)
    (Finset.mem_coe.mpr ha) ?_ hF
  intro a ha ih hF
  have hn : ¬ F a := hF a .refl
  cases hp : w.phase a with
  | waiting =>
    refine .waiting hp (h.able a ha) hn fun d hd => ?_
    exact ih d (h.exist a d hd) (.single hd) fun e he => hF e (.head hd he)
  | ready => exact .ready hp (h.able a ha) hn
  | active => exact .active hp hn
  | done => exact .done hp
  | failed => exact absurd (hfailed a hp) hn
  | out => exact absurd hp (h.within a ha)

/-- **What gets done of a feasible workflow**: when nothing is left to do, exactly the items
that wait for no failed item, directly or through others. -/
theorem Feasible.done_iff (hw : w.Feasible) (h : Reaches w w') (hs : w'.Settled) :
    w'.phase a = .done ↔
      a ∈ w.items ∧ ∀ d, ReflTransGen w.needs a d → w'.phase d ≠ .failed := by
  have hdone : ∀ d, w.phase d = .done → w'.phase d ≠ .failed := fun d hd hf => by
    rw [h.done hd] at hf; cases hf
  rw [done_iff_achievable h hs]
  refine ⟨fun ha => ⟨mem_items ?_, fun d => hw.no_failure hdone ha⟩, fun ha => ?_⟩
  · cases ha with
    | _ hp => rw [hp]; decide
  · exact hw.achievable (fun d => h.failed) ha.1 ha.2

/-! ### Counting -/

theorem live_subset (h : Reaches w w') : w'.live ⊆ w.live := by
  rw [live, live, h.items]
  exact Finset.monotone_filter_right _ fun _ _ => h.live

theorem card_live_le (h : Reaches w w') : w'.live.card ≤ w.live.card :=
  Finset.card_le_card (live_subset h)

theorem card_live_lt (h : Reaches w w') (ha : w.phase a = .active) (hover : ¬ w'.Live a) :
    w'.live.card < w.live.card := by
  have hmem : a ∈ w.live := by
    refine Finset.mem_filter.mpr ⟨mem_items ?_, ?_, ?_⟩ <;> rw [ha] <;> decide
  refine Finset.card_lt_card (Finset.ssubset_iff_subset_ne.mpr ⟨live_subset h, fun heq => ?_⟩)
  rw [← heq] at hmem
  exact hover (Finset.mem_filter.mp hmem).2

end Workflow
