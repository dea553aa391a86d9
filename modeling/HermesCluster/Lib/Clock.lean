import Mathlib.Order.Lattice
import Mathlib.Tactic.TypeStar

/-!
# Strict clocks

Records that carry a version in a linear order.  The version is a strict clock for an
update if it never goes back, and goes forward whenever the content of a record changes.
A table is read as a function from keys to records; only records there before and after
are compared.

* `ticks_iff`: at one record, equal versions mean equal contents.
* `strictClock_map_iff`, `strictClock_at_iff`: for a step that updates every record, or the
  record at one key, the clock is strict exactly when it ticks at the records updated.
-/

universe u v w

/-- Records with a version and a content that the version counts the changes of. -/
class Versioned (ρ : Type u) (V : outParam (Type v)) (γ : outParam (Type w)) where
  /-- The version of a record. -/
  version : ρ → V
  /-- What the version is a clock for. -/
  content : ρ → γ

namespace Versioned

variable {ρ : Type u} {V : Type v} {γ : Type w} [Versioned ρ V γ] [LinearOrder V]

/-- From `a` to `b` the version does not go back, and a change of the content makes it
go forward. -/
def Ticks (a b : ρ) : Prop :=
  version a ≤ version b ∧ (content a ≠ content b → version a < version b)

theorem ticks_refl (a : ρ) : Ticks a a := ⟨le_refl _, fun h => absurd rfl h⟩

theorem ticks_of_lt {a b : ρ} (h : version a < version b) : Ticks a b := ⟨h.le, fun _ => h⟩

theorem ticks_iff {a b : ρ} : Ticks a b ↔
    version a ≤ version b ∧ (version a = version b → content a = content b) := by
  refine and_congr_right fun hle => ?_
  refine ⟨?_, ?_⟩
  · intro h hv
    by_contra hc
    exact (h hc).ne hv
  · intro h hc
    exact hle.lt_of_ne fun hv => hc (h hv)

/-! ### Tables -/

variable {κ : Type*} {before after : κ → Option ρ}

/-- The clock ticks at every record that is there before and after. -/
def StrictClock (before after : κ → Option ρ) : Prop :=
  ∀ k a b, before k = some a → after k = some b → Ticks a b

theorem strictClock_refl (before : κ → Option ρ) : StrictClock before before := by
  intro k a b ha hb
  rw [ha] at hb
  rw [Option.some.inj hb]
  exact ticks_refl b

theorem strictClock_map_iff {f : ρ → ρ} (h : ∀ k, after k = (before k).map f) :
    StrictClock before after ↔ ∀ k a, before k = some a → Ticks a (f a) := by
  refine ⟨?_, ?_⟩
  · intro hs k a ha
    exact hs k a (f a) ha (by rw [h, ha]; rfl)
  · intro hs k a b ha hb
    rw [h, ha] at hb
    rw [← Option.some.inj hb]
    exact hs k a ha

variable {t : κ}

/-- A step that touches one key only, and updates the record there, if any, by `f`. -/
theorem strictClock_at_iff {f : ρ → ρ} (hne : ∀ k, k ≠ t → after k = before k)
    (hat : ∀ a, before t = some a → after t = some (f a)) :
    StrictClock before after ↔ ∀ a, before t = some a → Ticks a (f a) := by
  refine ⟨?_, ?_⟩
  · exact fun hs a ha => hs t a (f a) ha (hat a ha)
  · intro hs k a b ha hb
    by_cases hk : k = t
    · rw [hk] at ha hb
      rw [hat a ha] at hb
      rw [← Option.some.inj hb]
      exact hs a ha
    · rw [hne k hk, ha] at hb
      rw [← Option.some.inj hb]
      exact ticks_refl a

theorem strictClock_update_iff [DecidableEq κ] {f : ρ → ρ}
    (h : ∀ k, after k = if k = t then (before k).map f else before k) :
    StrictClock before after ↔ ∀ a, before t = some a → Ticks a (f a) :=
  strictClock_at_iff (fun k hk => by rw [h, if_neg hk])
    (fun a ha => by rw [h, if_pos rfl, ha]; rfl)

/-- A write of `b` at a key without a record. -/
theorem strictClock_write_iff [DecidableEq κ] {f : ρ → ρ} {b : ρ}
    (h : ∀ k, after k = if k = t then some ((before k).elim b f) else before k) :
    StrictClock before after ↔ ∀ a, before t = some a → Ticks a (f a) :=
  strictClock_at_iff (fun k hk => by rw [h, if_neg hk])
    (fun a ha => by rw [h, if_pos rfl, ha]; rfl)

end Versioned
