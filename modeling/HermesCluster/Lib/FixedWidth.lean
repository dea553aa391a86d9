import Mathlib.Algebra.Group.Nat.Defs
import Mathlib.Data.Char
import Mathlib.Data.List.Lex
import Mathlib.Order.Lattice
import Mathlib.Order.MinMax

/-!
# Numbers of a fixed width

Decimal numbers with leading zeros, and the lexicographic order of the texts made of them.

* `append_lt_append_iff`: texts with fronts of the same length are compared at the fronts first.
* `pad_lt_pad_iff`: numbers of the same width stand in the order of their values.
* `field_lt_field_iff`: a number, a separator and the rest.
-/

namespace FixedWidth

theorem append_lt_append_iff {α : Type*} [LinearOrder α] {l₁ l₂ : List α} (r₁ r₂ : List α)
    (h : l₁.length = l₂.length) : l₁ ++ r₁ < l₂ ++ r₂ ↔ l₁ < l₂ ∨ l₁ = l₂ ∧ r₁ < r₂ := by
  induction l₁ generalizing l₂ with
  | nil =>
    obtain rfl := List.length_eq_zero_iff.mp h.symm
    simp
  | cons a l₁ ih =>
    cases l₂ with
    | nil => simp at h
    | cons b l₂ =>
      have hlength : l₁.length = l₂.length := by simpa using h
      rw [List.cons_append, List.cons_append, List.cons_lt_cons_iff, List.cons_lt_cons_iff,
        ih hlength, List.cons.injEq]
      constructor
      · rintro (hab | ⟨hab, hl | ⟨hl, hr⟩⟩)
        · exact .inl (.inl hab)
        · exact .inl (.inr ⟨hab, hl⟩)
        · exact .inr ⟨⟨hab, hl⟩, hr⟩
      · rintro ((hab | ⟨hab, hl⟩) | ⟨⟨hab, hl⟩, hr⟩)
        · exact .inl hab
        · exact .inr ⟨hab, .inl hl⟩
        · exact .inr ⟨hab, .inr ⟨hl, hr⟩⟩

/-- The last `w` digits of `n`, with leading zeros. -/
def pad : Nat → Nat → List Char
  | 0, _ => []
  | w + 1, n => pad w (n / 10) ++ [Nat.digitChar (n % 10)]

@[simp] theorem length_pad (w n : Nat) : (pad w n).length = w := by
  induction w generalizing n with
  | zero => rfl
  | succ w ih => simp [pad, ih]

theorem digitChar_lt_iff : ∀ a < 10, ∀ b < 10, Nat.digitChar a < Nat.digitChar b ↔ a < b := by
  decide

theorem digitChar_inj : ∀ a < 10, ∀ b < 10, Nat.digitChar a = Nat.digitChar b ↔ a = b := by
  decide

variable {w m n : Nat}

theorem pad_eq_pad_iff (hm : m < 10 ^ w) (hn : n < 10 ^ w) : pad w m = pad w n ↔ m = n := by
  induction w generalizing m n with
  | zero =>
    rw [Nat.pow_zero] at hm hn
    simp [pad]
    omega
  | succ w ih =>
    have hm' : m / 10 < 10 ^ w := by omega
    have hn' : n / 10 < 10 ^ w := by omega
    have hdigit := digitChar_inj (m % 10) (Nat.mod_lt m (by omega)) (n % 10)
      (Nat.mod_lt n (by omega))
    rw [pad, pad, List.append_singleton_inj, ih hm' hn', hdigit]
    omega

theorem pad_lt_pad_iff (hm : m < 10 ^ w) (hn : n < 10 ^ w) : pad w m < pad w n ↔ m < n := by
  induction w generalizing m n with
  | zero =>
    rw [Nat.pow_zero] at hm hn
    simp [pad]
    omega
  | succ w ih =>
    have hm' : m / 10 < 10 ^ w := by omega
    have hn' : n / 10 < 10 ^ w := by omega
    have hdigit := digitChar_lt_iff (m % 10) (Nat.mod_lt m (by omega)) (n % 10)
      (Nat.mod_lt n (by omega))
    have hlast : [Nat.digitChar (m % 10)] < [Nat.digitChar (n % 10)] ↔ m % 10 < n % 10 := by
      rw [List.cons_lt_cons_iff, hdigit]
      simp
    -- first the digits in front, then the last one
    rw [pad, pad, append_lt_append_iff _ _ (by simp), ih hm' hn', pad_eq_pad_iff hm' hn', hlast]
    omega

/-- Two numbers of the same width, each with more behind it. -/
theorem pad_append_lt_iff (r r' : List Char) (hm : m < 10 ^ w) (hn : n < 10 ^ w) :
    pad w m ++ r < pad w n ++ r' ↔ m < n ∨ m = n ∧ r < r' := by
  rw [append_lt_append_iff r r' (by simp), pad_lt_pad_iff hm hn, pad_eq_pad_iff hm hn]

/-- The same with a separator in between. -/
theorem field_lt_field_iff (c : Char) (r r' : List Char) (hm : m < 10 ^ w) (hn : n < 10 ^ w) :
    pad w m ++ c :: r < pad w n ++ c :: r' ↔ m < n ∨ m = n ∧ r < r' := by
  have hrest : c :: r < c :: r' ↔ r < r' := by
    rw [List.cons_lt_cons_iff]
    simp
  rw [pad_append_lt_iff _ _ hm hn, hrest]

end FixedWidth
