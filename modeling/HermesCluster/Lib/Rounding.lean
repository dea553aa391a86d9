import Mathlib.Algebra.Order.Floor.Ring
import Mathlib.Data.Int.Log
import Mathlib.Data.Rat.Floor
import Mathlib.Tactic.Linarith
import Mathlib.Tactic.Positivity

/-!
# Rounding to the nearest float

The floats of `p` bits are the numbers `m * 2 ^ e` with `|m| ≤ 2 ^ p` and `emin ≤ e`; the exponent
has no upper bound here.  Between `2 ^ k` and `2 ^ (k + 1)` they are the multiples of
`spacing p emin q`, so the nearest one is found by rounding a quotient to an integer.

* `roundEven`: the nearest integer, and of two the even one.
* `round_mono`: rounding keeps the order, also where the spacing changes.
-/

namespace Rounding

/-- The nearest integer; of two that are equally near, the even one. -/
def roundEven (q : ℚ) : ℤ :=
  if Int.fract q < 1 / 2 then ⌊q⌋
  else if 1 / 2 < Int.fract q then ⌊q⌋ + 1
  else if Even ⌊q⌋ then ⌊q⌋ else ⌊q⌋ + 1

/-- The exponent of the floats next to `q`. -/
def exponent (p : ℕ) (emin : ℤ) (q : ℚ) : ℤ := max (Int.log 2 |q| + 1 - p) emin

/-- How far they are apart. -/
def spacing (p : ℕ) (emin : ℤ) (q : ℚ) : ℚ := 2 ^ exponent p emin q

/-- The nearest float. -/
def round (p : ℕ) (emin : ℤ) (q : ℚ) : ℚ :=
  roundEven (q / spacing p emin q) * spacing p emin q

/-- The nearest number of the format binary64, as far as its largest number. -/
def binary64 (q : ℚ) : ℚ := round 53 (-1074) q

variable {p : ℕ} {emin : ℤ} {q r : ℚ} {n : ℤ}

/-! ### To an integer -/

theorem floor_le_roundEven (q : ℚ) : ⌊q⌋ ≤ roundEven q := by
  unfold roundEven
  split_ifs <;> omega

theorem roundEven_le_floor (q : ℚ) : roundEven q ≤ ⌊q⌋ + 1 := by
  unfold roundEven
  split_ifs <;> omega

theorem roundEven_intCast (n : ℤ) : roundEven n = n := by
  have hhalf : (0 : ℚ) < 1 / 2 := by norm_num
  rw [roundEven, Int.fract_intCast, if_pos hhalf, Int.floor_intCast]

theorem roundEven_mono (h : q ≤ r) : roundEven q ≤ roundEven r := by
  rcases (Int.floor_le_floor h).lt_or_eq with hlt | heq
  · calc roundEven q ≤ ⌊q⌋ + 1 := roundEven_le_floor q
      _ ≤ ⌊r⌋ := hlt
      _ ≤ roundEven r := floor_le_roundEven r
  · have hfract : Int.fract q ≤ Int.fract r := by
      rw [Int.fract, Int.fract, heq]
      linarith
    unfold roundEven
    rw [heq]
    split_ifs <;> first | omega | linarith

theorem roundEven_neg (q : ℚ) : roundEven (-q) = -roundEven q := by
  by_cases hq : Int.fract q = 0
  · have hint : q = ⌊q⌋ := by
      rw [Int.fract] at hq
      linarith
    rw [hint, roundEven_intCast, ← Int.cast_neg, roundEven_intCast]
  · have hpos : 0 < Int.fract q := lt_of_le_of_ne (Int.fract_nonneg q) (Ne.symm hq)
    have hfloor : ⌊-q⌋ = -⌊q⌋ - 1 := by
      rw [Int.floor_eq_iff]
      have hlt := Int.fract_lt_one q
      rw [Int.fract] at hpos hlt
      push_cast
      constructor <;> linarith
    have hfract : Int.fract (-q) = 1 - Int.fract q := Int.fract_neg hq
    have heven : Even (-⌊q⌋ - 1) ↔ ¬ Even ⌊q⌋ := by
      rw [Int.even_sub_one, even_neg]
    unfold roundEven
    rw [hfloor, hfract]
    simp only [heven]
    split_ifs <;> first | omega | linarith

/-! ### To a float -/

theorem spacing_pos (p : ℕ) (emin : ℤ) (q : ℚ) : 0 < spacing p emin q :=
  zpow_pos (by norm_num) _

theorem round_neg (q : ℚ) : round p emin (-q) = -round p emin q := by
  have hspacing : spacing p emin (-q) = spacing p emin q := by
    rw [spacing, spacing, exponent, exponent, abs_neg]
  rw [round, round, hspacing, neg_div, roundEven_neg, Int.cast_neg, neg_mul]

/-- A multiple of the spacing is not passed. -/
theorem round_le (h : q ≤ n * spacing p emin q) : round p emin q ≤ n * spacing p emin q := by
  have hpos := spacing_pos p emin q
  refine mul_le_mul_of_nonneg_right ?_ hpos.le
  rw [Int.cast_le, ← roundEven_intCast n]
  exact roundEven_mono ((div_le_iff₀ hpos).mpr h)

theorem le_round (h : n * spacing p emin q ≤ q) : n * spacing p emin q ≤ round p emin q := by
  have hpos := spacing_pos p emin q
  refine mul_le_mul_of_nonneg_right ?_ hpos.le
  rw [Int.cast_le, ← roundEven_intCast n]
  exact roundEven_mono ((le_div_iff₀ hpos).mpr h)

theorem round_nonneg (h : 0 ≤ q) : 0 ≤ round p emin q := by
  have hzero : ((0 : ℤ) : ℚ) * spacing p emin q ≤ q := by
    rw [Int.cast_zero, zero_mul]
    exact h
  have hround := le_round hzero
  rwa [Int.cast_zero, zero_mul] at hround

theorem exponent_mono (hq : 0 < q) (h : q ≤ r) : exponent p emin q ≤ exponent p emin r := by
  have hlog : Int.log 2 |q| ≤ Int.log 2 |r| := by
    rw [abs_of_pos hq, abs_of_pos (hq.trans_le h)]
    exact Int.log_mono_right hq h
  unfold exponent
  omega

theorem pow_mul_spacing (k : ℕ) (q : ℚ) :
    ((2 ^ k : ℤ) : ℚ) * spacing p emin q = 2 ^ (k + exponent p emin q) := by
  have htwo : (2 : ℚ) ≠ 0 := by norm_num
  rw [spacing, zpow_add₀ htwo, zpow_natCast]
  push_cast
  rfl

/-- Where the exponent goes up there is a power of two in between, and it is a float on both
sides. -/
theorem round_le_of_exponent_lt (hp : 0 < p) (hq : 0 < q) (hr : 0 < r)
    (h : exponent p emin q < exponent p emin r) : round p emin q ≤ round p emin r := by
  have htwo : (1 : ℚ) ≤ 2 := by norm_num
  have htop : q ≤ ((2 ^ p : ℤ) : ℚ) * spacing p emin q := by
    have hlog : q < 2 ^ (Int.log 2 q + 1) := Int.lt_zpow_succ_log_self Nat.one_lt_two q
    rw [pow_mul_spacing]
    refine hlog.le.trans (zpow_le_zpow_right₀ htwo ?_)
    rw [exponent, abs_of_pos hq]
    omega
  have hbottom : ((2 ^ (p - 1) : ℤ) : ℚ) * spacing p emin r ≤ r := by
    have hlog : 2 ^ Int.log 2 r ≤ r := Int.zpow_log_le_self Nat.one_lt_two hr
    rw [pow_mul_spacing]
    refine le_trans (zpow_le_zpow_right₀ htwo ?_) hlog
    have hemin : emin ≤ exponent p emin q := le_max_right _ _
    have hr' : exponent p emin r = max (Int.log 2 r + 1 - p) emin := by
      rw [exponent, abs_of_pos hr]
    omega
  have hmiddle : ((2 ^ p : ℤ) : ℚ) * spacing p emin q ≤
      ((2 ^ (p - 1) : ℤ) : ℚ) * spacing p emin r := by
    rw [pow_mul_spacing, pow_mul_spacing]
    refine zpow_le_zpow_right₀ htwo ?_
    omega
  exact (round_le htop).trans (hmiddle.trans (le_round hbottom))

/-- **Rounding keeps the order.** -/
theorem round_mono (hp : 0 < p) (h : q ≤ r) : round p emin q ≤ round p emin r := by
  have hpos : ∀ {q r : ℚ}, 0 < q → q ≤ r → round p emin q ≤ round p emin r := by
    intro q r hq h
    rcases (exponent_mono hq h).lt_or_eq with hlt | heq
    · exact round_le_of_exponent_lt hp hq (hq.trans_le h) hlt
    · have hspacing : spacing p emin q = spacing p emin r := by rw [spacing, heq, spacing]
      rw [round, round, hspacing]
      have hspos := spacing_pos p emin r
      refine mul_le_mul_of_nonneg_right ?_ hspos.le
      exact Int.cast_le.mpr (roundEven_mono (div_le_div_of_nonneg_right h hspos.le))
  rcases lt_or_ge 0 q with hq | hq
  · exact hpos hq h
  rcases lt_or_ge r 0 with hr | hr
  · have hneg := hpos (neg_pos.mpr hr) (neg_le_neg h)
    rw [round_neg, round_neg] at hneg
    exact neg_le_neg_iff.mp hneg
  · have hleft : 0 ≤ round p emin (-q) := round_nonneg (neg_nonneg.mpr hq)
    rw [round_neg] at hleft
    exact (neg_nonneg.mp hleft).trans (round_nonneg hr)

end Rounding
