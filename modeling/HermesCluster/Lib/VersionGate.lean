import Mathlib.Data.List.Perm.Basic
import Mathlib.Order.Lattice
import Mathlib.Order.MinMax

/-!
# Version gates

A gate has a level and lets a message through when the message's version is above it; the
level then is that version.  `passed ver v l` are the messages of `l` a gate at level `v`
lets through, in order, and `level ver v l` is where the gate ends up.

* `records_cons`: which messages pass can be read off the list, as those that set a record.
* `level_perm`: the level does not depend on the order of the messages.
* `foldl_gated`: a loop that is gated at each message is the loop over those that pass.
* `look_foldl`: what a loop leaves in a register is the last value written to it.
* `getLast?_passed`: the newest message passes last, wherever it stands.
-/

universe u v w

namespace VersionGate

variable {V : Type u} [LinearOrder V] {μ : Type v} {σ : Type w} {ver : μ → V}

/-- The level of the gate after the messages of `l`. -/
def level (ver : μ → V) (v : V) (l : List μ) : V := l.foldl (fun v m => max v (ver m)) v

/-- The messages of `l` that are newer than the level they meet. -/
def passed (ver : μ → V) : V → List μ → List μ
  | _, [] => []
  | v, m :: l => if v < ver m then m :: passed ver (ver m) l else passed ver v l

theorem passed_cons_of_lt (ver : μ → V) {v : V} {m : μ} (h : v < ver m) (l : List μ) :
    passed ver v (m :: l) = m :: passed ver (ver m) l := if_pos h

theorem passed_cons_of_le (ver : μ → V) {v : V} {m : μ} (h : ver m ≤ v) (l : List μ) :
    passed ver v (m :: l) = passed ver v l := if_neg (not_lt.mpr h)

theorem level_perm (v : V) {l l' : List μ} (h : l.Perm l') : level ver v l = level ver v l' :=
  h.foldl_eq' (fun a _ b _ z => by rw [max_assoc, max_assoc, max_comm (ver b)]) v

theorem passed_map {ν : Type v} (f : ν → μ) (l : List ν) (v : V) :
    passed ver v (l.map f) = (passed (fun n => ver (f n)) v l).map f := by
  induction l generalizing v with
  | nil => rfl
  | cons n l ih =>
    rw [List.map_cons]
    by_cases h : v < ver (f n)
    · rw [passed_cons_of_lt ver h, ih, passed_cons_of_lt (fun n => ver (f n)) h, List.map_cons]
    · rw [passed_cons_of_le ver (not_lt.mp h), ih,
        passed_cons_of_le (fun n => ver (f n)) (not_lt.mp h)]

theorem passed_eq_nil {v : V} {l : List μ} (h : ∀ m ∈ l, ver m ≤ v) : passed ver v l = [] := by
  induction l with
  | nil => rfl
  | cons m l ih =>
    rw [passed_cons_of_le ver (h m List.mem_cons_self)]
    exact ih fun n hn => h n (List.mem_cons_of_mem m hn)

/-- The message that is newer than all others is the last to pass. -/
theorem getLast?_passed {m : μ} (l : List μ) (v : V) (hm : m ∈ l) (hv : v < ver m)
    (hnew : ∀ n ∈ l, n ≠ m → ver n < ver m) : (passed ver v l).getLast? = some m := by
  induction l generalizing v with
  | nil => exact absurd hm List.not_mem_nil
  | cons a l ih =>
    have hrest : ∀ n ∈ l, n ≠ m → ver n < ver m :=
      fun n hn => hnew n (List.mem_cons_of_mem a hn)
    by_cases ha : a = m
    · subst ha
      have hnil : passed ver (ver a) l = [] := passed_eq_nil fun n hn => by
        by_cases hna : n = a
        · rw [hna]
        · exact (hrest n hn hna).le
      rw [passed_cons_of_lt ver hv, hnil, List.getLast?_singleton]
    · have hml : m ∈ l := (List.mem_cons.mp hm).resolve_left fun e => ha e.symm
      by_cases hav : v < ver a
      · rw [passed_cons_of_lt ver hav, List.getLast?_cons,
          ih (ver a) hml (hnew a List.mem_cons_self ha) hrest]
        rfl
      · rw [passed_cons_of_le ver (not_lt.mp hav)]
        exact ih v hml hv hrest

/-! ### Records -/

/-- Which messages of `l` have a version above `v` and above those of all messages before
them. -/
def records (ver : μ → V) (v : V) (l : List μ) : List Bool :=
  l.mapIdx fun i m => decide (v < ver m ∧ ∀ n ∈ l.take i, ver n < ver m)

/-- The gate lets a message through exactly when it sets a record. -/
theorem records_cons (ver : μ → V) (v : V) (m : μ) (l : List μ) :
    records ver v (m :: l) = decide (v < ver m) :: records ver (max v (ver m)) l := by
  rw [records, List.mapIdx_cons]
  congr 1
  · simp
  · refine List.mapIdx_eq_mapIdx_iff.mpr fun i hi => ?_
    simp only [List.take_succ_cons, List.forall_mem_cons, max_lt_iff, and_assoc]

/-- No message sets a record when none is above the level. -/
theorem records_of_le (v : V) (l : List μ) (h : ∀ m ∈ l, ver m ≤ v) :
    records ver v l = l.map fun _ => false := by
  induction l with
  | nil => rfl
  | cons m l ih =>
    have hm := h m List.mem_cons_self
    rw [records_cons, max_eq_left hm, ih fun n hn => h n (List.mem_cons_of_mem m hn),
      decide_eq_false (not_lt.mpr hm), List.map_cons]

theorem level_cons (v : V) (m : μ) (l : List μ) :
    level ver v (m :: l) = level ver (max v (ver m)) l := rfl

theorem le_level_left (v : V) (l : List μ) : v ≤ level ver v l := by
  induction l generalizing v with
  | nil => exact le_refl v
  | cons m l ih =>
    rw [level_cons]
    exact (le_max_left v (ver m)).trans (ih _)

/-- No message is above the level where the gate ends up. -/
theorem le_level {m : μ} {l : List μ} (v : V) (h : m ∈ l) : ver m ≤ level ver v l := by
  induction l generalizing v with
  | nil => exact absurd h List.not_mem_nil
  | cons a l ih =>
    rw [level_cons]
    rcases List.mem_cons.mp h with rfl | hm
    · exact (le_max_right v (ver m)).trans (le_level_left _ l)
    · exact ih _ hm

/-! ### Gated loops -/

section Loop

variable {f g : σ → μ → σ} {lvl : σ → V}

/-- The level a gated loop ends at, when a message let through becomes the level. -/
theorem lvl_foldl_gated (hg : ∀ s m, g s m = if lvl s < ver m then f s m else s)
    (hf : ∀ s m, lvl s < ver m → lvl (f s m) = ver m) (l : List μ) (s : σ) :
    lvl (l.foldl g s) = level ver (lvl s) l := by
  induction l generalizing s with
  | nil => rfl
  | cons m l ih =>
    have hm : lvl (g s m) = max (lvl s) (ver m) := by
      rw [hg]
      split
      · next h => rw [hf s m h, max_eq_right h.le]
      · next h => rw [max_eq_left (not_lt.mp h)]
    rw [List.foldl_cons, ih, hm]
    rfl

theorem foldl_gated (hg : ∀ s m, g s m = if lvl s < ver m then f s m else s)
    (hf : ∀ s m, lvl s < ver m → lvl (f s m) = ver m) (l : List μ) (s : σ) :
    l.foldl g s = (passed ver (lvl s) l).foldl f s := by
  induction l generalizing s with
  | nil => rfl
  | cons m l ih =>
    rw [List.foldl_cons, ih, hg]
    by_cases h : lvl s < ver m
    · rw [if_pos h, hf s m h, passed_cons_of_lt ver h, List.foldl_cons]
    · rw [if_neg h, passed_cons_of_le ver (not_lt.mp h)]

/-- A register a loop writes to holds the last value written. -/
theorem look_foldl {β : Type w} (look : σ → β) (write : μ → Option β)
    (hf : ∀ s m, look (f s m) = (write m).getD (look s)) (l : List μ) (s : σ) :
    look (l.foldl f s) = ((l.filterMap write).getLast?).getD (look s) := by
  induction l generalizing s with
  | nil => rfl
  | cons m l ih =>
    rw [List.foldl_cons, ih, hf]
    cases hw : write m with
    | none => rw [List.filterMap_cons_none hw]; rfl
    | some b =>
      rw [List.filterMap_cons_some hw, List.getLast?_cons, Option.getD_some, Option.getD_some]

end Loop

end VersionGate
