import Mathlib.Data.List.Sort

/-!
# Tables with an AUTOINCREMENT id

The ids of the rows come from a counter that never goes back, so the rows stand in the order of
their ids.

* `rows_trim`: deleting all rows but those with the `n` largest ids keeps the last `n` rows.
* `ordered_eq`: sorting the rows by their id changes nothing.
-/

universe u

/-- The rows with their ids, and the last id that was given. -/
structure Autoincrement (α : Type u) where
  rows : List (Nat × α)
  seq : Nat
  increasing : (rows.map Prod.fst).Pairwise (· < ·)
  le_seq : ∀ id ∈ rows.map Prod.fst, id ≤ seq

namespace Autoincrement

variable {α : Type u}

def empty : Autoincrement α := ⟨[], 0, List.Pairwise.nil, fun _ h => absurd h List.not_mem_nil⟩

/-- `INSERT` -/
def insert (t : Autoincrement α) (a : α) : Autoincrement α where
  rows := t.rows ++ [(t.seq + 1, a)]
  seq := t.seq + 1
  increasing := by
    rw [List.map_append, List.pairwise_append]
    refine ⟨t.increasing, List.pairwise_singleton _ _, fun id hid id' hid' => ?_⟩
    rw [List.mem_singleton.mp hid']
    exact Nat.lt_succ_of_le (t.le_seq id hid)
  le_seq := by
    intro id hid
    rw [List.map_append, List.mem_append] at hid
    rcases hid with hid | hid
    · exact Nat.le_succ_of_le (t.le_seq id hid)
    · exact (List.mem_singleton.mp hid).le

/-- `SELECT id … ORDER BY id DESC LIMIT n` -/
def newest (t : Autoincrement α) (n : Nat) : List Nat :=
  ((t.rows.map Prod.fst).insertionSort (· ≥ ·)).take n

/-- `DELETE … WHERE id NOT IN (…)` -/
def deleteNotIn (t : Autoincrement α) (ids : List Nat) : Autoincrement α where
  rows := t.rows.filter fun r => r.1 ∈ ids
  seq := t.seq
  increasing := t.increasing.sublist (List.filter_sublist.map Prod.fst)
  le_seq := fun id hid => t.le_seq id ((List.filter_sublist.map Prod.fst).subset hid)

/-- If there are more than `n` rows, all but those with the `n` largest ids are deleted. -/
def trim (t : Autoincrement α) (n : Nat) : Autoincrement α :=
  if t.rows.length > n then t.deleteNotIn (t.newest n) else t

/-- `SELECT *`, which goes through the rows as they stand. -/
def scan (t : Autoincrement α) : List α := t.rows.map Prod.snd

/-- `SELECT * … ORDER BY id` -/
def ordered (t : Autoincrement α) : List α :=
  (t.rows.insertionSort fun r s => r.1 ≤ s.1).map Prod.snd

variable (t : Autoincrement α)

theorem ordered_eq : t.ordered = t.scan := by
  have hsorted : t.rows.Pairwise fun r s => r.1 ≤ s.1 :=
    (List.pairwise_map.mp t.increasing).imp Nat.le_of_lt
  rw [ordered, hsorted.insertionSort_eq, scan]

theorem newest_eq (n : Nat) :
    t.newest n = ((t.rows.map Prod.fst).drop (t.rows.length - n)).reverse := by
  have hperm : ((t.rows.map Prod.fst).insertionSort (· ≥ ·)).Perm (t.rows.map Prod.fst).reverse :=
    (List.perm_insertionSort _ _).trans (List.reverse_perm _).symm
  have hreverse : (t.rows.map Prod.fst).reverse.Pairwise (· ≥ ·) :=
    List.pairwise_reverse.mpr (t.increasing.imp Nat.le_of_lt)
  rw [newest, hperm.eq_of_pairwise' (List.pairwise_insertionSort _ _) hreverse,
    List.take_reverse, List.length_map]

/-- Of rows with increasing ids, those with an id of the rows from the `k`-th on. -/
theorem filter_mem_drop {rows : List (Nat × α)} (h : (rows.map Prod.fst).Pairwise (· < ·))
    (k : Nat) : (rows.filter fun r => r.1 ∈ (rows.map Prod.fst).drop k) = rows.drop k := by
  rw [← List.take_append_drop k (rows.map Prod.fst), List.pairwise_append] at h
  obtain ⟨-, -, hlt⟩ := h
  have hold : ((rows.take k).filter fun r => r.1 ∈ (rows.map Prod.fst).drop k) = [] := by
    refine List.filter_eq_nil_iff.mpr fun r hr hin => ?_
    have hid : r.1 ∈ (rows.map Prod.fst).take k := List.map_take ▸ List.mem_map_of_mem hr
    exact (hlt r.1 hid r.1 (of_decide_eq_true hin)).ne rfl
  have hnew : ((rows.drop k).filter fun r => r.1 ∈ (rows.map Prod.fst).drop k) = rows.drop k := by
    refine List.filter_eq_self.mpr fun r hr => decide_eq_true ?_
    exact List.map_drop ▸ List.mem_map_of_mem hr
  conv_lhs => rw [← List.take_append_drop k rows]
  rw [List.filter_append, List.take_append_drop k rows, hold, hnew, List.nil_append]

theorem rows_trim (n : Nat) : (t.trim n).rows = t.rows.drop (t.rows.length - n) := by
  rw [trim]
  split
  · have hmem : ∀ r : Nat × α, (r.1 ∈ t.newest n) =
        (r.1 ∈ (t.rows.map Prod.fst).drop (t.rows.length - n)) := by
      intro r
      rw [newest_eq, List.mem_reverse]
    simp only [deleteNotIn, hmem]
    exact filter_mem_drop t.increasing _
  · rename_i h
    rw [Nat.sub_eq_zero_of_le (not_lt.mp h), List.drop_zero]

theorem scan_trim (n : Nat) : (t.trim n).scan = t.scan.drop (t.scan.length - n) := by
  rw [scan, rows_trim, scan, List.length_map, List.map_drop]

theorem scan_insert (a : α) : (t.insert a).scan = t.scan ++ [a] := List.map_append

end Autoincrement
