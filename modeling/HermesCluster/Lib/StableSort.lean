import Mathlib.Data.List.Nodup
import Mathlib.Data.List.Sort

/-!
# Stable sorts

`List.mergeSort` keeps elements that are not told apart in their order.  So the last element of a
list comes right after those that are not after it.

* `mergeSort_concat_split`: where the last element goes.
* `mem_take_mergeSort_concat`: when it is among the first `n`.
* `insertionSort_congr`: a sort depends only on how the elements of the list compare.
* `insertionSort_append`: elements that come after all others are sorted by themselves.
-/

namespace StableSort

variable {α : Type*} {le : α → α → Bool} {l : List α} {x : α}

/-- An element that comes after another one in a list without repetition does not come before
it. -/
theorem not_pair_sublist {before after : List α} (hnodup : (before ++ x :: after).Nodup) {b : α}
    (hb : b ∈ after) : ¬ [b, x].Sublist (before ++ x :: after) := by
  intro hpair
  obtain ⟨-, hrest, hdisjoint⟩ := List.nodup_append.mp hnodup
  have hx : x ∉ after := (List.nodup_cons.mp hrest).1
  obtain ⟨l₁, l₂, heq, h₁, h₂⟩ := List.sublist_append_iff.mp hpair
  cases l₁ with
  | nil =>
    rw [List.nil_append] at heq
    rw [← heq] at h₂
    rcases List.sublist_cons_iff.mp h₂ with h | ⟨r, hr, -⟩
    · exact hx (h.subset (by simp))
    · rw [(List.cons.inj hr).1] at hb
      exact hx hb
  | cons a l₁ =>
    rw [← (List.cons.inj heq).1] at h₁
    exact hdisjoint b (h₁.subset List.mem_cons_self) b (List.mem_cons_of_mem x hb) rfl

/-- In the sorted list the last element stands between those that are not after it and the
others. -/
theorem mergeSort_concat_split (htrans : ∀ a b c, le a b → le b c → le a c)
    (htotal : ∀ a b, le a b || le b a) (hnodup : (l ++ [x]).Nodup) :
    ∃ before after, (l ++ [x]).mergeSort le = before ++ x :: after ∧
      (∀ b ∈ before, le b x = true) ∧ ∀ b ∈ after, ¬ le b x = true := by
  have hperm := List.mergeSort_perm (l ++ [x]) le
  have hsorted := List.pairwise_mergeSort htrans htotal (l ++ [x])
  have hmem : x ∈ (l ++ [x]).mergeSort le := hperm.mem_iff.mpr (by simp)
  obtain ⟨before, after, hsplit⟩ := List.append_of_mem hmem
  have hnodup' : (before ++ x :: after).Nodup := hsplit ▸ hperm.nodup_iff.mpr hnodup
  rw [hsplit] at hsorted
  refine ⟨before, after, hsplit, fun b hb => ?_, fun b hb hle => ?_⟩
  · exact (List.pairwise_append.mp hsorted).2.2 b hb x List.mem_cons_self
  · -- otherwise `b` stays before `x`
    have hne : b ≠ x := by
      rintro rfl
      exact (List.nodup_cons.mp (List.nodup_append.mp hnodup').2.1).1 hb
    have hb' : b ∈ l ++ [x] :=
      hperm.mem_iff.mp (hsplit ▸ List.mem_append_right _ (List.mem_cons_of_mem x hb))
    have hbl : b ∈ l :=
      (List.mem_append.mp hb').resolve_right fun h => hne (List.mem_singleton.mp h)
    have hpair : [b, x].Sublist (l ++ [x]) :=
      (List.singleton_sublist.mpr hbl).append (List.Sublist.refl [x])
    exact not_pair_sublist hnodup'
      hb (hsplit ▸ List.pair_sublist_mergeSort htrans htotal hle hpair)

/-- Where the first occurrence of an element is cut off. -/
theorem mem_take_append_cons {before : List α} (after : List α) (h : x ∉ before) (n : Nat) :
    x ∈ (before ++ x :: after).take n ↔ before.length < n := by
  have htake : x ∉ before.take n := fun hx => h (List.mem_of_mem_take hx)
  rw [List.take_append, List.mem_append, or_iff_right htake]
  by_cases hn : before.length < n
  · obtain ⟨m, hm⟩ : ∃ m, n - before.length = m + 1 := ⟨n - before.length - 1, by omega⟩
    rw [hm, List.take_succ_cons]
    exact iff_of_true List.mem_cons_self hn
  · have hm : n - before.length = 0 := by omega
    rw [hm, List.take_zero]
    exact iff_of_false List.not_mem_nil hn

/-- The last element of a list is among the first `n` of a stable sort if fewer than `n` of the
others are not after it. -/
theorem mem_take_mergeSort_concat (htrans : ∀ a b c, le a b → le b c → le a c)
    (htotal : ∀ a b, le a b || le b a) (hnodup : (l ++ [x]).Nodup) (n : Nat) :
    x ∈ ((l ++ [x]).mergeSort le).take n ↔ l.countP (fun b => le b x) < n := by
  have hperm := List.mergeSort_perm (l ++ [x]) le
  obtain ⟨before, after, hsplit, hbefore, hafter⟩ := mergeSort_concat_split htrans htotal hnodup
  have hnodup' : (before ++ x :: after).Nodup := hsplit ▸ hperm.nodup_iff.mpr hnodup
  have hx : x ∉ before := fun h =>
    (List.nodup_append.mp hnodup').2.2 x h x List.mem_cons_self rfl
  have hrefl : le x x = true := by
    have := htotal x x
    rwa [Bool.or_self] at this
  have hcount : l.countP (fun b => le b x) = before.length := by
    have hall := hperm.countP_eq fun b => le b x
    rw [hsplit, List.countP_append, List.countP_append, List.countP_cons, List.countP_cons,
      List.countP_nil, List.countP_eq_length.mpr hbefore, List.countP_eq_zero.mpr hafter] at hall
    simpa [hrefl] using hall.symm
  rw [hcount, hsplit, mem_take_append_cons after hx]

section Congr

variable {r r' : α → α → Prop} [DecidableRel r] [DecidableRel r']

theorem orderedInsert_congr {a : α} (h : ∀ b ∈ l, r a b ↔ r' a b) :
    l.orderedInsert r a = l.orderedInsert r' a := by
  induction l with
  | nil => rfl
  | cons b l ih =>
    rw [List.orderedInsert_cons, List.orderedInsert_cons,
      ih fun c hc => h c (List.mem_cons_of_mem b hc)]
    by_cases hab : r a b
    · rw [if_pos hab, if_pos ((h b List.mem_cons_self).mp hab)]
    · rw [if_neg hab, if_neg fun hab' => hab ((h b List.mem_cons_self).mpr hab')]

theorem insertionSort_congr (h : ∀ a ∈ l, ∀ b ∈ l, r a b ↔ r' a b) :
    l.insertionSort r = l.insertionSort r' := by
  induction l with
  | nil => rfl
  | cons a l ih =>
    have hrest := ih fun b hb c hc =>
      h b (List.mem_cons_of_mem a hb) c (List.mem_cons_of_mem a hc)
    rw [List.insertionSort_cons, List.insertionSort_cons, hrest]
    refine orderedInsert_congr fun b hb => h a List.mem_cons_self b (List.mem_cons_of_mem a ?_)
    exact (List.perm_insertionSort r' l).mem_iff.mp hb

end Congr

section Append

variable {r : α → α → Prop} [DecidableRel r]

theorem orderedInsert_append {a : α} {l m : List α} (h : ∀ b ∈ m, r a b) :
    (l ++ m).orderedInsert r a = l.orderedInsert r a ++ m := by
  induction l with
  | nil =>
    cases m with
    | nil => rfl
    | cons b m => exact List.orderedInsert_cons_of_le r m (h b List.mem_cons_self)
  | cons c l ih =>
    rw [List.cons_append, List.orderedInsert_cons, List.orderedInsert_cons, ih]
    split
    · rfl
    · rfl

theorem insertionSort_append {l m : List α} (h : ∀ a ∈ l, ∀ b ∈ m, r a b) :
    (l ++ m).insertionSort r = l.insertionSort r ++ m.insertionSort r := by
  induction l with
  | nil => rfl
  | cons a l ih =>
    rw [List.cons_append, List.insertionSort_cons, List.insertionSort_cons,
      ih fun c hc => h c (List.mem_cons_of_mem a hc)]
    refine orderedInsert_append fun b hb => h a List.mem_cons_self b ?_
    exact (List.mem_insertionSort r).mp hb

end Append

end StableSort
