import Mathlib.Algebra.GroupWithZero.Nat
import Mathlib.Data.List.Nodup
import Mathlib.Data.List.Basic

/-!
# Keyed tables

A `Table` is a list of records with pairwise distinct keys, in the order the
records were first written.  It is at once an insertion-ordered dictionary from
keys to records that carry their key, and a relation with a primary key read in
row order.

* `get?` is the lookup, `put` the dictionary assignment, `modify` the in-place
  update of one record, `mapRows` an update of every record.
* `insertIgnore` and `replaceInto` are the two insertions a relation with a
  primary key offers: keep the old record, or drop it and append the new one.
* `erase` and `delete` drop the record under a key, or all that meet a condition.
* `count` is the number of records that meet a condition; `count_put` and `count_modify` say
  what a write makes of it.
* `sum_rows_put` is what a write makes of a sum over the records, `sum_foldl_put` what a loop
  that counts makes of it.
* `look_foldl_keyed`, `get?_foldl_modify`: a loop that updates each record of a list once
  is, at every key, the update of the record the list holds there.
-/

universe u v

/-- A record type whose values carry a key. -/
class Keyed (ρ : Type u) (κ : outParam (Type v)) where
  /-- The key of a record. -/
  key : ρ → κ

/-- Records with pairwise distinct keys, oldest first. -/
@[ext]
structure Table (ρ : Type u) {κ : Type v} [Keyed ρ κ] where
  rows : List ρ
  nodup : (rows.map Keyed.key).Nodup

namespace Table

open Keyed

variable {ρ : Type u} {κ : Type v} [Keyed ρ κ] [DecidableEq κ]

/-! ### Reading -/

/-- The table without records. -/
def empty : Table ρ := ⟨[], List.nodup_nil⟩

instance : Inhabited (Table ρ) := ⟨empty⟩

instance [DecidableEq ρ] : DecidableEq (Table ρ) := fun s t =>
  decidable_of_iff (s.rows = t.rows) Table.ext_iff.symm

/-- The record stored under a key. -/
def get? (t : Table ρ) (k : κ) : Option ρ := t.rows.find? (fun r => key r = k)

theorem key_of_get? {t : Table ρ} {k : κ} {r : ρ} (h : t.get? k = some r) : key r = k := by
  have := List.find?_some h
  simpa using this

theorem mem_of_get? {t : Table ρ} {k : κ} {r : ρ} (h : t.get? k = some r) : r ∈ t.rows :=
  List.mem_of_find?_eq_some h

/-- Among records with distinct keys, looking up the key of one finds it. -/
theorem find?_key_of_mem : ∀ {l : List ρ}, (l.map key).Nodup → ∀ {r : ρ}, r ∈ l →
    l.find? (fun x => decide (key x = key r)) = some r := by
  intro l
  induction l with
  | nil => intro _ r hr; exact absurd hr (by simp)
  | cons a l ih =>
    intro hl r hr
    rw [List.map_cons, List.nodup_cons] at hl
    rcases List.mem_cons.mp hr with rfl | hm
    · simp
    · have hne : key a ≠ key r := fun e => hl.1 (e ▸ List.mem_map_of_mem hm)
      rw [List.find?_cons_of_neg (by simpa using hne)]
      exact ih hl.2 hm

theorem get?_of_mem {t : Table ρ} {r : ρ} (h : r ∈ t.rows) : t.get? (key r) = some r :=
  find?_key_of_mem t.nodup h

theorem mem_rows_iff {t : Table ρ} {r : ρ} : r ∈ t.rows ↔ t.get? (key r) = some r :=
  ⟨get?_of_mem, mem_of_get?⟩

theorem get?_eq_none_iff {t : Table ρ} {k : κ} : t.get? k = none ↔ ∀ r ∈ t.rows, key r ≠ k := by
  simp [get?, List.find?_eq_none]

/-- The keys of the records that meet a condition. -/
theorem mem_map_key_filter {t : Table ρ} {p : ρ → Bool} {k : κ} :
    k ∈ (t.rows.filter p).map key ↔ ∃ r, t.get? k = some r ∧ p r := by
  rw [List.mem_map]
  refine ⟨?_, ?_⟩
  · rintro ⟨r, hr, rfl⟩
    obtain ⟨hmem, hp⟩ := List.mem_filter.mp hr
    exact ⟨r, get?_of_mem hmem, hp⟩
  · rintro ⟨r, hr, hp⟩
    exact ⟨r, List.mem_filter.mpr ⟨mem_of_get? hr, hp⟩, key_of_get? hr⟩

/-- The keys, oldest first. -/
def keys (t : Table ρ) : List κ := t.rows.map key

theorem mem_keys {t : Table ρ} {k : κ} : k ∈ t.keys ↔ ∃ r, t.get? k = some r := by
  rw [keys, List.mem_map]
  refine ⟨?_, ?_⟩
  · rintro ⟨r, hr, rfl⟩
    exact ⟨r, get?_of_mem hr⟩
  · rintro ⟨r, hr⟩
    exact ⟨r, mem_of_get? hr, key_of_get? hr⟩

/-- The records are those under the keys, in their order. -/
theorem rows_eq_filterMap (t : Table ρ) : t.rows = t.keys.filterMap t.get? := by
  rw [keys, List.filterMap_map]
  conv_lhs => rw [← List.filterMap_some (l := t.rows)]
  exact List.filterMap_congr fun r hr => (get?_of_mem hr).symm

/-- Tables with the same keys in the same order and the same records under them are equal. -/
theorem eq_of_keys {t t' : Table ρ} (hkeys : t.keys = t'.keys) (h : ∀ k, t.get? k = t'.get? k) :
    t = t' := by
  apply Table.ext
  rw [rows_eq_filterMap, rows_eq_filterMap t', hkeys]
  exact List.filterMap_congr fun k _ => h k

/-! ### Updating records in place -/

/-- Update every record; the update may not touch the key. -/
def mapRows (t : Table ρ) (f : ρ → ρ) (hf : ∀ r, key (f r) = key r) : Table ρ :=
  ⟨t.rows.map f, by
    have h : (t.rows.map f).map key = t.rows.map key := by simp [List.map_map, hf]
    rw [h]; exact t.nodup⟩

omit [DecidableEq κ] in
@[simp] theorem rows_mapRows (t : Table ρ) (f : ρ → ρ) (hf : ∀ r, key (f r) = key r) :
    (t.mapRows f hf).rows = t.rows.map f := rfl

@[simp] theorem get?_mapRows (t : Table ρ) (f : ρ → ρ) (hf : ∀ r, key (f r) = key r) (k : κ) :
    (t.mapRows f hf).get? k = (t.get? k).map f := by
  simp only [get?, mapRows, List.find?_map, Function.comp_def, hf]

/-- Update the record stored under `k`, if there is one. -/
def modify (t : Table ρ) (k : κ) (f : ρ → ρ) (hf : ∀ r, key (f r) = key r) : Table ρ :=
  t.mapRows (fun r => if key r = k then f r else r) (fun r => by split <;> simp [hf])

theorem get?_modify (t : Table ρ) (k : κ) (f : ρ → ρ) (hf : ∀ r, key (f r) = key r) (j : κ) :
    (t.modify k f hf).get? j = if j = k then (t.get? j).map f else t.get? j := by
  rw [modify, get?_mapRows]
  cases h : t.get? j with
  | none => simp
  | some r =>
    have hk := key_of_get? h
    by_cases hj : j = k <;> simp [hk, hj]

omit [DecidableEq κ] in
@[simp] theorem keys_mapRows (t : Table ρ) (f : ρ → ρ) (hf : ∀ r, key (f r) = key r) :
    (t.mapRows f hf).keys = t.keys := by
  simp only [keys, rows_mapRows, List.map_map, Function.comp_def, hf]

@[simp] theorem keys_modify (t : Table ρ) (k : κ) (f : ρ → ρ) (hf : ∀ r, key (f r) = key r) :
    (t.modify k f hf).keys = t.keys := keys_mapRows t _ _

/-- Updating a record that is not there does nothing. -/
theorem modify_of_get?_none {t : Table ρ} {k : κ} (f : ρ → ρ) (hf : ∀ r, key (f r) = key r)
    (h : t.get? k = none) : t.modify k f hf = t := by
  apply Table.ext
  have hne := get?_eq_none_iff.mp h
  rw [modify, rows_mapRows]
  conv_rhs => rw [← List.map_id t.rows]
  exact List.map_congr_left (fun r hr => by simp [hne r hr])

/-- Updating a record to itself does nothing. -/
theorem modify_id (t : Table ρ) (k : κ) : t.modify k (fun r => r) (fun _ => rfl) = t := by
  apply Table.ext
  rw [modify, rows_mapRows]
  conv_rhs => rw [← List.map_id t.rows]
  exact List.map_congr_left (fun r _ => by simp)

/-- A loop whose step for `a`, from states with `I`, changes what `look` reads at the key
of `a` only, by `g a`, does so once at each key of a list with distinct keys. -/
theorem look_foldl_keyed {σ : Type*} {α : Type*} {β : Type*} (look : σ → κ → β) (f : σ → α → σ)
    (keyOf : α → κ) (g : α → β → β) {I : σ → Prop} (hI : ∀ s a, I s → I (f s a))
    (hf : ∀ s a k, I s → look (f s a) k = if k = keyOf a then g a (look s k) else look s k) :
    ∀ (l : List α), (l.map keyOf).Nodup → ∀ (s : σ), I s → ∀ (k : κ),
      look (l.foldl f s) k =
        match l.find? (fun a => keyOf a = k) with
        | some a => g a (look s k)
        | none => look s k := by
  intro l
  induction l with
  | nil => intro _ s _ k; rfl
  | cons a l ih =>
    intro hl s hs k
    rw [List.map_cons, List.nodup_cons] at hl
    rw [List.foldl_cons, ih hl.2 _ (hI s a hs)]
    by_cases hk : keyOf a = k
    · have hnone : l.find? (fun b => decide (keyOf b = k)) = none := by
        rw [List.find?_eq_none]
        intro b hb hbk
        simp only [decide_eq_true_eq] at hbk
        exact hl.1 (hk ▸ hbk ▸ List.mem_map_of_mem hb)
      rw [hnone, List.find?_cons_of_pos (by simpa using hk), hf s a k hs, if_pos hk.symm]
    · rw [List.find?_cons_of_neg (by simpa using hk), hf s a k hs, if_neg (fun e => hk e.symm)]

/-- A loop updating each record of `l` once leaves, at every key, the update of
the record `l` holds there. -/
theorem get?_foldl_modify (g : ρ → ρ → ρ) (hg : ∀ a r, key (g a r) = key r) (l : List ρ)
    (hl : (l.map key).Nodup) (t : Table ρ) (k : κ) :
    (l.foldl (fun t a => t.modify (key a) (g a) (hg a)) t).get? k =
      match l.find? (fun a => key a = k) with
      | some a => (t.get? k).map (g a)
      | none => t.get? k :=
  look_foldl_keyed (I := fun _ => True) get? _ key (fun a o => o.map (g a))
    (fun _ _ _ => trivial) (fun s a k _ => get?_modify s (key a) (g a) (hg a) k) l hl t trivial k

/-! ### Writing whole records -/

/-- Append a record whose key is not in use. -/
def append (t : Table ρ) (r : ρ) (h : t.get? (key r) = none) : Table ρ :=
  ⟨t.rows ++ [r], by
    rw [List.map_append, List.nodup_append]
    refine ⟨t.nodup, by simp, ?_⟩
    intro a ha b hb
    obtain ⟨x, hx, rfl⟩ := List.mem_map.mp ha
    rw [List.map_singleton, List.mem_singleton] at hb
    exact hb ▸ get?_eq_none_iff.mp h x hx⟩

theorem get?_append (t : Table ρ) (r : ρ) (h : t.get? (key r) = none) (k : κ) :
    (t.append r h).get? k = if k = key r then some r else t.get? k := by
  by_cases hk : k = key r
  · subst hk
    rw [if_pos rfl]
    exact get?_of_mem (by simp [append])
  · have hk' : ¬ key r = k := fun e => hk e.symm
    rw [if_neg hk]
    simp only [get?, append, List.find?_append, List.find?_singleton, decide_eq_true_eq, hk',
      if_false, Option.or_none]

/-- Dictionary assignment: replace the record with this key in place, or append. -/
def put (t : Table ρ) (r : ρ) : Table ρ :=
  if h : t.get? (key r) = none then t.append r h
  else t.mapRows (fun x => if key x = key r then r else x)
    (fun x => by split <;> simp_all)

@[simp] theorem get?_put (t : Table ρ) (r : ρ) (k : κ) :
    (t.put r).get? k = if k = key r then some r else t.get? k := by
  unfold put
  split
  · exact get?_append t r _ k
  · rename_i h
    rw [get?_mapRows]
    cases hk : t.get? k with
    | none =>
      have hne : k ≠ key r := fun e => h (e ▸ hk)
      simp [hne]
    | some x =>
      have hx := key_of_get? hk
      by_cases hkr : k = key r <;> simp [hx, hkr]

/-- A loop that assigns records under new and distinct keys appends them. -/
theorem rows_foldl_put {l : List ρ} {t : Table ρ} (hl : (l.map key).Nodup)
    (ht : ∀ r ∈ l, t.get? (key r) = none) : (l.foldl put t).rows = t.rows ++ l := by
  induction l generalizing t with
  | nil => exact (List.append_nil _).symm
  | cons r l ih =>
    obtain ⟨hr, hl⟩ := List.nodup_cons.mp hl
    have hnew : t.put r = t.append r (ht r List.mem_cons_self) := dif_pos _
    rw [List.foldl_cons, ih hl, hnew]
    · show t.rows ++ [r] ++ l = t.rows ++ r :: l
      rw [List.append_assoc]
      rfl
    · intro x hx
      have hne : key x ≠ key r := fun h => hr (h ▸ List.mem_map_of_mem hx)
      rw [get?_put, if_neg hne]
      exact ht x (List.mem_cons_of_mem r hx)

omit [DecidableEq κ] in
/-- Updating one record of a list with distinct keys changes a sum by its weights. -/
theorem sum_map_replace (w : ρ → ℕ) (new : ρ) [DecidablePred fun x : ρ => key x = key new] :
    ∀ (l : List ρ) {old : ρ}, (l.map key).Nodup → old ∈ l → key old = key new →
      ((l.map fun x => if key x = key new then new else x).map w).sum + w old =
        (l.map w).sum + w new := by
  intro l old hl hold hkey
  induction l with
  | nil => exact absurd hold List.not_mem_nil
  | cons a l ih =>
    rw [List.map_cons, List.nodup_cons] at hl
    simp only [List.map_cons, List.sum_cons]
    rcases List.mem_cons.mp hold with rfl | hm
    · have hrest : (l.map fun x => if key x = key new then new else x) = l := by
        conv_rhs => rw [← List.map_id l]
        refine List.map_congr_left fun x hx => ?_
        have hne : key x ≠ key new := fun e =>
          hl.1 (hkey.trans e.symm ▸ List.mem_map_of_mem hx)
        exact if_neg hne
      rw [if_pos hkey, hrest]
      omega
    · have hne : key a ≠ key new := fun e =>
        hl.1 ((e.trans hkey.symm) ▸ List.mem_map_of_mem hm)
      have hsum := ih hl.2 hm
      rw [if_neg hne]
      omega

/-- What an assignment makes of a sum over the records. -/
theorem sum_rows_put (w : ρ → ℕ) (t : Table ρ) (r : ρ) :
    ((t.put r).rows.map w).sum + (t.get? (key r)).elim 0 w = (t.rows.map w).sum + w r := by
  unfold put
  split
  · rename_i h
    rw [h, append, List.map_append, List.sum_append]
    rfl
  · rename_i h
    obtain ⟨old, hold⟩ := Option.ne_none_iff_exists'.mp h
    rw [hold]
    exact sum_map_replace w r t.rows t.nodup (mem_of_get? hold) (key_of_get? hold)

/-- **Counting.**  A loop that writes, for each element, a record of one more than the record
that is there adds the number of elements to the sum. -/
theorem sum_foldl_put {α : Type*} (w : ρ → ℕ) (f : Table ρ → α → ρ)
    (hf : ∀ t a, w (f t a) = (t.get? (key (f t a))).elim 0 w + 1) (l : List α) (t : Table ρ) :
    ((l.foldl (fun t a => t.put (f t a)) t).rows.map w).sum = (t.rows.map w).sum + l.length := by
  induction l generalizing t with
  | nil => rfl
  | cons a l ih =>
    have hput := sum_rows_put w t (f t a)
    have hone := hf t a
    rw [List.foldl_cons, ih, List.length_cons]
    omega

/-- Updating a record that is there is writing the updated one. -/
theorem modify_eq_put {t : Table ρ} {k : κ} {r : ρ} (f : ρ → ρ) (hf : ∀ x, key (f x) = key x)
    (h : t.get? k = some r) : t.modify k f hf = t.put (f r) := by
  have hk : key (f r) = k := (hf r).trans (key_of_get? h)
  have hnew : ¬ t.get? (key (f r)) = none := by rw [hk, h]; exact Option.some_ne_none r
  apply Table.ext
  rw [put, dif_neg hnew, modify, rows_mapRows, rows_mapRows]
  refine List.map_congr_left fun x hx => ?_
  rw [hk]
  by_cases hxk : key x = k
  · have hget := get?_of_mem hx
    rw [hxk, h] at hget
    rw [if_pos hxk, if_pos hxk, Option.some.inj hget]
  · rw [if_neg hxk, if_neg hxk]

theorem keys_put_new {t : Table ρ} {r : ρ} (h : t.get? (key r) = none) :
    (t.put r).keys = t.keys ++ [key r] := by
  rw [put, dif_pos h, keys, append, List.map_append, List.map_singleton, keys]

/-- `INSERT OR IGNORE`: a record with this key, when there is one, stays. -/
def insertIgnore (t : Table ρ) (r : ρ) : Table ρ :=
  if h : t.get? (key r) = none then t.append r h else t

theorem get?_insertIgnore (t : Table ρ) (r : ρ) (k : κ) :
    (t.insertIgnore r).get? k = if k = key r then some ((t.get? k).getD r) else t.get? k := by
  unfold insertIgnore
  split
  · rename_i h
    rw [get?_append]
    by_cases hk : k = key r
    · rw [if_pos hk, if_pos hk, hk, h]; rfl
    · rw [if_neg hk, if_neg hk]
  · rename_i h
    by_cases hk : k = key r
    · subst hk
      obtain ⟨x, hx⟩ := Option.ne_none_iff_exists'.mp h
      rw [if_pos rfl, hx]; rfl
    · rw [if_neg hk]

theorem keys_insertIgnore_new {t : Table ρ} {r : ρ} (h : t.get? (key r) = none) :
    (t.insertIgnore r).keys = t.keys ++ [key r] := by
  rw [insertIgnore, dif_pos h, keys, append, List.map_append, List.map_singleton, keys]

/-- `INSERT OR REPLACE`: a record with this key is dropped, the new one goes last. -/
def replaceInto (t : Table ρ) (r : ρ) : Table ρ :=
  ⟨t.rows.filter (fun x => key x ≠ key r) ++ [r], by
    rw [List.map_append, List.nodup_append]
    refine ⟨(List.filter_sublist.map key).nodup t.nodup, by simp, ?_⟩
    intro a ha b hb
    obtain ⟨x, hx, rfl⟩ := List.mem_map.mp ha
    rw [List.map_singleton, List.mem_singleton] at hb
    have := (List.mem_filter.mp hx).2
    simp only [ne_eq, decide_not, Bool.not_eq_true', decide_eq_false_iff_not] at this
    exact hb ▸ this⟩

theorem get?_replaceInto (t : Table ρ) (r : ρ) (k : κ) :
    (t.replaceInto r).get? k = if k = key r then some r else t.get? k := by
  have hnone : (t.rows.filter fun x => key x ≠ key r).find? (fun x => key x = key r) = none := by
    rw [List.find?_eq_none]
    intro x hx hkey
    exact of_decide_eq_true (List.mem_filter.mp hx).2 (of_decide_eq_true hkey)
  by_cases hk : k = key r
  · rw [if_pos hk, hk, get?, replaceInto, List.find?_append, hnone, Option.none_or]
    exact List.find?_cons_of_pos (decide_eq_true rfl)
  · have hk' : ¬ key r = k := fun e => hk e.symm
    rw [if_neg hk, get?, replaceInto, List.find?_append, List.find?_filter,
      List.find?_singleton, if_neg (by simpa using hk'), Option.or_none, get?]
    congr 1
    funext x
    by_cases hx : key x = k
    · simp [hx, hk]
    · simp [hx]

theorem rows_replaceInto_of_get?_none {t : Table ρ} {r : ρ} (h : t.get? (key r) = none) :
    (t.replaceInto r).rows = t.rows ++ [r] := by
  have hf : t.rows.filter (fun x => decide (key x ≠ key r)) = t.rows := by
    rw [List.filter_eq_self]
    intro x hx
    simpa using get?_eq_none_iff.mp h x hx
  simp only [replaceInto, hf]

/-- Delete the record with this key, if there is one. -/
def erase (t : Table ρ) (k : κ) : Table ρ :=
  ⟨t.rows.filter (fun x => key x ≠ k), (List.filter_sublist.map key).nodup t.nodup⟩

theorem get?_erase (t : Table ρ) (k j : κ) :
    (t.erase k).get? j = if j = k then none else t.get? j := by
  by_cases hj : j = k
  · rw [if_pos hj, get?_eq_none_iff]
    intro r hr
    have := (List.mem_filter.mp hr).2
    simp only [ne_eq, decide_not, Bool.not_eq_true', decide_eq_false_iff_not] at this
    exact hj ▸ this
  · rw [if_neg hj, get?, erase, List.find?_filter]
    congr 1
    funext r
    by_cases hr : key r = j
    · simp [hr, hj]
    · simp [hr]

/-- Delete the records that meet a condition. -/
def delete (t : Table ρ) (p : ρ → Bool) : Table ρ :=
  ⟨t.rows.filter (fun x => !p x), (List.filter_sublist.map key).nodup t.nodup⟩

theorem get?_delete (t : Table ρ) (p : ρ → Bool) (k : κ) :
    (t.delete p).get? k = (t.get? k).filter (fun x => !p x) := by
  cases hk : t.get? k with
  | none =>
    rw [Option.filter_none, get?_eq_none_iff]
    intro r hr
    exact get?_eq_none_iff.mp hk r (List.mem_filter.mp hr).1
  | some x =>
    have hx := mem_of_get? hk
    by_cases hp : p x = true
    · rw [Option.filter_some_neg (by simp [hp]), get?_eq_none_iff]
      rintro r hr hrk
      obtain ⟨hr, hpr⟩ := List.mem_filter.mp hr
      have hget := get?_of_mem hr
      rw [hrk, hk] at hget
      obtain rfl := Option.some.inj hget
      simp [hp] at hpr
    · have hmem : x ∈ (t.delete p).rows := List.mem_filter.mpr ⟨hx, by simpa using hp⟩
      rw [Option.filter_some_pos (by simpa using hp), ← key_of_get? hk, get?_of_mem hmem]

/-! ### Counting records -/

/-- How many records meet `p`. -/
def count (p : ρ → Bool) (t : Table ρ) : Nat := t.rows.countP p

/-- 1 if there is a record and it meets `p`. -/
def tally (p : ρ → Bool) (o : Option ρ) : Nat := if o.any p then 1 else 0

omit [Keyed ρ κ] [DecidableEq κ] in
theorem tally_none (p : ρ → Bool) : tally p none = 0 := rfl

omit [Keyed ρ κ] [DecidableEq κ] in
theorem tally_pos {p : ρ → Bool} {r : ρ} (h : p r = true) : tally p (some r) = 1 := if_pos h

omit [Keyed ρ κ] [DecidableEq κ] in
theorem tally_neg {p : ρ → Bool} {r : ρ} (h : ¬ p r = true) : tally p (some r) = 0 := if_neg h

omit [Keyed ρ κ] [DecidableEq κ] in
theorem sum_tally (p : ρ → Bool) (l : List ρ) :
    (l.map fun r => tally p (some r)).sum = l.countP p := by
  induction l with
  | nil => rfl
  | cons r l ih =>
    rw [List.map_cons, List.sum_cons, ih, List.countP_cons, Nat.add_comm]
    rfl

/-- What an assignment makes of a count. -/
theorem count_put (p : ρ → Bool) (t : Table ρ) (r : ρ) :
    (t.put r).count p + tally p (t.get? (key r)) = t.count p + tally p (some r) := by
  have hsum := sum_rows_put (fun x => tally p (some x)) t r
  rw [sum_tally, sum_tally] at hsum
  have helim : (t.get? (key r)).elim 0 (fun x => tally p (some x)) =
      tally p (t.get? (key r)) := by
    cases t.get? (key r) with
    | none => rfl
    | some x => rfl
  rwa [helim] at hsum

/-- What an update makes of a count. -/
theorem count_modify (p : ρ → Bool) (t : Table ρ) (k : κ) (f : ρ → ρ)
    (hf : ∀ r, key (f r) = key r) :
    (t.modify k f hf).count p + tally p (t.get? k) =
      t.count p + tally p ((t.get? k).map f) := by
  cases h : t.get? k with
  | none =>
    rw [modify_of_get?_none f hf h]
    rfl
  | some r =>
    have hk : key (f r) = k := (hf r).trans (key_of_get? h)
    have hput := count_put p t (f r)
    rw [hk, h] at hput
    rw [modify_eq_put f hf h]
    exact hput

end Table
