import HermesCluster.Lib.Table

/-!
# Grouping by a key

A loop that puts each value into the list its key has in a dictionary, as `setdefault(k, [])` and
`append` do, partitions the values.

* `members_group`: the list of a key has the values of that key, in the order they came.
* `perm_groups`: the lists of all keys together have each value once.
-/

universe u v

/-- An entry of a dictionary of lists. -/
structure Bucket (κ : Type u) (ν : Type v) where
  key : κ
  values : List ν

instance {κ : Type u} {ν : Type v} : Keyed (Bucket κ ν) κ := ⟨Bucket.key⟩

namespace Bucket

variable {κ : Type u} {ν : Type v} [DecidableEq κ]

/-- `groups.get(k, [])` -/
def members (groups : Table (Bucket κ ν)) (k : κ) : List ν :=
  ((groups.get? k).map Bucket.values).getD []

/-- `groups.setdefault(k, []).append(v)` -/
def add (groups : Table (Bucket κ ν)) (k : κ) (v : ν) : Table (Bucket κ ν) :=
  groups.put ⟨k, members groups k ++ [v]⟩

theorem members_empty (k : κ) : members (Table.empty : Table (Bucket κ ν)) k = [] := rfl

theorem members_add (groups : Table (Bucket κ ν)) (k j : κ) (v : ν) :
    members (add groups k v) j =
      if j = k then members groups j ++ [v] else members groups j := by
  have hget : (add groups k v).get? j =
      if j = k then some ⟨k, members groups k ++ [v]⟩ else groups.get? j := Table.get?_put _ _ _
  rw [members, hget]
  by_cases hj : j = k
  · subst hj
    rw [if_pos rfl, if_pos rfl]
    rfl
  · rw [if_neg hj, if_neg hj]
    rfl

/-- The loop. -/
def group (l : List (κ × ν)) : Table (Bucket κ ν) :=
  l.foldl (fun groups p => add groups p.1 p.2) Table.empty

theorem members_foldl_add (l : List (κ × ν)) (groups : Table (Bucket κ ν)) (k : κ) :
    members (l.foldl (fun groups p => add groups p.1 p.2) groups) k =
      members groups k ++ (l.filter fun p => p.1 = k).map Prod.snd := by
  induction l generalizing groups with
  | nil => exact (List.append_nil _).symm
  | cons p l ih =>
    rw [List.foldl_cons, ih, members_add]
    by_cases hk : p.1 = k
    · rw [if_pos hk.symm, List.filter_cons_of_pos (by simpa using hk), List.append_assoc]
      rfl
    · rw [if_neg (Ne.symm hk), List.filter_cons_of_neg (by simpa using hk)]

/-- A key has its values, in order. -/
theorem members_group (l : List (κ × ν)) (k : κ) :
    members (group l) k = (l.filter fun p => p.1 = k).map Prod.snd :=
  members_foldl_add l Table.empty k

/-- Distinct keys, among which are those of all values, have each value once. -/
theorem perm_groups {l : List (κ × ν)} {keys : List κ} (hnodup : keys.Nodup)
    (hkeys : ∀ p ∈ l, p.1 ∈ keys) :
    (keys.flatMap (members (group l))).Perm (l.map Prod.snd) := by
  simp only [funext (members_group l)]
  induction keys generalizing l with
  | nil =>
    cases l with
    | nil => exact List.Perm.refl _
    | cons p l => exact absurd (hkeys p List.mem_cons_self) List.not_mem_nil
  | cons k keys ih =>
    obtain ⟨hk, hnodup⟩ := List.nodup_cons.mp hnodup
    rw [List.flatMap_cons]
    -- the other keys have what is left when the values of this one are taken away
    have hrest := ih (l := l.filter fun p => ¬ p.1 = k) hnodup fun p hp => by
      obtain ⟨hmem, hne⟩ := List.mem_filter.mp hp
      exact List.mem_of_ne_of_mem (by simpa using hne) (hkeys p hmem)
    have hsame : keys.flatMap (fun j => ((l.filter fun p => ¬ p.1 = k).filter
        fun p => p.1 = j).map Prod.snd) =
        keys.flatMap fun j => (l.filter fun p => p.1 = j).map Prod.snd := by
      refine List.flatMap_congr fun j hj => ?_
      rw [List.filter_filter]
      refine congrArg (List.map Prod.snd) (List.filter_congr fun p _ => ?_)
      have hjk : j ≠ k := fun h => hk (h ▸ hj)
      by_cases hpj : p.1 = j
      · simp [hpj, hjk]
      · simp [hpj]
    rw [hsame] at hrest
    refine (hrest.append_left _).trans ?_
    rw [← List.map_append]
    refine List.Perm.map Prod.snd ?_
    simpa using List.filter_append_perm (fun p : κ × ν => decide (p.1 = k)) l

end Bucket
