import Mathlib.Data.String.Basic
import HermesCluster.Models

/-!
# `LWWResolver`

The last-writer-wins comparison of `hermes_cluster/sync/__init__.py` on updates, which it
sees as triples of a version, a timestamp and a sender, and what keeping the incoming
update whenever it wins makes of a list of them.
-/

namespace HermesCluster

/-- `LWWResolver.should_apply`. -/
def shouldApply (remoteVersion remoteTimestamp : Int) (remoteSender : NodeId)
    (localVersion localTimestamp : Int) (localSender : NodeId) : Bool :=
  if remoteVersion > localVersion then true
  else if remoteVersion < localVersion then false
  -- same version: the timestamp decides
  else if remoteTimestamp > localTimestamp then true
  else if remoteTimestamp < localTimestamp then false
  -- same version and timestamp: the sender decides
  else remoteSender > localSender

/-- What the resolver looks at in an update. -/
structure Update where
  version : Int
  timestamp : Int
  sender : NodeId
deriving DecidableEq, Repr

namespace Update

/-- The resolver applies the remote update `r` over the local one `l`. -/
def beats (r l : Update) : Bool :=
  shouldApply r.version r.timestamp r.sender l.version l.timestamp l.sender

/-- The update that is left when those of `l` come in one after the other and each is kept
exactly when the resolver says so. -/
def winner (first : Update) (l : List Update) : Update :=
  l.foldl (fun kept u => if u.beats kept then u else kept) first

/-! ### The order -/

/-- The early returns spell out the lexicographic order. -/
theorem beats_iff {r l : Update} : r.beats l = true ↔
    l.version < r.version ∨ l.version = r.version ∧
      (l.timestamp < r.timestamp ∨ l.timestamp = r.timestamp ∧ l.sender < r.sender) := by
  rw [beats, shouldApply]
  split_ifs with hgt hlt tgt tlt
  · simp [hgt]
  · simp only [false_iff]
    omega
  · simp only [true_iff]
    omega
  · simp only [false_iff]
    omega
  · have hv : l.version = r.version := by omega
    have ht : l.timestamp = r.timestamp := by omega
    simp [hv, ht]

theorem beats_irrefl (u : Update) : ¬ u.beats u = true := by
  rw [beats_iff]
  rintro (h | ⟨-, h | ⟨-, h⟩⟩)
  · omega
  · omega
  · exact lt_irrefl _ h

theorem beats_trans {a b c : Update} (hab : a.beats b = true) (hbc : b.beats c = true) :
    a.beats c = true := by
  rw [beats_iff] at *
  rcases hab with hab | ⟨vab, hab | ⟨tab, hab⟩⟩
  · rcases hbc with hbc | ⟨vbc, -⟩
    · exact .inl (by omega)
    · exact .inl (by omega)
  · rcases hbc with hbc | ⟨vbc, hbc | ⟨tbc, -⟩⟩
    · exact .inl (by omega)
    · exact .inr ⟨by omega, .inl (by omega)⟩
    · exact .inr ⟨by omega, .inl (by omega)⟩
  · rcases hbc with hbc | ⟨vbc, hbc | ⟨tbc, hbc⟩⟩
    · exact .inl (by omega)
    · exact .inr ⟨by omega, .inl (by omega)⟩
    · exact .inr ⟨by omega, .inr ⟨by omega, lt_trans hbc hab⟩⟩

theorem beats_asymm {a b : Update} (h : a.beats b = true) : ¬ b.beats a = true := fun h' =>
  beats_irrefl a (beats_trans h h')

/-- Two updates of which neither beats the other are one. -/
theorem eq_of_not_beats {a b : Update} (hab : ¬ a.beats b = true) (hba : ¬ b.beats a = true) :
    a = b := by
  rw [beats_iff] at hab hba
  have hv : a.version = b.version := by omega
  have ht : a.timestamp = b.timestamp := by omega
  have hs : a.sender = b.sender := by
    rcases lt_trichotomy a.sender b.sender with h | h | h
    · exact absurd (.inr ⟨hv, .inr ⟨ht, h⟩⟩) hba
    · exact h
    · exact absurd (.inr ⟨hv.symm, .inr ⟨ht.symm, h⟩⟩) hab
  cases a
  cases b
  simp_all

theorem not_beats_trans {a b c : Update} (hab : ¬ a.beats b = true)
    (hbc : ¬ b.beats c = true) : ¬ a.beats c = true := by
  intro hac
  by_cases hba : b.beats a = true
  · exact hbc (beats_trans hba hac)
  · exact hbc (eq_of_not_beats hab hba ▸ hac)

/-! ### The fold -/

theorem winner_cons (first u : Update) (l : List Update) :
    winner first (u :: l) = winner (if u.beats first then u else first) l := rfl

theorem winner_mem (first : Update) (l : List Update) : winner first l ∈ first :: l := by
  induction l generalizing first with
  | nil => exact List.mem_singleton_self first
  | cons u l ih =>
    rw [winner_cons]
    split_ifs
    · exact List.mem_cons_of_mem first (ih u)
    · rcases List.mem_cons.mp (ih first) with h | h
      · rw [h]
        exact List.mem_cons_self
      · exact List.mem_cons_of_mem first (List.mem_cons_of_mem u h)

/-- No update of the list beats the one that is left. -/
theorem not_beats_winner (first : Update) (l : List Update) :
    ∀ u ∈ first :: l, ¬ u.beats (winner first l) = true := by
  induction l generalizing first with
  | nil =>
    intro u hu
    rw [List.mem_singleton.mp hu]
    exact beats_irrefl first
  | cons v l ih =>
    intro u hu
    rw [winner_cons]
    by_cases hv : v.beats first = true
    · rw [if_pos hv]
      rcases List.mem_cons.mp hu with rfl | hu
      · exact not_beats_trans (beats_asymm hv) (ih v v List.mem_cons_self)
      · exact ih v u hu
    · rw [if_neg hv]
      rcases List.mem_cons.mp hu with rfl | hu
      · exact ih u u List.mem_cons_self
      · rcases List.mem_cons.mp hu with rfl | hu
        · exact not_beats_trans hv (ih first first List.mem_cons_self)
        · exact ih first u (List.mem_cons_of_mem first hu)

/-- The winner is the only update of the list that no other one beats. -/
theorem eq_winner {first w : Update} {l : List Update} (hw : w ∈ first :: l)
    (h : ∀ u ∈ first :: l, ¬ u.beats w = true) : w = winner first l :=
  eq_of_not_beats (not_beats_winner first l w hw) (h _ (winner_mem first l))

/-- `should_apply` is a strict total order on the triples, and so a list of updates has one
winner, in whatever order they come in. -/
theorem shouldApply_one_winner :
    (∀ a : Update, ¬ a.beats a = true) ∧
    (∀ a b c : Update, a.beats b = true → b.beats c = true → a.beats c = true) ∧
    (∀ a b : Update, a ≠ b → (a.beats b = true ↔ ¬ b.beats a = true)) ∧
    ∀ (first first' : Update) (l l' : List Update), (first :: l).Perm (first' :: l') →
      winner first l = winner first' l' := by
  refine ⟨beats_irrefl, fun _ _ _ => beats_trans, ?_, ?_⟩
  · intro a b hne
    refine ⟨beats_asymm, fun hba => ?_⟩
    by_contra hab
    exact hne (eq_of_not_beats hab hba)
  · intro first first' l l' hp
    apply eq_winner
    · exact hp.mem_iff.mp (winner_mem first l)
    · intro u hu
      exact not_beats_winner first l u (hp.mem_iff.mpr hu)

end Update

end HermesCluster
