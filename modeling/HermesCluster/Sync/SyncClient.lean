import Mathlib.Data.List.Basic

/-!
# `SyncClient`

`send_batch` of `hermes_cluster/sync/__init__.py`: a batch is posted up to `_max_retries`
times, until a response below 300 comes back.  What the peer and the network answer is an
argument of the model; the request itself, the waiting between attempts and the logging
are left out.

* `sendBatch_iff`: a send succeeds exactly when one of its attempts is accepted.
-/

namespace HermesCluster

/-- The base URL of a peer. -/
abbrev Endpoint := String

/-- What one `client.post` comes to: a status below 300, another status, an exception. -/
inductive Attempt | accepted | refused | exception
deriving DecidableEq, Repr

/-- `SyncClient._stats`. -/
structure ClientStats where
  sent : Nat := 0
  failed : Nat := 0
  retries : Nat := 0
deriving DecidableEq, Repr

structure SyncClient where
  maxRetries : Nat := 2
  stats : ClientStats := {}
deriving DecidableEq, Repr

namespace SyncClient

def countSent (c : SyncClient) : SyncClient :=
  { c with stats := { c.stats with sent := c.stats.sent + 1 } }

def countFailed (c : SyncClient) : SyncClient :=
  { c with stats := { c.stats with failed := c.stats.failed + 1 } }

def countRetry (c : SyncClient) : SyncClient :=
  { c with stats := { c.stats with retries := c.stats.retries + 1 } }

/-- The loop of `send_batch` at the given attempt, with so many attempts left.  An
exception is counted as a retry when another attempt follows, a refusal never is. -/
def sendFrom (outcome : Nat → Attempt) (attempt : Nat) : Nat → SyncClient → Bool × SyncClient
  | 0, c => (false, c.countFailed)
  | left + 1, c =>
    match outcome attempt with
    | .accepted => (true, c.countSent)
    | .refused => sendFrom outcome (attempt + 1) left c
    | .exception =>
      sendFrom outcome (attempt + 1) left (if attempt < c.maxRetries then c.countRetry else c)

/-- `send_batch`, `outcome k` being what attempt `k` comes to. -/
def sendBatch (c : SyncClient) (outcome : Nat → Attempt) : Bool × SyncClient :=
  sendFrom outcome 1 c.maxRetries c

variable {outcome : Nat → Attempt} {c : SyncClient}

theorem maxRetries_sendFrom (attempt left : Nat) :
    (sendFrom outcome attempt left c).2.maxRetries = c.maxRetries := by
  induction left generalizing attempt c with
  | zero => rfl
  | succ left ih =>
    rw [sendFrom]
    cases outcome attempt with
    | accepted => rfl
    | refused => exact ih (attempt + 1)
    | exception =>
      show (sendFrom outcome (attempt + 1) left _).2.maxRetries = c.maxRetries
      rw [ih (attempt + 1)]
      split <;> rfl

theorem sendFrom_iff (attempt left : Nat) :
    (sendFrom outcome attempt left c).1 = true ↔
      ∃ k, attempt ≤ k ∧ k < attempt + left ∧ outcome k = .accepted := by
  induction left generalizing attempt c with
  | zero =>
    refine iff_of_false (fun h => by cases h) ?_
    rintro ⟨k, hk, hlt, -⟩
    omega
  | succ left ih =>
    -- a first attempt that is not accepted leaves the question to the ones after it
    have hnext (hne : outcome attempt ≠ .accepted) :
        (∃ k, attempt + 1 ≤ k ∧ k < attempt + 1 + left ∧ outcome k = .accepted) ↔
          ∃ k, attempt ≤ k ∧ k < attempt + (left + 1) ∧ outcome k = .accepted := by
      refine exists_congr fun k => ⟨?_, ?_⟩
      · intro ⟨hk, hlt, ho⟩
        exact ⟨by omega, by omega, ho⟩
      · intro ⟨hk, hlt, ho⟩
        have : k ≠ attempt := fun h => hne (h ▸ ho)
        exact ⟨by omega, by omega, ho⟩
    rw [sendFrom]
    cases ho : outcome attempt with
    | accepted => exact iff_of_true rfl ⟨attempt, Nat.le_refl _, by omega, ho⟩
    | refused => exact (ih (attempt + 1)).trans (hnext (by rw [ho]; decide))
    | exception => exact (ih (attempt + 1)).trans (hnext (by rw [ho]; decide))

@[simp] theorem maxRetries_sendBatch :
    (c.sendBatch outcome).2.maxRetries = c.maxRetries := maxRetries_sendFrom 1 c.maxRetries

/-- A send succeeds exactly when one of its attempts is accepted. -/
theorem sendBatch_iff :
    (c.sendBatch outcome).1 = true ↔ ∃ k, 1 ≤ k ∧ k ≤ c.maxRetries ∧ outcome k = .accepted := by
  rw [sendBatch, sendFrom_iff]
  refine exists_congr fun k => and_congr_right fun _ => and_congr_left fun _ => ?_
  omega

end SyncClient

end HermesCluster
