import RespClient.Retry.Backoff
import RespClient.Failure

/-!
# Retry policies

A policy says which kinds of failures are worth another try, how often, and after
which delays. A count runs along with a history of failures and successes.
-/

namespace RespClient

/-- A retry policy. -/
structure RetryPolicy where
  backoff : Backoff
  maxRetries : Nat
  retryable : List FailureKind := [.connection, .timeout]
  deriving Repr

/-- What a count of failures takes note of. -/
inductive RetryEvent where
  | failed (e : Failure)
  | succeeded
  deriving DecidableEq, Repr

namespace RetryPolicy

/-- No second try. -/
def never : RetryPolicy :=
  { backoff := .none, maxRetries := 0 }

/-- Three more tries with jitter. -/
def standard : RetryPolicy :=
  { backoff := .standard, maxRetries := 3 }

/-- Is the failure worth another try? -/
def isRetryable (p : RetryPolicy) (e : Failure) : Bool :=
  p.retryable.contains e.kind

/-- Takes note of a failure after `failures` others in a row. If another try is
due, gives the delay before it. -/
def recordFailure (p : RetryPolicy) (failures : Nat) (e : Failure) (words : WordSource) :
    Option Nat × Nat × WordSource :=
  if !p.isRetryable e || p.maxRetries ≤ failures then (none, failures, words)
  else
    let (delay, words) := p.backoff.delay failures words
    (some delay, failures + 1, words)

/-- Another try is due after a failure that is worth it, while the policy allows more. -/
theorem recordFailure_of_due {p : RetryPolicy} {failures : Nat} {e : Failure}
    (hretry : p.isRetryable e = true) (hmore : failures < p.maxRetries) (words : WordSource) :
    p.recordFailure failures e words =
      (some (p.backoff.delay failures words).1, failures + 1, (p.backoff.delay failures words).2) := by
  rw [recordFailure, hretry, decide_eq_false (Nat.not_le.mpr hmore)]
  rfl

theorem recordFailure_of_not_due {p : RetryPolicy} {failures : Nat} {e : Failure}
    (h : ¬(p.isRetryable e = true ∧ failures < p.maxRetries)) (words : WordSource) :
    p.recordFailure failures e words = (none, failures, words) := by
  have hlast : (!p.isRetryable e || decide (p.maxRetries ≤ failures)) = true := by
    rw [Bool.or_eq_true, Bool.not_eq_true', decide_eq_true_iff, ← Nat.not_lt, ← Bool.not_eq_true]
    exact Decidable.not_and_iff_not_or_not.mp h
  rw [recordFailure, if_pos hlast]

/-- Takes note of what happened after `failures` failures in a row. A success ends the row. -/
def record (p : RetryPolicy) (failures : Nat) (event : RetryEvent) (words : WordSource) :
    Option Nat × Nat × WordSource :=
  match event with
  | .failed e => p.recordFailure failures e words
  | .succeeded => (none, 0, words)

end RetryPolicy

end RespClient
