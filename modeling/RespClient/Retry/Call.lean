import RespClient.Retry.Policy
import RespClient.Clock

/-!
# Retried calls

A call tries an operation until it succeeds, until it fails in a way that another
try cannot help, or until the tries that the policy allows are used up. Between
tries it sleeps as long as the policy says. A caller may give up: then no further
try begins.
-/

namespace RespClient.RetryPolicy

variable {σ α : Type} [Timed σ]

/-- Sleeps between two tries. Only a call that heeds its caller wakes up early. -/
def pause (heedful : Bool) (nanos : Nat) : Action σ Unit :=
  Timed.onClock (if heedful then Clock.sleep nanos else Clock.wait (Clock.millis nanos))

/-- Tries an operation that was tried `failures` times, and may be tried `left`
times more after that. The operation is told how many tries came before. -/
def callFrom (p : RetryPolicy) (heedful : Bool) (op : Nat → Action σ α) :
    Nat → Nat → Action σ α
  | left, failures, s =>
    if heedful && (Timed.clock s).isCancelled then (.error .cancelled, s)
    else
      match op failures s with
      | (.error e, s) =>
        match p.recordFailure failures e (Timed.words s), left with
        | (some delay, failures, words), left + 1 =>
          match pause heedful delay (Timed.setWords words s) with
          | (.ok (), s) => callFrom p heedful op left failures s
          | (.error e, s) => (.error e, s)
          | (.stalled, s) => (.stalled, s)
        | _, _ => (.error e, s)
      | other => other

/-- Calls an operation, with as many tries as the policy allows. -/
def call (p : RetryPolicy) (heedful : Bool) (op : Nat → Action σ α) : Action σ α :=
  callFrom p heedful op p.maxRetries 0

end RespClient.RetryPolicy
