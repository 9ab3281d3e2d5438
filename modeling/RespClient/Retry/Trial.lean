import RespClient.Retry.Call

/-!
# Trials

A trial runs a call against an operation whose outcomes are planned: each try
takes some time, may make the caller give up, and then fails or succeeds. The
trial keeps the moments at which tries began.
-/

namespace RespClient

/-- What is planned for one try. -/
structure Try where
  takes : Nat := 0
  cancels : Bool := false
  failure : Option Failure := none

/-- A trial under way. -/
structure Trial where
  clock : Clock := {}
  words : WordSource := []
  plan : List Try := []
  started : List Nat := []

namespace Trial

instance : Timed Trial where
  clock t := t.clock
  setClock c t := { t with clock := c }
  words t := t.words
  setWords w t := { t with words := w }

/-- The planned operation: the try after `n` others. Tries without a plan succeed
at once. A try that succeeds gives its number. -/
def operation (n : Nat) : Action Trial Nat := do
  let plan ← Action.view fun t => t.plan.getD n {}
  Action.update fun t => { t with started := t.started ++ [t.clock.now] }
  Timed.onClock (Clock.wait plan.takes)
  if plan.cancels then Action.update fun t => { t with clock := t.clock.cancel }
  match plan.failure with
  | some e => Action.fail e
  | none => pure n

end Trial

end RespClient
