import RespClient.Failure

/-!
# Actions

An action takes a state and leaves a state behind, whatever becomes of it: it
gives a value, it fails, or it stalls, which means that it never comes back.
Nothing that is still to come can complete it then, or the program itself has
stopped in it. A failed or stalled action keeps the changes it made.
-/

namespace RespClient

/-- What becomes of an action. -/
inductive Outcome (α : Type) where
  | ok (value : α)
  | error (failure : Failure)
  | stalled
  deriving DecidableEq, Repr

/-- An action on states of type `σ` with results of type `α`. -/
def Action (σ α : Type) : Type :=
  σ → Outcome α × σ

namespace Action

variable {σ ρ α β : Type}

/-- Runs an action. -/
def run (x : Action σ α) (s : σ) : Outcome α × σ :=
  x s

/-- Gives a value and changes nothing. -/
def give (a : α) : Action σ α :=
  fun s => (.ok a, s)

/-- Runs an action and, if it gave a value, the one that follows it. -/
def andThen (x : Action σ α) (f : α → Action σ β) : Action σ β := fun s =>
  match x s with
  | (.ok a, s) => f a s
  | (.error e, s) => (.error e, s)
  | (.stalled, s) => (.stalled, s)

instance : Monad (Action σ) where
  pure := give
  bind := andThen

/-- Fails and changes nothing. -/
def fail (e : Failure) : Action σ α :=
  fun s => (.error e, s)

/-- Stalls. -/
def stall : Action σ α :=
  fun s => (.stalled, s)

/-- The state. -/
def get : Action σ σ :=
  fun s => (.ok s, s)

/-- What a function says of the state. -/
def view (f : σ → α) : Action σ α :=
  fun s => (.ok (f s), s)

/-- Changes the state. -/
def update (f : σ → σ) : Action σ Unit :=
  fun s => (.ok (), f s)

/-- Gives a result that is already known. -/
def ofExcept : Except Failure α → Action σ α
  | .ok a => give a
  | .error e => fail e

/-- Turns a failure into a value; a stalled action stays stalled. -/
def attempt (x : Action σ α) : Action σ (Except Failure α) := fun s =>
  match x s with
  | (.ok a, s) => (.ok (.ok a), s)
  | (.error e, s) => (.ok (.error e), s)
  | (.stalled, s) => (.stalled, s)

/-- Runs an action on a part of the state. -/
def within (part : σ → ρ) (put : ρ → σ → σ) (x : Action ρ α) : Action σ α := fun s =>
  match x (part s) with
  | (r, p) => (r, put p s)

end Action

end RespClient
