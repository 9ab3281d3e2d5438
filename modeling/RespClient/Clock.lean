import RespClient.Action
import RespClient.Retry.Backoff

/-!
# Time

Time is counted in whole milliseconds and passes only while somebody waits. A
clock also knows when the caller gives up, if ever, and up to when the action that
runs may take. What would take longer stalls, and time stops at that deadline.
-/

namespace RespClient

/-- The time, and what bounds waiting. -/
structure Clock where
  now : Nat := 0
  /-- When the caller gives up. -/
  cancelAt : Option Nat := none
  /-- Until when the running action may take. -/
  deadline : Option Nat := none
  deriving Repr

/-- States in which time passes and random words can be drawn. -/
class Timed (σ : Type) where
  clock : σ → Clock
  setClock : Clock → σ → σ
  words : σ → WordSource
  setWords : WordSource → σ → σ

namespace Clock

/-- Has the caller given up? -/
def isCancelled (c : Clock) : Bool :=
  c.cancelAt.any (· ≤ c.now)

/-- The caller gives up, unless it did before. -/
def cancel (c : Clock) : Clock :=
  if c.isCancelled then c else { c with cancelAt := some c.now }

/-- Does the moment lie beyond the deadline? -/
def isBeyond (c : Clock) (moment : Nat) : Bool :=
  c.deadline.any (· < moment)

/-- Waits for what never comes: time goes on to the deadline. -/
def stall {α : Type} : Action Clock α := fun c =>
  (.stalled, { c with now := max c.now (c.deadline.getD c.now) })

/-- Waits until a moment that has not passed. -/
def waitUntil (moment : Nat) : Action Clock Unit := fun c =>
  if c.isBeyond moment then stall c else (.ok (), { c with now := max c.now moment })

/-- Waits for some milliseconds. -/
def wait (millis : Nat) : Action Clock Unit := fun c =>
  waitUntil (c.now + millis) c

/-- From so many seconds on the end of a sleep cannot be told. -/
def maxSeconds : Nat := 2 ^ 63 - 1

/-- Thirty years of 365 days, in milliseconds. -/
def thirtyYears : Nat := 30 * 365 * 24 * 60 * 60 * 1000

/-- How many milliseconds a sleep of some nanoseconds takes, rounded up. A sleep whose
end cannot be told takes thirty years. -/
def millis (nanos : Nat) : Nat :=
  if maxSeconds ≤ nanos / 1000000000 then thirtyYears else (nanos + 999999) / 1000000

/-- Sleeps for some nanoseconds. A sleep that the caller gives up on fails at that
moment. -/
def sleep (nanos : Nat) : Action Clock Unit := fun c =>
  let wake := c.now + millis nanos
  let interrupted := c.cancelAt.filter fun t => t ≤ c.now || t < wake
  match interrupted with
  | none => waitUntil wake c
  | some t =>
    match waitUntil t c with
    | (.ok (), c) => (.error .cancelled, c)
    | other => other

end Clock

namespace Timed

variable {σ : Type} [Timed σ] {α : Type}

/-- Runs an action on the clock. -/
def onClock (x : Action Clock α) : Action σ α :=
  Action.within Timed.clock Timed.setClock x

/-- The time. -/
def now (s : σ) : Nat :=
  (Timed.clock s).now

/-- Sets the deadline. -/
def setDeadline (deadline : Option Nat) (s : σ) : σ :=
  Timed.setClock { Timed.clock s with deadline } s

/-- The earlier of two moments, where none is never. -/
def earlier : Option Nat → Option Nat → Option Nat
  | none, b => b
  | a, none => a
  | some a, some b => some (min a b)

/-- Runs an action for at most so many milliseconds. If it has not ended by then
it fails, unless a deadline that was there before came first. -/
def limited (limit : Option Nat) (endpoint : String) (x : Action σ α) : Action σ α := fun s =>
  match limit with
  | none => x s
  | some millis =>
    let outer := (Timed.clock s).deadline
    let own := Timed.now s + millis
    match x (setDeadline (earlier outer (some own)) s) with
    | (.stalled, t) =>
      (if outer.any (· < own) then .stalled else .error (.timeout endpoint), setDeadline outer t)
    | (r, t) => (r, setDeadline outer t)

end Timed

instance : Timed (Clock × WordSource) where
  clock s := s.1
  setClock c s := (c, s.2)
  words s := s.2
  setWords w s := (s.1, w)

end RespClient
