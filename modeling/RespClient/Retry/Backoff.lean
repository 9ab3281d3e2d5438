import RespClient.Decimal.Binary64

/-!
# Backoff

How long to wait after so many failures in a row: not at all, always the same, or
twice as long each time up to a cap, possibly shortened at random. Delays are whole
nanoseconds. Growth is counted in 128 bits and stays at the largest number once it
is reached; a delay that 64 bits cannot count is replaced by the cap.
-/

namespace RespClient

/-- Random words that are drawn one after another; when they run out, the words
are zero. -/
abbrev WordSource := List UInt64

/-- Draws a word. -/
def WordSource.draw : WordSource → UInt64 × WordSource
  | [] => (0, [])
  | w :: rest => (w, rest)

/-- A way to choose delays. -/
inductive Backoff where
  | none
  | equal (base : Nat)
  | exponential (base cap : Nat)
  /-- Exponential, and shortened to a random part. -/
  | jitter (base cap : Nat)
  deriving DecidableEq, Repr

namespace Backoff

/-- The largest number of 128 bits. -/
def maxWide : Nat := 2 ^ 128 - 1

/-- `base` doubled `failures` times. -/
def grown (base failures : Nat) : Nat :=
  min (base * min (2 ^ min failures 128) maxWide) maxWide

/-- What is never longer than `cap` and fits into 64 bits otherwise. -/
def limit (nanos cap : Nat) : Nat :=
  if cap ≤ nanos then cap else if nanos < 2 ^ 64 then nanos else cap

/-- A random part of a delay: the delay as a double, times a double below one that
has the upper 53 bits of the word as its digits after the point, rounded and then
cut down to a whole number. -/
def part (nanos : Nat) (word : UInt64) : Nat :=
  Binary64.roundNat (Binary64.roundNat nanos * (word.toNat / 2 ^ 11)) / 2 ^ 53

/-- The delay after so many failures. Only jitter draws a word. -/
def delay (b : Backoff) (failures : Nat) (words : WordSource) : Nat × WordSource :=
  match b with
  | .none => (0, words)
  | .equal base => (base, words)
  | .exponential base cap => (limit (grown base failures) cap, words)
  | .jitter base cap =>
    let (word, words) := words.draw
    (limit (part (grown base failures) word) cap, words)

/-- Jitter from 8 to 512 milliseconds. -/
def standard : Backoff :=
  .jitter 8000000 512000000

end Backoff

end RespClient
