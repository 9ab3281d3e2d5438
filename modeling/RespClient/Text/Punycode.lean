/-!
# Punycode

A label of ASCII letters, digits and hyphens that stands for other characters: the
plain characters come first, and behind the last hyphen follow numbers, in digits of
base 36, that say which character comes next and where it goes.
-/

namespace RespClient.Punycode

/-- The value of a digit in base 36, of either case. -/
def digit? (c : Char) : Option Nat :=
  let n := c.toNat
  if 97 ≤ n ∧ n ≤ 122 then some (n - 97)
  else if 65 ≤ n ∧ n ≤ 90 then some (n - 65)
  else if 48 ≤ n ∧ n ≤ 57 then some (n - 22)
  else none

/-- A digit below this ends a number. It depends on the digit's place, which counts in
steps of 36. -/
def threshold (place bias : Nat) : Nat :=
  min 26 (max 1 (place - bias))

/-- Divides a distance by 35 until it is small, and counts how often in steps of 36. -/
def shrink (distance : Nat) : Nat × Nat :=
  if distance ≤ 455 then (distance, 0)
  else
    let (small, steps) := shrink (distance / 35)
    (small, steps + 36)
termination_by distance

/-- The bias for the next number: large where the last distance was. -/
def adapt (distance size : Nat) (isFirst : Bool) : Nat :=
  let halved := if isFirst then distance / 700 else distance / 2
  let (small, steps) := shrink (halved + halved / size)
  steps + 36 * small / (small + 38)

/-- Reads a number, its lowest digit first, and adds it to `sum`. -/
def readNumber? (bias : Nat) :
    List Char → Nat → Nat → Nat → Option (Nat × List Char)
  | [], _, _, _ => none
  | c :: rest, place, weight, sum =>
    match digit? c with
    | none => none
    | some d =>
      let limit := threshold place bias
      if d < limit then some (sum + d * weight, rest)
      else readNumber? bias rest (place + 36) (weight * (36 - limit)) (sum + d * weight)

theorem length_of_readNumber? {bias : Nat} {cs rest : List Char} {place weight sum n : Nat}
    (h : readNumber? bias cs place weight sum = some (n, rest)) : rest.length < cs.length := by
  induction cs generalizing place weight sum with
  | nil => simp [readNumber?] at h
  | cons c tail ih =>
    rw [readNumber?] at h
    split at h
    · simp at h
    · simp only at h
      split at h
      · obtain ⟨-, rfl⟩ := Prod.mk.inj (Option.some.inj h)
        simp
      · exact Nat.lt_succ_of_lt (ih h)

/-- Puts the characters that the numbers tell into a label, from the character `code`
and the place `at` on. -/
def insertFrom (bias code place : Nat) (label : List Char) : List Char → Option (List Char)
  | [] => some label
  | c :: rest =>
    match _h : readNumber? bias (c :: rest) 36 1 place with
    | none => none
    | some (sum, rest) =>
      let size := label.length + 1
      let code := code + sum / size
      if code.isValidChar then
        insertFrom (adapt (sum - place) size (place == 0)) code (sum % size + 1)
          (label.insertIdx (sum % size) (Char.ofNat code)) rest
      else none
termination_by numbers => numbers.length
decreasing_by exact length_of_readNumber? _h

/-- Reads a label. -/
def read? (cs : List Char) : Option (List Char) :=
  match cs.reverse.span (· != '-') with
  | (numbers, _ :: c :: plain) => insertFrom 72 128 0 (c :: plain).reverse numbers.reverse
  | _ => insertFrom 72 128 0 [] cs

end RespClient.Punycode
