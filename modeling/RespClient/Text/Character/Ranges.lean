/-!
# Ranges of characters

Properties of characters are tables of ranges of code points, with both ends included
and in ascending order. A range may run over code points that no text in question
holds, where the property is the same on both sides of them. ASCII is not in the
tables.
-/

namespace RespClient.Character

/-- Is the code point in one of the ranges? Those behind it need no look. -/
def within : List (Nat × Nat) → Nat → Bool
  | [], _ => false
  | (first, last) :: rest, n => first ≤ n && (n ≤ last || within rest n)

/-- The value that the ranges give to a code point, if they give one. -/
def valueAt? (ranges : List (Nat × Nat × Nat)) (n : Nat) : Option Nat :=
  (ranges.find? fun r => r.1 ≤ n && n ≤ r.2.1).map fun r => r.2.2

end RespClient.Character
