import RespClient.Text.Character.Class
import RespClient.Text.Character.Composite

/-!
# Composed normal form

Texts that differ only in how their characters are composed of letters and marks have
one normal form. A text is taken apart as far as possible, marks behind one letter are
put in the order of their classes, and then each letter is composed with the marks that
nothing keeps from it.
-/

namespace RespClient.NormalForm

open Character

/-- Takes a character apart, at most so many times. -/
def parts : Nat → Char → List Char
  | 0, c => [c]
  | depth + 1, c =>
    match parts? c with
    | none => [c]
    | some (a, b) => parts depth a ++ [b]

/-- Puts a character in front of a text in which marks are in order. A mark goes behind
those of lower classes. -/
def settle (c : Char) : List Char → List Char
  | [] => [c]
  | d :: rest =>
    if 0 < combiningClass d ∧ combiningClass d < combiningClass c then d :: settle c rest
    else c :: d :: rest

/-- The text taken apart, with its marks in order. No composite has more than four
characters. -/
def decompose (cs : List Char) : List Char :=
  (cs.flatMap (parts 4)).foldr settle []

/-- Composes what follows `letter` and the marks that stay behind it, latest first.
A mark of the class of the one before it is kept from the letter. -/
def composeFrom (letter : Char) (marks : List Char) : List Char → List Char
  | [] => letter :: marks.reverse
  | c :: rest =>
    let reaches := (marks.head?.map combiningClass).all (· < combiningClass c)
    match if reaches then composite? letter c else none with
    | some joined => composeFrom joined marks rest
    | none =>
      if combiningClass c = 0 then letter :: marks.reverse ++ composeFrom c [] rest
      else composeFrom letter (c :: marks) rest

/-- Composes a text that is taken apart. -/
def compose : List Char → List Char
  | [] => []
  | c :: rest => if combiningClass c = 0 then composeFrom c [] rest else c :: compose rest

/-- The normal form of a text. -/
def normalize (cs : List Char) : List Char :=
  compose (decompose cs)

end RespClient.NormalForm
