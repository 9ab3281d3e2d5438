import RespClient.Node.Domain.Folding
import RespClient.Text.Character.Direction
import RespClient.Text.Character.Joining
import RespClient.Text.Punycode

/-!
# Labels of names

The labels of a folded name. One that begins with `xn--` is written in Punycode, and is
judged by what it stands for. A label does not begin with a mark, has invisible joiners
only where they make a difference, and does not change its direction of writing in a
name that has letters from right to left.
-/

namespace RespClient.Domain

open Character

/-- The most characters of a label in Punycode behind `xn--`. -/
def maxCode : Nat := 2000

/-- The most characters of a label that is not all ASCII. -/
def maxLabel : Nat := 1000

/-- Is the character one of ASCII? -/
def isAscii (c : Char) : Bool :=
  c.toNat < 128

/-- Reads what follows `xn--`. It must stand for a label in folded form that is not all
ASCII. -/
def readCode? (code : List Char) : Option (List Char) :=
  if code.isEmpty || code.getLast? == some '-' || maxCode < code.length || !code.all isAscii then
    none
  else (Punycode.read? code).filter fun label => fold? label == some label

/-- Reads a label, which may be written in Punycode. -/
def readLabel? : List Char → Option (List Char)
  | 'x' :: 'n' :: '-' :: '-' :: code => readCode? code
  | label => some label

/-! ## Joiners -/

/-- Is the next letter of a text, marks aside, joined in one of the ways? -/
def meets (ways : List Joining) : List Char → Bool
  | [] => false
  | c :: rest => if joining c = .transparent then meets ways rest else ways.contains (joining c)

/-- May a joiner stand between two parts of a label, the first of them latest first?
Behind a virama each may, and the one that keeps letters apart also between letters
that would be joined. -/
def mayPart (c : Char) (front rest : List Char) : Bool :=
  front.head?.any isVirama ||
    (c == nonJoiner && meets [.both, .behind] front && meets [.both, .before] rest)

/-- Do all joiners stand where they may? The part of the label that was looked at is
latest first. -/
def areJoined (front : List Char) : List Char → Bool
  | [] => true
  | c :: rest =>
    (!(c == nonJoiner || c == joiner) || mayPart c front rest) && areJoined (c :: front) rest

/-- May the characters be a label? -/
def isLabel (label : List Char) : Bool :=
  !label.head?.any isMark && areJoined [] label &&
    (label.all isAscii || label.length ≤ maxLabel)

/-! ## Direction -/

/-- Is the label written all one way? Marks at its end do not count. -/
def isDirected (label : List Char) : Bool :=
  let ds := label.map direction
  let last := (ds.reverse.dropWhile (· == .mark)).head?
  match ds.head? with
  | none => true
  | some .left =>
    ds.all (fun d => d != .right && d != .arabicDigit) &&
      (last == some .left || last == some .digit)
  | some .right =>
    ds.all (· != .left) && last != some .neutral &&
      !(ds.contains .digit && ds.contains .arabicDigit)
  | some _ => false

/-- Is the character one for which the name has to be written all one way? -/
def isTurned (c : Char) : Bool :=
  direction c == .right || direction c == .arabicDigit

/-- May the labels make up a name? -/
def areLabels (labels : List (List Char)) : Bool :=
  labels.all isLabel && (!labels.any (·.any isTurned) || labels.all isDirected)

end RespClient.Domain
