import RespClient.Node.Domain.ExpansionTable
import RespClient.Node.Domain.FoldingTable
import RespClient.Text.Ascii
import RespClient.Text.Character.Ranges
import RespClient.Text.NormalForm

/-!
# Folding of names

Domain names that differ in case, or in characters that stand for others, are one name.
Its folded form is in normal form and holds no ASCII character that is forbidden.
-/

namespace RespClient.Domain

open Character

/-- An ASCII character that no name may hold. -/
def isForbidden (c : Char) : Bool :=
  c.toNat ≤ 32 || c.toNat == 127 ||
    ['#', '%', '/', ':', '<', '>', '?', '@', '[', '\\', ']', '^', '|'].contains c

/-- The place of a character in a row. -/
def Row.place? (r : Row) (n : Nat) : Option Nat :=
  if r.first ≤ n ∧ n ≤ r.last ∧ (n - r.first) % r.step = 0 then some ((n - r.first) / r.step)
  else none

/-- What a character stands for if that is one other character. For variants of
ideographs this is any ideograph: nothing in a name depends on which. -/
def single? (n : Nat) : Option Nat :=
  if within ideographs n then some 0x4E00
  else
    (rows.findSome? fun r => (r.place? n).map fun place => r.target + r.rise * place).or
      ((singles.find? fun r => r.1 == n).map fun r => r.2)

/-- What a character stands for; none if no name may hold it. -/
def foldChar? (c : Char) : Option (List Char) :=
  let n := c.toNat
  if n < 128 then some [Ascii.lower c]
  else if within refused n then none
  else if within ignored n then some []
  else
    match single? n with
    | some target => some [Char.ofNat target]
    | none =>
      let isOf := fun r : Nat × List Nat => r.1 == n
      match (ligatures.find? isOf).or (expansions.find? isOf) with
      | some (_, targets) => some (targets.map Char.ofNat)
      | none => some [c]

/-- The folded form of a name, if it may be one. -/
def fold? (cs : List Char) : Option (List Char) := do
  let folded ← cs.mapM foldChar?
  let name := NormalForm.normalize folded.flatten
  if name.any isForbidden then none else some name

end RespClient.Domain
