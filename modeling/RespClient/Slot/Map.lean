import RespClient.Slot.Key
import RespClient.Node.Address

/-!
# Slot maps

A slot map says which node owns each slot. It is a list of ranges with one owner
each, in ascending order and apart from each other; ranges that touch have
different owners. A slot outside all ranges has no owner.

An assignment first cuts the assigned slots out of the ranges there and then puts
the new range in its place, where it grows together with a neighbour of the same
owner. Of two ranges that grow together the left one keeps its node, label
included.
-/

namespace RespClient

/-- The slots `first` to `last` and their owner. -/
structure SlotRange where
  first : Nat
  last : Nat
  node : Node
  deriving DecidableEq, Repr

namespace SlotRange

/-- Does the range hold the slot? -/
def contains (r : SlotRange) (slot : Nat) : Bool :=
  r.first ≤ slot && slot ≤ r.last

/-- The number of slots. -/
def size (r : SlotRange) : Nat :=
  r.last - r.first + 1

/-- Does `r` end just before `s` begins, with the same owner? -/
def meets (r s : SlotRange) : Bool :=
  r.last + 1 == s.first && r.node.same s.node

/-- What is left of a range without the slots `a` to `b`. -/
def cut (a b : Nat) (r : SlotRange) : List SlotRange :=
  if r.last < a ∨ b < r.first then [r]
  else
    (if r.first < a then [{ r with last := a - 1 }] else []) ++
      (if b < r.last then [{ r with first := b + 1 }] else [])

/-- Puts a range in front of others; it grows together with the first of them if
they meet. -/
def attach (r : SlotRange) : List SlotRange → List SlotRange
  | [] => [r]
  | s :: rest => if r.meets s then { r with last := s.last } :: rest else r :: s :: rest

/-- Puts a range in its place among others in ascending order. It grows together with
its neighbours on both sides if they meet. -/
def place (r : SlotRange) (rs : List SlotRange) : List SlotRange :=
  let before := rs.takeWhile (·.first < r.first)
  let behind := r.attach (rs.dropWhile (·.first < r.first))
  match before.getLast? with
  | some s => before.dropLast ++ s.attach behind
  | none => behind

/-- Same slots, same owner. -/
def same (r s : SlotRange) : Bool :=
  r.first == s.first && r.last == s.last && r.node.same s.node

end SlotRange

/-- A slot map. -/
structure SlotMap where
  ranges : List SlotRange := []
  deriving DecidableEq, Repr

namespace SlotMap

/-- The map in which no slot has an owner. -/
def empty : SlotMap := {}

/-- Refuses what is no range of slots. -/
def checkRange (a b : Nat) : Except Failure Unit :=
  if a ≤ b ∧ b ≤ Slot.last then .ok ()
  else
    .error (.invalidArgument ("invalid slot range " ++ Numeral.natText a ++ "..=" ++
      Numeral.natText b ++ " (expected start <= end <= " ++ Numeral.natText Slot.last ++ ")"))

/-- Cuts the slots `a` to `b` out. -/
def carve (m : SlotMap) (a b : Nat) : SlotMap :=
  ⟨m.ranges.flatMap (SlotRange.cut a b)⟩

/-- Makes a node the owner of the slots `a` to `b`. -/
def assign (m : SlotMap) (a b : Nat) (node : Node) : Except Failure SlotMap :=
  match checkRange a b with
  | .error e => .error e
  | .ok () => .ok ⟨SlotRange.place ⟨a, b, node⟩ (m.carve a b).ranges⟩

/-- Makes a node the owner of one slot. -/
def assignSlot (m : SlotMap) (slot : Nat) (node : Node) : Except Failure SlotMap :=
  m.assign slot slot node

/-- Takes the slots `a` to `b` from their owners. -/
def remove (m : SlotMap) (a b : Nat) : Except Failure SlotMap :=
  match checkRange a b with
  | .error e => .error e
  | .ok () => .ok (m.carve a b)

/-- The owner of a slot. Only the last range that begins at or before the slot can
hold it. -/
def lookup (m : SlotMap) (slot : Nat) : Option Node :=
  match (m.ranges.takeWhile (·.first ≤ slot)).getLast? with
  | some r => if r.contains slot then some r.node else none
  | none => none

/-- The owner of a key's slot. -/
def nodeFor (m : SlotMap) (key : Bytes) : Except Failure Node :=
  match m.lookup (Slot.ofKey key) with
  | some node => .ok node
  | none => .error (.noRoute (Slot.ofKey key))

/-- Adds a node behind others unless it is among them. -/
def addOnce (nodes : List Node) (node : Node) : List Node :=
  if nodes.any (·.same node) then nodes else nodes ++ [node]

/-- The owners, each once, by their lowest slots. -/
def nodes (m : SlotMap) : List Node :=
  m.ranges.foldl (fun nodes r => addOnce nodes r.node) []

/-- Do the ranges cover everything from `next` to the last slot? -/
def coversFrom (next : Nat) : List SlotRange → Bool
  | [] => next == Slot.count
  | r :: rest => r.first == next && coversFrom (r.last + 1) rest

/-- Has every slot an owner? -/
def isFullyCovered (m : SlotMap) : Bool :=
  coversFrom 0 m.ranges

/-- The number of slots that have an owner. -/
def assignedSlots (m : SlotMap) : Nat :=
  m.ranges.foldl (fun total range => total + range.size) 0

/-- Has no slot an owner? -/
def isEmpty (m : SlotMap) : Bool :=
  m.ranges.isEmpty

/-- Are the ranges and their owners the same? -/
def same (m n : SlotMap) : Bool :=
  m.ranges.length == n.ranges.length && (m.ranges.zip n.ranges).all fun (r, s) => r.same s

end SlotMap

end RespClient
