import RespClient.Ring.Points

/-!
# Consistent-hash rings

Members with weights share a circle of points. The ring has about `base` points
for each member, divided among the members by weight. A key belongs to the member
that owns the first point at or after the key's own, going round. Where members
contribute the same point, the earliest member owns it.
-/

namespace RespClient

/-- A ring: its members in order of their first insertion, with positive weights,
and the points that they own in ascending order. -/
structure Ring where
  base : Nat := 160
  members : List (Node × Nat) := []
  owned : List (UInt32 × Node) := []

namespace Ring

/-- The ring without members. -/
def empty (base : Nat := 160) : Ring :=
  { base }

/-- The weights of all members together. -/
def totalWeight (members : List (Node × Nat)) : Nat :=
  members.foldl (fun total member => total + member.2) 0

/-- The number of virtual nodes of a member, each of which has four points. The product
is counted in 64 bits. -/
def virtualCount (base : Nat) (members : List (Node × Nat)) (weight : Nat) : Nat :=
  weight * members.length * base % 2 ^ 64 / (totalWeight members * 4)

/-- The points that a member contributes, in order of the virtual nodes. -/
def contributed (count : Nat) (node : Node) : List (UInt32 × Node) :=
  (List.range count).flatMap fun i => (points node.text i).map fun p => (p, node)

/-- The points of all members, in order of the members. -/
def allContributed (base : Nat) (members : List (Node × Nat)) : List (UInt32 × Node) :=
  members.flatMap fun (node, weight) => contributed (virtualCount base members weight) node

/-- Drops the entries in front that have the point `p`, and of the others all but
the first with each point. -/
def laterPoints (p : UInt32) : List (UInt32 × Node) → List (UInt32 × Node)
  | [] => []
  | entry :: rest =>
    if entry.1 = p then laterPoints p rest else entry :: laterPoints entry.1 rest

/-- Keeps the first of several entries in a row with the same point. -/
def firstOfEach : List (UInt32 × Node) → List (UInt32 × Node)
  | [] => []
  | entry :: rest => entry :: laterPoints entry.1 rest

/-- Who owns which point. Sorting keeps the order of equal points, so the first
member to contribute a point owns it. -/
def layout (base : Nat) (members : List (Node × Nat)) : List (UInt32 × Node) :=
  firstOfEach ((allContributed base members).mergeSort fun a b => a.1 ≤ b.1)

/-- The ring with other members. -/
def withMembers (r : Ring) (members : List (Node × Nat)) : Ring :=
  { r with members, owned := layout r.base members }

/-- Gives a member another weight, or adds it behind the others. A member that is
there already keeps its place and its label. -/
def reweigh (node : Node) (weight : Nat) : List (Node × Nat) → List (Node × Nat)
  | [] => [(node, weight)]
  | (m, w) :: rest =>
    if m.same node then (m, weight) :: rest else (m, w) :: reweigh node weight rest

/-- Adds a member or changes its weight. -/
def add (r : Ring) (node : Node) (weight : Nat) : Except Failure Ring :=
  if weight = 0 then
    .error (.invalidArgument ("ring weight for " ++ node.text ++ " must be positive"))
  else .ok (r.withMembers (reweigh node weight r.members))

/-- Is the node a member? -/
def hasMember (r : Ring) (node : Node) : Bool :=
  r.members.any fun (m, _) => m.same node

/-- Removes a member; nothing happens if it is none. -/
def remove (r : Ring) (node : Node) : Ring :=
  if r.hasMember node then r.withMembers (r.members.filter fun (m, _) => !m.same node) else r

/-- The owner of the first point at or after a point, going round. -/
def ownerOf (r : Ring) (point : UInt32) : Except Failure Node :=
  match (r.owned.find? fun entry => point ≤ entry.1).or r.owned.head? with
  | some (_, node) => .ok node
  | none => .error .emptyRing

/-- The owner of a key. -/
def get (r : Ring) (key : Bytes) : Except Failure Node :=
  r.ownerOf (keyPoint key)

end Ring

end RespClient
