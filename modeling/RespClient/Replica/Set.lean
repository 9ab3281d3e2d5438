import RespClient.Node.Address
import RespClient.Retry.Backoff

/-!
# Replica sets

A replica set is a master with its replicas, and the one of them that is active:
the master at first. It is empty until a master is known.
-/

namespace RespClient

/-- A master, its replicas and the active node. -/
structure ReplicaSet where
  master : Option Node := none
  replicas : List Node := []
  current : Option Node := none
  deriving DecidableEq, Repr

namespace ReplicaSet

/-- The set without a master. -/
def empty : ReplicaSet := {}

/-- A set whose master is active. -/
def ofMaster (master : Node) (replicas : List Node) : ReplicaSet :=
  ⟨some master, replicas, some master⟩

/-- The master, then the replicas. -/
def members (s : ReplicaSet) : List Node :=
  s.master.toList ++ s.replicas

/-- Is the node a member? -/
def contains (s : ReplicaSet) (node : Node) : Bool :=
  s.members.any (·.same node)

/-- Is no master known? -/
def isEmpty (s : ReplicaSet) : Bool :=
  s.master.isNone

/-- Makes a member the active node. -/
def switchTo (s : ReplicaSet) (node : Node) : Except Failure ReplicaSet :=
  match s.members.find? (·.same node) with
  | some found => .ok { s with current := some found }
  | none => .error (.invalidArgument (node.text ++ " is not a member of the replica set"))

/-- Makes the master the active node. -/
def switchToMaster (s : ReplicaSet) : Except Failure ReplicaSet :=
  match s.master with
  | some master => .ok { s with current := some master }
  | none => .error (.invalidArgument "replica set has no master")

/-- Draws a number below `n`, which is positive and below `2 ^ 32`. Half a word
times `n` has the number in its upper half; a word is drawn again when its lower
half shows that some numbers would come up more often than others. Once the words
have run out the number is zero. -/
def drawBelow (n : Nat) : WordSource → Nat × WordSource
  | [] => (0, [])
  | w :: rest =>
    let zone := n * 2 ^ (31 - n.log2) - 1
    let m := w.toNat % 2 ^ 32 * n
    if m % 2 ^ 32 ≤ zone then (m / 2 ^ 32, rest) else drawBelow n rest

/-- Makes a replica the active node, chosen at random; without replicas it is the
master. -/
def switchToReplica (s : ReplicaSet) (words : WordSource) :
    Except Failure (ReplicaSet × Node) × WordSource :=
  match s.replicas with
  | [] =>
    match s.master with
    | some master => (.ok ({ s with current := some master }, master), words)
    | none => (.error (.invalidArgument "replica set has no master"), words)
  | first :: rest =>
    let (i, words) := drawBelow (rest.length + 1) words
    let chosen := (first :: rest).getD i first
    (.ok ({ s with current := some chosen }, chosen), words)

end ReplicaSet

end RespClient
