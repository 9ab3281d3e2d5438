import RespClient.Ring.Basic
import RespClient.Pool
import RespClient.Retry.Call

/-!
# Sharding

Independent servers share the keys by a ring. Each try of a command goes to the
owner of its key at that moment.
-/

namespace RespClient

/-- Servers on a ring, and the links to them. -/
structure Sharding (τ : Type := MemoryLink) where
  ring : Ring := {}
  pool : Pool τ := {}
  retry : RetryPolicy := .standard

namespace Sharding

variable {τ : Type}

instance : Timed (Sharding τ) where
  clock s := Timed.clock s.pool
  setClock c s := { s with pool := Timed.setClock c s.pool }
  words s := Timed.words s.pool
  setWords w s := { s with pool := Timed.setWords w s.pool }

/-- Runs an action on the pool. -/
def onPool {α : Type} (x : Action (Pool τ) α) : Action (Sharding τ) α :=
  Action.within Sharding.pool (fun p s => { s with pool := p }) x

/-- Adds a server or changes its weight. -/
def add (node : Node) (weight : Nat) : Action (Sharding τ) Unit := do
  let ring ← Action.view Sharding.ring
  let ring ← Action.ofExcept (ring.add node weight)
  Action.update fun s => { s with ring }

/-- The owner of a key. -/
def nodeFor (key : Bytes) : Action (Sharding τ) Node := do
  let ring ← Action.view Sharding.ring
  Action.ofExcept (ring.get key)

variable [Transport τ]

/-- Removes a server and gives up the link to it. Says whether there was one. -/
def remove (node : Node) : Action (Sharding τ) Bool := fun s =>
  if s.ring.hasMember node then
    (.ok true, { s with ring := s.ring.remove node, pool := s.pool.evict node.toAddress })
  else (.ok false, s)

/-- Sends a command to the owner of a key, once. -/
def executeOnce (key : Bytes) (c : Command) : Action (Sharding τ) Frame := do
  let node ← nodeFor key
  onPool (Pool.request node.toAddress c)

/-- Sends a command to the owner of a key. -/
def execute (key : Bytes) (c : Command) : Action (Sharding τ) Frame := do
  let policy ← Action.view Sharding.retry
  policy.call false fun _ => executeOnce key c

end Sharding

end RespClient
