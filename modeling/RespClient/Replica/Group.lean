import RespClient.Replica.Discovery
import RespClient.Pool
import RespClient.Retry.Call

/-!
# Replica groups

A client of one service sends its commands to the active node of a replica set.
The set is discovered when it is first needed, and again after the active node
failed. If that is in vain, the client goes on with the set it knows.
-/

namespace RespClient

/-- How far the replica set can be trusted. -/
inductive GroupState where
  /-- No set was discovered yet. -/
  | unresolved
  /-- The set is good as far as is known. -/
  | resolved
  /-- The set may be out of date. -/
  | stale
  deriving DecidableEq, Repr

/-- A client of one service. -/
structure ReplicaGroup (τ : Type := MemoryLink) where
  discovery : Discovery
  state : GroupState := .unresolved
  set : ReplicaSet := {}
  pool : Pool τ := {}
  retry : RetryPolicy := .standard

namespace ReplicaGroup

variable {τ : Type}

instance : Timed (ReplicaGroup τ) where
  clock g := Timed.clock g.pool
  setClock c g := { g with pool := Timed.setClock c g.pool }
  words g := Timed.words g.pool
  setWords w g := { g with pool := Timed.setWords w g.pool }

/-- Runs an action on the pool. -/
def onPool {α : Type} (x : Action (Pool τ) α) : Action (ReplicaGroup τ) α :=
  Action.within ReplicaGroup.pool (fun p g => { g with pool := p }) x

/-- Runs an action on the sentinels. -/
def onDiscovery {α : Type} (x : Action (Discovery × Network τ) α) : Action (ReplicaGroup τ) α :=
  Action.within (fun g => (g.discovery, g.pool.network))
    (fun s g => { g with discovery := s.1, pool := { g.pool with network := s.2 } }) x

/-- Takes a set that was discovered and drops the links to all other nodes. -/
def resolve (set : ReplicaSet) (g : ReplicaGroup τ) : ReplicaGroup τ :=
  { g with set, state := .resolved, pool := g.pool.retain set.members }

/-- A set that was good may be out of date. -/
def markStale (g : ReplicaGroup τ) : ReplicaGroup τ :=
  if g.state = .resolved then { g with state := .stale } else g

variable [Transport τ]

/-- Discovers the set. -/
def refresh (heedful : Bool) : Action (ReplicaGroup τ) Unit := do
  match ← Action.attempt (onDiscovery (Discovery.discover heedful)) with
  | .ok set => Action.update (resolve set)
  | .error e =>
    Action.update markStale
    Action.fail e

/-- Discovers the set unless it is good. -/
def check (heedful : Bool) : Action (ReplicaGroup τ) Unit := do
  if (← Action.view ReplicaGroup.state) = .resolved then pure () else refresh heedful

/-- Can a client that knows an active node go on with it after this failure of
discovery? -/
def isBearable (e : Failure) : Bool :=
  e.kind == .topology || e.breaksLink

/-- Makes sure that there is an active node, though it may be out of date. -/
def ensureRoutable : Action (ReplicaGroup τ) Unit := do
  match ← Action.attempt (check false) with
  | .ok () => pure ()
  | .error e =>
    let g ← Action.get
    if isBearable e && g.state == .stale && g.set.current.isSome then pure () else Action.fail e

/-- The active node. -/
def current : Action (ReplicaGroup τ) Node := do
  ensureRoutable
  let g ← Action.get
  match g.set.current with
  | some node => pure node
  | none => Action.fail (.masterNotFound g.discovery.service)

/-- Makes a member the active node. -/
def switchTo (node : Node) : Action (ReplicaGroup τ) Unit := do
  ensureRoutable
  let set ← Action.view ReplicaGroup.set
  let set ← Action.ofExcept (set.switchTo node)
  Action.update fun g => { g with set }

/-- Makes the master the active node. -/
def switchToMaster : Action (ReplicaGroup τ) Unit := do
  ensureRoutable
  let set ← Action.view ReplicaGroup.set
  let set ← Action.ofExcept set.switchToMaster
  Action.update fun g => { g with set }

/-- Makes a replica the active node, chosen at random. -/
def switchToReplica : Action (ReplicaGroup τ) Node := do
  ensureRoutable
  let g ← Action.get
  let (chosen, words) := g.set.switchToReplica (Timed.words g)
  Action.update (Timed.setWords words)
  let (set, node) ← Action.ofExcept chosen
  Action.update fun g => { g with set }
  pure node

/-- Sends a command to the active node, once. A node that does not answer makes
the set suspect. -/
def executeOnce (c : Command) : Action (ReplicaGroup τ) Frame := do
  let node ← current
  match ← Action.attempt (onPool (Pool.request node.toAddress c)) with
  | .ok reply => pure reply
  | .error e =>
    if e.isUnreachable then Action.update markStale
    Action.fail e

/-- Sends a command to the active node. -/
def execute (c : Command) : Action (ReplicaGroup τ) Frame := do
  let policy ← Action.view ReplicaGroup.retry
  policy.call false fun _ => executeOnce c

end ReplicaGroup

end RespClient
