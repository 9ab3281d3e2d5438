import RespClient.Routing.Redirect
import RespClient.Slot.Listing
import RespClient.Pool
import RespClient.Retry.Call

/-!
# Slot routing

A router sends each command to the owner of its key's slot. It follows redirects,
up to a limit, and learns from those that are permanent. When it has no owner for
a slot, or a node does not answer, it reads the slot map anew from the first node
that gives a good one.
-/

namespace RespClient

/-- A router. -/
structure Router (τ : Type := MemoryLink) where
  seeds : List Node
  slots : SlotMap := {}
  pool : Pool τ := {}
  maxRedirects : Nat := 5
  retry : RetryPolicy := .standard

namespace Router

variable {τ : Type}

instance : Timed (Router τ) where
  clock r := Timed.clock r.pool
  setClock c r := { r with pool := Timed.setClock c r.pool }
  words r := Timed.words r.pool
  setWords w r := { r with pool := Timed.setWords w r.pool }

/-- Runs an action on the pool. -/
def onPool {α : Type} (x : Action (Pool τ) α) : Action (Router τ) α :=
  Action.within Router.pool (fun p r => { r with pool := p }) x

/-! ## Reading the slot map -/

/-- The nodes to ask for the slot map: the seeds, then the owners of slots that
are no seeds. -/
def candidates (r : Router τ) : List Node :=
  r.slots.nodes.foldl SlotMap.addOnce r.seeds

/-- Takes a new slot map and drops the links to nodes that own nothing in it. -/
def install (m : SlotMap) (r : Router τ) : Router τ :=
  { r with slots := m, pool := r.pool.retain m.nodes }

variable [Transport τ]

/-- Asks a node for the slot map. -/
def fetchSlots (node : Node) : Action (Pool τ) SlotMap := do
  let reply ← Pool.request node.toAddress .clusterSlots
  let reply ← Action.ofExcept reply.result
  Action.ofExcept (SlotMap.ofListing reply node.text)

/-- Asks nodes until one gives a good slot map. If none does, the last failure is
given, which is `last` before the first node was asked. -/
def refreshFrom : List Node → Failure → Action (Router τ) Unit
  | [], last => Action.fail last
  | node :: rest, _ => do
    match ← Action.attempt (onPool (fetchSlots node)) with
    | .ok m => Action.update (install m)
    | .error e => refreshFrom rest e

/-- Reads the slot map anew. -/
def refresh : Action (Router τ) Unit := do
  let nodes ← Action.view candidates
  refreshFrom nodes (.invalidArgument "no seed nodes configured")

/-! ## Sending -/

/-- The owner of a slot. If there is none, the slot map is read anew once. -/
def route (slot : Nat) : Action (Router τ) Node := do
  match ← Action.view (·.slots.lookup slot) with
  | some node => pure node
  | none =>
    refresh
    match ← Action.view (·.slots.lookup slot) with
    | some node => pure node
    | none => Action.fail (.noRoute slot)

/-- Sends a command to a node, behind `ASKING` if need be. -/
def send (node : Node) (c : Command) (asking : Bool) : Action (Pool τ) Frame :=
  if asking then do
    let replies ← Pool.requestMany node.toAddress [.asking, c]
    match replies with
    | .error e :: _ :: _ => Action.fail (Redirect.classify e)
    | replies => pure (replies.getLastD .null)
  else Pool.request node.toAddress c

/-- Drops the link to a node that does not answer and reads the slot map anew, if
some node gives it. -/
def reroute (node : Node) : Action (Router τ) Unit := do
  Action.update fun r => { r with pool := r.pool.evict node.toAddress }
  let _ ← Action.attempt refresh
  pure ()

/-- Sends a command to a node. A node that does not answer makes the router look
for another map. -/
def deliver (node : Node) (c : Command) (asking : Bool) : Action (Router τ) Frame := do
  match ← Action.attempt (onPool (send node c asking)) with
  | .ok reply => pure reply
  | .error e =>
    if e.isUnreachable then reroute node
    Action.fail e

/-- Makes a node the owner of a slot. -/
def learn (slot : Nat) (node : Node) : Action (Router τ) Unit := do
  let slots ← Action.view Router.slots
  let slots ← Action.ofExcept (slots.assignSlot slot node)
  Action.update fun r => { r with slots }

/-- Takes a redirect from a node to heart. Gives the node that it leads to, and whether
the command needs `ASKING` there. -/
def heed (sender : Node) : Failure → Action (Router τ) (Node × Bool)
  | .moved slot address => do
    let next ← Action.ofExcept (Redirect.target address sender)
    learn slot next
    pure (next, false)
  | .ask _ address => do
    let next ← Action.ofExcept (Redirect.target address sender)
    pure (next, true)
  | e => Action.fail e

/-- Sends a command to a node and follows at most so many redirects. -/
def follow (c : Command) : Nat → Node → Bool → Action (Router τ) Frame
  | 0, node, asking => do
    let reply ← deliver node c asking
    match Redirect.ofReply? reply with
    | none => pure reply
    | some e => Action.fail e
  | left + 1, node, asking => do
    let reply ← deliver node c asking
    match Redirect.ofReply? reply with
    | none => pure reply
    | some e =>
      let (next, asking) ← heed node e
      follow c left next asking

/-- Sends a command to the owner of a slot, once. -/
def executeOnce (slot : Nat) (c : Command) : Action (Router τ) Frame := do
  let limit ← Action.view Router.maxRedirects
  let node ← route slot
  follow c limit node false

/-- Sends a command to the owner of a key's slot. -/
def execute (key : Bytes) (c : Command) : Action (Router τ) Frame := do
  let policy ← Action.view Router.retry
  policy.call false fun _ => executeOnce (Slot.ofKey key) c

end Router

end RespClient
