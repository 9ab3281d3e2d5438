import RespClient.Network

/-!
# Connection pools

A pool keeps one link for each node and opens it when it is first needed. A link
that failed is taken out, so that the next request opens a new one: nobody knows
which replies are still on their way on the old one. A caller may hold a link for
itself; others then wait for it.
-/

namespace RespClient

/-- A pool over a network. -/
structure Pool (τ : Type := MemoryLink) where
  network : Network τ := {}
  /-- The link of each node. -/
  entries : List (Address × Nat) := []
  /-- The link that a caller holds for itself. -/
  held : Option Nat := none

namespace Pool

variable {τ : Type}

instance : Timed (Pool τ) where
  clock p := p.network.clock
  setClock c p := { p with network := { p.network with clock := c } }
  words p := p.network.words
  setWords w p := { p with network := { p.network with words := w } }

/-- Runs an action on the network. -/
def onNetwork {α : Type} (x : Action (Network τ) α) : Action (Pool τ) α :=
  Action.within Pool.network (fun n p => { p with network := n }) x

/-- The link of a node. -/
def find? (p : Pool τ) (a : Address) : Option Nat :=
  (p.entries.find? (·.1 == a)).map (·.2)

/-- Does a caller hold the link? -/
def isHeld (p : Pool τ) (id : Nat) : Bool :=
  p.held == some id

/-- Makes a link the link of a node. -/
def put (a : Address) (id : Nat) (p : Pool τ) : Pool τ :=
  { p with entries := p.entries.filter (fun entry => entry.1 != a) ++ [(a, id)] }

/-- Waits until nobody holds the link. -/
def acquire (id : Nat) : Action (Pool τ) Unit := fun p =>
  if p.isHeld id then Timed.onClock Clock.stall p else (.ok (), p)

/-- Takes out the links of all nodes but these. They are not given up: whoever
uses one of them now may finish. -/
def retain (keep : List Node) (p : Pool τ) : Pool τ :=
  { p with entries := p.entries.filter fun entry => keep.any (·.toAddress == entry.1) }

/-! ## Using links -/

variable [Transport τ]

/-- Is the link alive as far as the pool can tell? A link that is held is. -/
def seemsLive (p : Pool τ) (id : Nat) : Bool :=
  p.isHeld id || p.network.isLive id

/-- The link of a node, if it seems alive. -/
def findLive? (p : Pool τ) (a : Address) : Option Nat :=
  (p.find? a).filter p.seemsLive

/-- Makes a new link the link of a node, unless it has one that seems alive. Gives
the link that the node has then. -/
def adopt (a : Address) (id : Nat) : Action (Pool τ) Nat := fun p =>
  match p.findLive? a with
  | some there => (.ok there, p)
  | none => (.ok id, p.put a id)

/-- The link of a node, which is opened if need be. -/
def get (a : Address) : Action (Pool τ) Nat := fun p =>
  match p.findLive? a with
  | some id => (.ok id, p)
  | none =>
    (do
      let id ← onNetwork (Network.connect a.text)
      adopt a id : Action (Pool τ) Nat) p

/-- Sends commands one after another, each after the reply to the one before. The
replies gathered so far are latest first. -/
def exchangeAll (id : Nat) : List Command → List Frame → Action (Pool τ) (List Frame)
  | [], done => pure done.reverse
  | c :: rest, done => do
    let reply ← onNetwork (Network.request id c)
    exchangeAll id rest (reply :: done)

/-- Takes a node's link out and gives it up, unless a caller holds it. -/
def evict (a : Address) (p : Pool τ) : Pool τ :=
  let network :=
    match p.find? a with
    | some id => if p.isHeld id then p.network else p.network.disconnect id
    | none => p.network
  { p with network, entries := p.entries.filter fun entry => entry.1 != a }

/-- Takes a node's link out if an action fails in a way that breaks it. -/
def orEvict {α : Type} (a : Address) (x : Action (Pool τ) α) : Action (Pool τ) α := fun p =>
  match x p with
  | (.error e, p) => (.error e, if e.breaksLink then p.evict a else p)
  | other => other

/-- Sends commands to a node and reads their replies. If that fails the node's
link is taken out. -/
def requestMany (a : Address) (cs : List Command) : Action (Pool τ) (List Frame) := do
  let id ← get a
  acquire id
  orEvict a (exchangeAll id cs [])

/-- Sends a command to a node and reads its reply. -/
def request (a : Address) (c : Command) : Action (Pool τ) Frame := do
  let replies ← requestMany a [c]
  pure (replies.getLastD .null)

/-! ## Callers at the same time -/

/-- Ends a connect that began earlier and was due at a moment. -/
def finishDial (a : Address) (due : Nat) (g : Greeting τ) : Action (Pool τ) Nat := do
  Timed.onClock (Clock.waitUntil due)
  let id ← onNetwork (Network.greet a.text g)
  adopt a id

/-- Two callers ask for the link of a node at the same moment. If the first one's
connect takes time, the second one connects as well, and the link that opens first
is the node's. -/
def getBoth (a : Address) : Action (Pool τ) (Except Failure Nat × Except Failure Nat) := fun p =>
  match p.findLive? a with
  | some id => (.ok (.ok id, .ok id), p)
  | none =>
    let start := p.network.clock.now
    let (first, network) := p.network.dial a.text
    let p := { p with network }
    if first.delay = 0 then
      (do
        let one ← Action.attempt (finishDial a start first.greeting)
        let two ← Action.attempt (get a)
        pure (one, two) : Action (Pool τ) _) p
    else
      let (second, network) := p.network.dial a.text
      let p := { p with network }
      let endFirst := Action.attempt (finishDial a (start + first.delay) first.greeting)
      let endSecond := Action.attempt (finishDial a (start + second.delay) second.greeting)
      if first.delay ≤ second.delay then
        (do
          let one ← endFirst
          let two ← endSecond
          pure (one, two) : Action (Pool τ) _) p
      else
        (do
          let two ← endSecond
          let one ← endFirst
          pure (one, two) : Action (Pool τ) _) p

/-! ## Holding a link -/

/-- Lets go of the link that is held. -/
def release (p : Pool τ) : Pool τ :=
  { p with held := none }

/-- Takes a node's link and holds it. A link held before is let go of. -/
def hold (a : Address) : Action (Pool τ) Unit := do
  Action.update release
  let id ← get a
  Action.update fun p => { p with held := some id }

/-- Gives the link up that is held, and holds it still. -/
def dropHeld (p : Pool τ) : Pool τ :=
  match p.held with
  | some id => { p with network := p.network.disconnect id }
  | none => p

end Pool

end RespClient
