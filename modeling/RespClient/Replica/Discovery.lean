import RespClient.Replica.Instances
import RespClient.Replica.Set
import RespClient.Network

/-!
# Discovery

The master of a service and its replicas are found by asking sentinels, one after
another. A sentinel that cannot be reached or does not make sense is dropped; one
that answers is kept and asked first the next time, over the same link. It may
name further sentinels.
-/

namespace RespClient

/-- What is known about the sentinels of a service. -/
structure Discovery where
  service : String
  /-- Are sentinels learned from sentinels? -/
  learns : Bool := false
  /-- How many milliseconds a sentinel has to answer. -/
  timeout : Option Nat := some 100
  /-- The sentinels not asked yet. -/
  candidates : List Node := []
  /-- The sentinel that answered last, and the link to it. -/
  active : Option (Node × Option Nat) := none

namespace Discovery

/-- The known sentinels: the one that answered last, then the others. -/
def sentinels (d : Discovery) : List Node :=
  (d.active.map (·.1)).toList ++ d.candidates

/-- Is the sentinel known? -/
def knows (d : Discovery) (node : Node) : Bool :=
  d.sentinels.any (·.same node)

/-- Adds a sentinel behind the others unless it is known. -/
def add (d : Discovery) (node : Node) : Discovery :=
  if d.knows node then d else { d with candidates := d.candidates ++ [node] }

/-- Makes the next sentinel the active one, unless there is one already. -/
def advance (d : Discovery) : Discovery :=
  match d.active, d.candidates with
  | none, node :: rest => { d with active := some (node, none), candidates := rest }
  | _, _ => d

/-- Drops the active sentinel. -/
def dropActive (d : Discovery) : Discovery :=
  { d with active := none }

/-! ## Asking a sentinel -/

variable {τ : Type}

instance : Timed (Discovery × Network τ) where
  clock s := Timed.clock s.2
  setClock c s := (s.1, Timed.setClock c s.2)
  words s := Timed.words s.2
  setWords w s := (s.1, Timed.setWords w s.2)

/-- Runs an action on the network. -/
def onNetwork {α : Type} (x : Action (Network τ) α) : Action (Discovery × Network τ) α :=
  Action.within Prod.snd (fun n s => (s.1, n)) x

variable [Transport τ]

/-- The live link to the active sentinel, if there is one. -/
def liveLink? (s : Discovery × Network τ) : Option Nat :=
  (s.1.active.bind (·.2)).filter s.2.isLive

/-- The link to the active sentinel, which is `node`; it is opened if need be. -/
def reach (node : Node) : Action (Discovery × Network τ) Nat := do
  match ← Action.view liveLink? with
  | some id => pure id
  | none =>
    Action.update fun s => ({ s.1 with active := some (node, none) }, s.2)
    let id ← onNetwork (Network.connect node.text)
    Action.update fun s => ({ s.1 with active := some (node, some id) }, s.2)
    pure id

/-- Sends a command over a link. An error reply is a failure. -/
def ask (id : Nat) (c : Command) : Action (Discovery × Network τ) Frame := do
  let reply ← onNetwork (Network.request id c)
  Action.ofExcept reply.result

/-- Reads the answer to the question for the master. -/
def readMaster (d : Discovery) (reply : Frame) (endpoint : String) : Except Failure Node :=
  if reply.isNull then .error (.masterNotFound d.service) else Sentinel.readMaster reply endpoint

/-- Asks for other sentinels, if sentinels are learned. -/
def askPeers (d : Discovery) (node : Node) (id : Nat) :
    Action (Discovery × Network τ) (List Node) :=
  if d.learns then do
    let reply ← ask id (.sentinelPeers (Utf8.encode d.service))
    Action.ofExcept (Sentinel.readPeers reply node.text)
  else pure []

/-- Asks a sentinel, over the link to it, for the replica set and for other sentinels. -/
def interrogate (d : Discovery) (node : Node) (id : Nat) :
    Action (Discovery × Network τ) (ReplicaSet × List Node) := do
  let reply ← ask id (.sentinelMaster (Utf8.encode d.service))
  let master ← Action.ofExcept (d.readMaster reply node.text)
  let reply ← ask id (.sentinelReplicas (Utf8.encode d.service))
  let replicas ← Action.ofExcept (Sentinel.readReplicas reply node.text)
  let peers ← askPeers d node id
  pure (ReplicaSet.ofMaster master replicas, peers)

/-- Asks the active sentinel, which is `node`, for the replica set and for other
sentinels. -/
def query (node : Node) : Action (Discovery × Network τ) (ReplicaSet × List Node) := do
  let d ← Action.view Prod.fst
  let id ← reach node
  interrogate d node id

/-! ## Discovering -/

/-- Asks sentinels one after another, at most `left` of them. Only a search that
heeds its caller ends when the caller gives up. -/
def search (heedful : Bool) : Nat → Action (Discovery × Network τ) ReplicaSet
  | left, s =>
    if heedful && (Timed.clock s).isCancelled then (.error .cancelled, s)
    else
      let s := (s.1.advance, s.2)
      match left, s.1.active with
      | left + 1, some (node, _) =>
        match Timed.limited s.1.timeout node.text (query node) s with
        | (.ok (set, peers), s) => (.ok set, (peers.foldl add s.1, s.2))
        | (.error e, s) =>
          if e.breaksLink then search heedful left (s.1.dropActive, s.2) else (.error e, s)
        | (.stalled, s) => (.stalled, s)
      | _, _ => (.error (.sentinelsExhausted s.1.service), s)

/-- Finds the master of the service and its replicas. -/
def discover (heedful : Bool) : Action (Discovery × Network τ) ReplicaSet := fun s =>
  search heedful s.1.sentinels.length s

end Discovery

end RespClient
