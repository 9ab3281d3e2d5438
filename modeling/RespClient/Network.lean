import RespClient.Node.Address
import RespClient.Wire.MemoryLink
import RespClient.Wire.Exchange
import RespClient.Clock

/-!
# Networks

A network is everything that a client can reach, as far as the client can tell:
for each address, what will meet the connects that are still to come, one after
another. A connect may take time, fail, or open a link with all that the server will
have said. Whatever servers do in a run, some network says the same bytes at the same
moments. Links are links in memory unless another transport is named.

Links keep their numbers for good. The network also keeps what the client did: the
addresses that it dialled, the links as they were when they opened, and the commands
that it sent, in order.
-/

namespace RespClient

/-- How a connect to an address ends. -/
inductive Greeting (τ : Type := MemoryLink) where
  /-- A link opens. -/
  | opens (link : String → τ)
  /-- Nothing ever comes back. -/
  | hangs
  | fails (failure : String → Failure)

namespace Greeting

variable {τ : Type}

/-- A link in memory opens; reads beyond its input go by `atEnd`. -/
def accepts (input : Bytes) (atEnd : AtEnd) : Greeting :=
  .opens fun address => { input, endpoint := address, atEnd }

def refuses (message : String) : Greeting τ :=
  .fails fun address => .connection address message

def breaks (cause : String) : Greeting τ :=
  .fails fun _ => .io cause

def expires : Greeting τ :=
  .fails .timeout

end Greeting

/-- What meets one connect. -/
structure Script (τ : Type := MemoryLink) where
  /-- Does the caller give up when the connect begins? -/
  cancels : Bool := false
  /-- How many milliseconds pass before it ends? -/
  delay : Nat := 0
  greeting : Greeting τ

/-- A link that was opened. -/
structure Line (τ : Type) where
  address : String
  /-- The link as it was when it opened. -/
  opened : τ
  /-- The link as it is. -/
  link : τ
  deriving Repr

/-- A command that was sent over a link. -/
structure Sent where
  address : String
  link : Nat
  command : Command
  deriving Repr

/-- A network, and what the client did in it. -/
structure Network (τ : Type := MemoryLink) where
  /-- Reads what the links of this network say. -/
  decoder : Decoder := {}
  clock : Clock := {}
  words : WordSource := []
  /-- What meets the next connects to each address. -/
  scripts : List (String × List (Script τ)) := []
  /-- The addresses of all connects. -/
  dialled : List String := []
  /-- All links that were opened; a link's number is its place. -/
  lines : List (Line τ) := []
  sent : List Sent := []

namespace Network

variable {τ : Type}

instance : Timed (Network τ) where
  clock n := n.clock
  setClock c n := { n with clock := c }
  words n := n.words
  setWords w n := { n with words := w }

/-! ## Connecting -/

/-- Takes the next script of an address. -/
def takeScript (address : String) :
    List (String × List (Script τ)) → Option (Script τ) × List (String × List (Script τ))
  | [] => (none, [])
  | (a, scripts) :: rest =>
    if a = address then (scripts.head?, (a, scripts.tail) :: rest)
    else
      let (script, rest) := takeScript address rest
      (script, (a, scripts) :: rest)

/-- Begins a connect to an address. Without a script it is refused at once. -/
def dial (address : String) (n : Network τ) : Script τ × Network τ :=
  let (script, scripts) := takeScript address n.scripts
  let script := script.getD { greeting := .refuses "connection refused" }
  let clock := if script.cancels then n.clock.cancel else n.clock
  (script, { n with scripts, clock, dialled := n.dialled ++ [address] })

/-- Opens a link and gives its number. -/
def openLink (address : String) (l : τ) : Action (Network τ) Nat := fun n =>
  (.ok n.lines.length, { n with lines := n.lines ++ [⟨address, l, l⟩] })

/-- Ends a connect to an address. -/
def greet (address : String) : Greeting τ → Action (Network τ) Nat
  | .opens link => openLink address (link address)
  | .hangs => Timed.onClock Clock.stall
  | .fails failure => Action.fail (failure address)

/-- Connects to an address and gives the number of the link. -/
def connect (address : String) : Action (Network τ) Nat := fun n =>
  let (script, n) := n.dial address
  (do
    Timed.onClock (Clock.wait script.delay)
    greet address script.greeting : Action (Network τ) Nat) n

/-! ## Links -/

/-- The link with a number, if it was opened. -/
def link? (n : Network τ) (id : Nat) : Option τ :=
  (n.lines[id]?).map (·.link)

/-- The address that a link leads to. -/
def addressOf (n : Network τ) (id : Nat) : String :=
  ((n.lines[id]?).map (·.address)).getD ""

/-- Changes a link. -/
def modifyLink (id : Nat) (f : τ → τ) (n : Network τ) : Network τ :=
  { n with lines := n.lines.modify id fun line => { line with link := f line.link } }

/-- The failure of any use of a link that was never opened. -/
def unopened : Failure :=
  .connection "" "disconnected"

/-- Runs an action on a link. While it stalls, time goes on to the deadline. -/
def onLink {α : Type} (id : Nat) (x : Action τ α) : Action (Network τ) α := fun n =>
  match n.link? id with
  | none => (.error unopened, n)
  | some l =>
    match x l with
    | (.stalled, l) => Timed.onClock Clock.stall (n.modifyLink id fun _ => l)
    | (r, l) => (r, n.modifyLink id fun _ => l)

section

variable [Transport τ]

/-- Can the link still be used? -/
def isLive (n : Network τ) (id : Nat) : Bool :=
  (n.link? id).any Transport.isConnected

/-- Gives a link up. -/
def disconnect (id : Nat) (n : Network τ) : Network τ :=
  n.modifyLink id Transport.disconnect

/-- Sends a command over a link. -/
def send (id : Nat) (c : Command) : Action (Network τ) Unit := do
  onLink id (Transport.write c.encode)
  Action.update fun n =>
    { n with sent := n.sent ++ [{ address := n.addressOf id, link := id, command := c }] }

/-- Reads a reply from a link. -/
def receive (id : Nat) : Action (Network τ) Frame := do
  let d ← Action.view Network.decoder
  onLink id d.decode

/-- Sends a command over a link and reads its reply. -/
def request (id : Nat) (c : Command) : Action (Network τ) Frame := do
  send id c
  receive id

end

/-! ## What the client did -/

/-- How often an address was dialled. -/
def dialCount (n : Network τ) (address : String) : Nat :=
  n.dialled.count address

/-- All bytes that are written on the links to an address, one link after another. -/
def written (n : Network) (address : String) : Bytes :=
  (n.lines.filter (·.address == address)).flatMap (·.link.written)

end Network

end RespClient
