import RespClient.Text.Bytes

/-!
# Pipes

A pipe carries bytes both ways between a client and a peer, and holds a limited
number of them each way. The peer follows a plan: it sends, sleeps, ends its
sending side, or drops the pipe. It acts only while the client waits, and time
passes only then.
-/

namespace RespClient

/-- What a peer does next. -/
inductive PeerAction where
  | send (bytes : Bytes)
  | sleep (millis : Nat)
  /-- Ends the sending side for good; the peer goes on receiving. -/
  | finish
  /-- Drops both sides. -/
  | close
  deriving Repr

/-- A pipe, seen from the client. -/
structure Pipe where
  now : Nat := 0
  /-- How many bytes fit, each way. -/
  capacity : Nat := 1048576
  plan : List PeerAction := []
  /-- Sent by the peer and not yet taken by the client. -/
  incoming : Bytes := []
  /-- Written by the client and not yet taken by the peer. -/
  outgoing : Bytes := []
  /-- Does the peer take what the client writes? -/
  collects : Bool := true
  /-- What the peer has taken. -/
  collected : Bytes := []
  /-- Has the peer ended its sending side? -/
  ended : Bool := false
  /-- Has the peer dropped the pipe? -/
  gone : Bool := false

/-- What ends a wait. -/
inductive Wake where
  | ready
  | expired
  /-- Nothing ever will. -/
  | never
  deriving DecidableEq, Repr

namespace Pipe

/-- The peer takes what the client wrote. -/
def collect (p : Pipe) : Pipe :=
  if p.collects && !p.gone then { p with collected := p.collected ++ p.outgoing, outgoing := [] }
  else p

/-- The rest of a wait during which the peer does nothing any more. -/
def idle (ready : Pipe → Bool) (deadline : Option Nat) (p : Pipe) : Wake × Pipe :=
  if ready p then (.ready, p)
  else
    match deadline with
    | some d => (.expired, { p with now := d })
    | none => (.never, p)

/-- Lets the peer act until it stops for a while, and wakes the client then if
what it waits for has come. A deadline that falls on the end of a sleep comes
first. What the peer sends after it has ended its sending side is lost. -/
def waitFrom (ready : Pipe → Bool) (deadline : Option Nat) :
    List PeerAction → Pipe → Wake × Pipe
  | [], p => idle ready deadline { p with plan := [] }
  | .send bytes :: rest, p =>
    if p.ended then waitFrom ready deadline rest p
    else
      let room := p.capacity - p.incoming.length
      if bytes.length ≤ room then
        waitFrom ready deadline rest { p with incoming := p.incoming ++ bytes }
      else
        idle ready deadline
          { p with
            incoming := p.incoming ++ bytes.take room
            plan := .send (bytes.drop room) :: rest }
  | .sleep 0 :: rest, p => waitFrom ready deadline rest p
  | .sleep (n + 1) :: rest, p =>
    let wake := p.now + n + 1
    if ready p then (.ready, { p with plan := .sleep (n + 1) :: rest })
    else
      match deadline.filter (· ≤ wake) with
      | some d => (.expired, { p with now := d, plan := .sleep (wake - d) :: rest })
      | none => waitFrom ready deadline rest { p with now := wake }
  | .finish :: rest, p => waitFrom ready deadline rest { p with ended := true }
  | .close :: _, p => idle ready deadline { p with ended := true, gone := true, plan := [] }

/-- The client waits, up to a deadline if there is one. -/
def wait (ready : Pipe → Bool) (deadline : Option Nat) (p : Pipe) : Wake × Pipe :=
  if deadline.any (· ≤ p.now) then (.expired, p)
  else waitFrom ready deadline p.plan p.collect

/-- The client waits for some milliseconds, whatever the peer does. -/
def pass (millis : Nat) (p : Pipe) : Pipe :=
  (p.wait (fun _ => false) (some (p.now + millis))).2

/-- Can the client read something, be it the end? -/
def isReadable (p : Pipe) : Bool :=
  !p.incoming.isEmpty || p.ended

/-- Can the client write something, or learn that it cannot? -/
def isWritable (p : Pipe) : Bool :=
  p.gone || p.outgoing.length < p.capacity

/-- How a write ends. -/
inductive Writing where
  | done
  | broken
  | expired
  | never
  deriving DecidableEq, Repr

/-- Writes bytes, as many at a time as there is room for, in at most so many
rounds. -/
def writeFrom (deadline : Option Nat) : Nat → Bytes → Pipe → Writing × Pipe
  | _, [], p => (.done, p)
  | 0, _ :: _, p => (.never, p)
  | rounds + 1, bytes, p =>
    match if p.isWritable then (.ready, p) else p.wait isWritable deadline with
    | (.ready, p) =>
      if p.gone then (.broken, p)
      else
        let room := p.capacity - p.outgoing.length
        writeFrom deadline rounds (bytes.drop room)
          { p with outgoing := p.outgoing ++ bytes.take room }
    | (.expired, p) => (.expired, p)
    | (.never, p) => (.never, p)

/-- Writes bytes. Each round writes at least one. -/
def write (deadline : Option Nat) (bytes : Bytes) (p : Pipe) : Writing × Pipe :=
  writeFrom deadline bytes.length bytes p

/-- The bytes that a plan still sends. -/
def planned : List PeerAction → Nat
  | [] => 0
  | .send bytes :: rest => bytes.length + planned rest
  | .finish :: _ => 0
  | .close :: _ => 0
  | .sleep _ :: rest => planned rest

/-- The bytes that the client can still read. -/
def pending (p : Pipe) : Nat :=
  p.incoming.length + if p.ended then 0 else planned p.plan

end Pipe

end RespClient
