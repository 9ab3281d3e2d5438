import RespClient.Text.Numeral
import RespClient.Text.Quoted

/-!
# Failures

Everything that can go wrong while encoding, decoding, connecting or routing. A
failure carries its cause as data; its wording and its coarse kind are functions
of it. Retry policies and clients that drop a connection look at the kind only.
-/

namespace RespClient

/-- The coarse classification of failures. -/
inductive FailureKind where
  /-- A malformed frame; the connection cannot be used any more. -/
  | protocol
  /-- A well-formed error reply that the caller chose to treat as a failure. -/
  | server
  /-- The link was refused, reset or closed. -/
  | connection
  /-- A read, a write or a connect took too long. -/
  | timeout
  /-- No route, an empty ring, or no sentinel left. -/
  | topology
  /-- The cluster redirects, or is down. -/
  | redirect
  /-- A bad slot range, weight, address and the like. -/
  | configuration
  /-- The caller gave up. -/
  | cancelled
  deriving DecidableEq, Repr

/-- What went wrong. -/
inductive Failure where
  | io (cause : String)
  | connection (endpoint message : String)
  | timeout (endpoint : String)
  | protocol (message payload endpoint : String)
  | server (message : String)
  | invalidArgument (message : String)
  | noRoute (slot : Nat)
  | emptyRing
  | masterNotFound (service : String)
  | sentinelsExhausted (service : String)
  | moved (slot : Nat) (address : String)
  | ask (slot : Nat) (address : String)
  | clusterDown
  | crossSlot
  | cancelled
  deriving DecidableEq, Repr

namespace Failure

/-- The kind of a failure. -/
def kind : Failure → FailureKind
  | .io _ | .connection _ _ => .connection
  | .timeout _ => .timeout
  | .protocol _ _ _ => .protocol
  | .server _ => .server
  | .invalidArgument _ => .configuration
  | .noRoute _ | .emptyRing | .masterNotFound _ | .sentinelsExhausted _ => .topology
  | .moved _ _ | .ask _ _ | .clusterDown | .crossSlot => .redirect
  | .cancelled => .cancelled

/-- The failure in words. -/
def message : Failure → String
  | .io cause => "IO error: " ++ cause
  | .connection endpoint text => "connection error [" ++ endpoint ++ "]: " ++ text
  | .timeout endpoint => "operation timed out [" ++ endpoint ++ "]"
  | .protocol text payload endpoint =>
    "protocol error [" ++ endpoint ++ "]: " ++ text ++ " (payload: " ++ Quoted.text payload ++ ")"
  | .server text => "server error: " ++ text
  | .invalidArgument text => "invalid argument: " ++ text
  | .noRoute slot => "no route for slot " ++ Numeral.natText slot
  | .emptyRing => "hash ring is empty"
  | .masterNotFound service => "no master found for service '" ++ service ++ "'"
  | .sentinelsExhausted service => "no sentinel reachable for service '" ++ service ++ "'"
  | .moved slot address => "MOVED to slot " ++ Numeral.natText slot ++ " at " ++ address
  | .ask slot address => "ASK to slot " ++ Numeral.natText slot ++ " at " ++ address
  | .clusterDown => "CLUSTERDOWN cluster is down"
  | .crossSlot => "CROSSSLOT keys in multi-key operation map to different slots"
  | .cancelled => "operation cancelled"

/-- A protocol failure over raw bytes, which are shown as text. -/
def malformed (message : String) (payload : Bytes) (endpoint : String) : Failure :=
  .protocol message (Utf8.lossy payload) endpoint

/-- Did the other side fail to answer, in the sense that another try may help? -/
def isUnreachable (f : Failure) : Bool :=
  f.kind == .connection || f.kind == .timeout

/-- Is the link that failed so of no further use? -/
def breaksLink (f : Failure) : Bool :=
  f.isUnreachable || f.kind == .protocol

end Failure

end RespClient
