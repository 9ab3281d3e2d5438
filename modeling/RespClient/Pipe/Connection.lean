import RespClient.Pipe.Basic
import RespClient.Wire.Exchange
import RespClient.Settings

/-!
# Connections

A connection is the client's end of a pipe, with a buffer for what has arrived.
Reads and writes may be limited in time, and header lines are limited in length so
that a peer cannot make the client gather bytes for ever. Any failure drops the
pipe.
-/

namespace RespClient

/-- A connection to a peer. -/
structure Connection where
  endpoint : String := "peer"
  /-- How many milliseconds a read may take. -/
  readTimeout : Option Nat := none
  /-- How many milliseconds a write may take. -/
  writeTimeout : Option Nat := none
  /-- The longest header line, without its line end. -/
  maxLine : Nat := 65536
  connected : Bool := true
  /-- What has arrived and was not read. -/
  buffer : Bytes := []
  pipe : Pipe := {}
  /-- The count of bytes that a read asked for and that no memory block can hold, if
  one did. The program stops there. -/
  overrun : Option Nat := none

namespace Connection

/-- The failure of a connection that is not there any more. -/
def closed (c : Connection) : Failure :=
  .connection c.endpoint "connection closed"

/-- Drops the pipe and what has arrived. -/
def disconnect (c : Connection) : Connection :=
  { c with connected := false, buffer := [] }

/-- Fails and drops the pipe. -/
def drop {α : Type} (e : Failure) (c : Connection) : Outcome α × Connection :=
  (.error e, c.disconnect)

/-- The moment at which an action that begins now has taken too long. -/
def deadline (c : Connection) (timeout : Option Nat) : Option Nat :=
  timeout.map (c.pipe.now + ·)

/-! ## Reading -/

/-- What a look for the next byte finds. -/
inductive Arrival where
  | byte (b : UInt8)
  | ended
  | expired
  | never
  deriving DecidableEq, Repr

/-- How many bytes the buffer can hold. -/
def bufferSize : Nat := 8192

/-- Fills an empty buffer with what has come through the pipe. It takes no more than
the buffer holds, or than is needed at once where that is more; the rest stays in
the pipe and takes up room there. -/
def refill (needed : Nat) (c : Connection) : Connection :=
  let size := max bufferSize needed
  { c with
    buffer := c.pipe.incoming.take size
    pipe := { c.pipe with incoming := c.pipe.incoming.drop size } }

/-- Takes the next byte, which may have to arrive first, where so many are needed
at once. -/
def nextByte (deadline : Option Nat) (needed : Nat) (c : Connection) : Arrival × Connection :=
  match c.buffer with
  | b :: rest => (.byte b, { c with buffer := rest })
  | [] =>
    let (wake, pipe) :=
      if c.pipe.isReadable then (.ready, c.pipe) else c.pipe.wait Pipe.isReadable deadline
    let c := { c with pipe }
    match wake with
    | .expired => (.expired, c)
    | .never => (.never, c)
    | .ready =>
      let c := c.refill needed
      match c.buffer with
      | b :: rest => (.byte b, { c with buffer := rest })
      | [] => (.ended, c)

/-- How reading byte by byte ends. -/
inductive Reading where
  /-- With what was looked for. -/
  | found
  /-- With as many bytes as are allowed. -/
  | full
  | ended
  | expired
  | never
  deriving DecidableEq, Repr

/-- Takes bytes up to a line feed, at most so many. The bytes taken are latest
first. -/
def takeLine (deadline : Option Nat) : Nat → Bytes → Connection → Reading × Bytes × Connection
  | 0, taken, c => (.full, taken, c)
  | limit + 1, taken, c =>
    match c.nextByte deadline 1 with
    | (.byte b, c) =>
      if b = Bytes.lf then (.found, b :: taken, c) else takeLine deadline limit (b :: taken) c
    | (.ended, c) => (.ended, taken, c)
    | (.expired, c) => (.expired, taken, c)
    | (.never, c) => (.never, taken, c)

/-- Takes exactly so many bytes. The bytes taken are latest first. -/
def takeBytes (deadline : Option Nat) : Nat → Bytes → Connection → Reading × Bytes × Connection
  | 0, taken, c => (.found, taken, c)
  | n + 1, taken, c =>
    match c.nextByte deadline (n + 1) with
    | (.byte b, c) => takeBytes deadline n (b :: taken) c
    | (.ended, c) => (.ended, taken, c)
    | (.expired, c) => (.expired, taken, c)
    | (.never, c) => (.never, taken, c)

/-- The most bytes that a header line may take with its line end. -/
def lineLimit (c : Connection) : Nat :=
  min (c.maxLine + 2) (2 ^ 64 - 1)

/-- Reads a line. -/
def readLine : Action Connection Bytes := fun c =>
  if !c.connected then (.error c.closed, c)
  else
    match takeLine (c.deadline c.readTimeout) c.lineLimit [] c with
    | (.found, taken, c) =>
      match taken with
      | _ :: 13 :: line => (.ok line.reverse, c)
      | _ => c.drop (.malformed "line not terminated by CRLF" taken.reverse c.endpoint)
    | (.full, taken, c) =>
      let text := "line exceeds " ++ Numeral.natText c.maxLine ++ " bytes"
      c.drop (.malformed text (taken.reverse.take 64) c.endpoint)
    | (.ended, _, c) => c.drop c.closed
    | (.expired, _, c) => c.drop (.timeout c.endpoint)
    | (.never, _, c) => (.stalled, c)

/-- The most bytes that one block of memory can hold. -/
def maxBlock : Nat := 2 ^ 63 - 1

/-- Reads exactly `n` bytes, into a block of memory that is set aside for them before
the first one has come. Memory is taken for granted up to the size of a block; a
greater count stops the program. -/
def readBytes (n : Nat) : Action Connection Bytes := fun c =>
  if !c.connected then (.error c.closed, c)
  else if maxBlock < n then (.stalled, { c with overrun := some n })
  else
    match takeBytes (c.deadline c.readTimeout) n [] c with
    | (.found, taken, c) => (.ok taken.reverse, c)
    | (.expired, _, c) => c.drop (.timeout c.endpoint)
    | (.never, _, c) => (.stalled, c)
    | (_, _, c) => c.drop (.io "early eof")

/-! ## Writing -/

/-- Writes bytes. -/
def write (bytes : Bytes) : Action Connection Unit := fun c =>
  if !c.connected then (.error c.closed, c)
  else
    let (ending, pipe) := c.pipe.write (c.deadline c.writeTimeout) bytes
    let c := { c with pipe }
    match ending with
    | .done => (.ok (), c)
    | .broken => c.drop (.io "broken pipe")
    | .expired => c.drop (.timeout c.endpoint)
    | .never => (.stalled, c)

instance : Transport Connection where
  endpoint := endpoint
  isConnected := connected
  disconnect := disconnect
  write := write
  readLine := readLine
  readBytes := readBytes
  pending c := c.buffer.length + c.pipe.pending

/-! ## Debug notation -/

/-- Milliseconds in debug notation, in seconds from one second on. -/
def durationText (millis : Nat) : String :=
  if millis = 0 then "0ns"
  else if millis < 1000 then Numeral.natText millis ++ "ms"
  else
    let part := ((Numeral.natChars (1000 + millis % 1000)).drop 1).reverse.dropWhile (· == '0')
    let point := if part.isEmpty then "" else "."
    Numeral.natText (millis / 1000) ++ point ++ String.ofList part.reverse ++ "s"

/-- A time limit in debug notation. -/
def timeoutText : Option Nat → String
  | none => "None"
  | some millis => "Some(" ++ durationText millis ++ ")"

/-- A connection in debug notation. -/
def debugText (c : Connection) : String :=
  "Connection \x7b endpoint: " ++ Quoted.text c.endpoint ++ ", connected: " ++
    (if c.connected then "true" else "false") ++ ", read_timeout: " ++
    timeoutText c.readTimeout ++ ", write_timeout: " ++ timeoutText c.writeTimeout ++
    ", max_line_length: " ++ Numeral.natText c.maxLine ++ " \x7d"

end Connection

/-! ## Opening a connection -/

namespace Settings

/-- A new connection with these settings, by a pipe to an endpoint. -/
def fresh (s : Settings) (endpoint : String) (pipe : Pipe) : Connection :=
  { endpoint, pipe, readTimeout := s.readTimeout, writeTimeout := s.writeTimeout,
    maxLine := min s.decoder.maxFrameSize 65536 }

/-- Chooses the third revision of the protocol, if it is wanted. A server that
refuses it is left. -/
def handshake (s : Settings) : Action Connection Unit := do
  if s.decoder.protocol = .resp3 then
    let reply ← exchange s.decoder (.hello 3)
    match reply.asError with
    | none => pure ()
    | some e =>
      Action.update Connection.disconnect
      Action.fail (.server e.message)

/-- Connects to an endpoint, where a pipe may be waiting or nobody listens. -/
def connect (s : Settings) (endpoint : String) (listener : Option Pipe) :
    Outcome Unit × Option Connection :=
  match listener with
  | none => (.error (.io "Connection refused (os error 111)"), none)
  | some pipe =>
    let (r, c) := s.handshake (s.fresh endpoint pipe)
    (r, some c)

end Settings

end RespClient
