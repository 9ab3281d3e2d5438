import RespClient.Wire.Transport

/-!
# Links in memory

A link whose input is a byte string known in advance and whose output is kept.
Input stays readable in the state after the link is disconnected, but reads fail.
At the end of its input a link either reports the loss of the connection or is
silent for ever.
-/

namespace RespClient

/-- What a read does that the input cannot satisfy. -/
inductive AtEnd where
  /-- It reports the end of the input. -/
  | closed
  /-- It waits for ever. -/
  | silent
  deriving DecidableEq, Repr

/-- A link in memory. -/
structure MemoryLink where
  input : Bytes
  written : Bytes := []
  connected : Bool := true
  endpoint : String := "memory"
  atEnd : AtEnd := .closed
  deriving DecidableEq, Repr

namespace MemoryLink

/-- The failure of any use after the link was given up. -/
def disconnected (l : MemoryLink) : Failure :=
  .connection l.endpoint "disconnected"

/-- What a read gives that the input cannot satisfy; it consumes nothing. -/
def exhausted {α : Type} (l : MemoryLink) : Outcome α :=
  match l.atEnd with
  | .closed => .error (.connection l.endpoint "unexpected end of input")
  | .silent => .stalled

/-- Adds to the input. -/
def feed (l : MemoryLink) (bytes : Bytes) : MemoryLink :=
  { l with input := l.input ++ bytes }

/-- Gives the link up. -/
def disconnect (l : MemoryLink) : MemoryLink :=
  { l with connected := false }

/-- Keeps bytes as sent. -/
def write (bytes : Bytes) : Action MemoryLink Unit := fun l =>
  if l.connected then (.ok (), { l with written := l.written ++ bytes })
  else (.error l.disconnected, l)

/-- Splits off the bytes before the first line feed and those behind it. -/
def splitLine (input : Bytes) : Option (Bytes × Bytes) :=
  match input.span (· != Bytes.lf) with
  | (_, []) => none
  | (line, _ :: rest) => some (line, rest)

/-- Drops the carriage return at the end of a line, which must be there. -/
def chomp? (line : Bytes) : Option Bytes :=
  if line.getLast? = some Bytes.cr then some line.dropLast else none

/-- Reads a line. A line feed without a carriage return is consumed and refused. -/
def readLine : Action MemoryLink Bytes := fun l =>
  if !l.connected then (.error l.disconnected, l)
  else
    match splitLine l.input with
    | none => (l.exhausted, l)
    | some (line, rest) =>
      let l := { l with input := rest }
      match chomp? line with
      | some payload => (.ok payload, l)
      | none =>
        (.error (.malformed "line not terminated by CRLF" (line ++ [Bytes.lf]) l.endpoint), l)

/-- Reads exactly `n` bytes, or none at all. -/
def readBytes (n : Nat) : Action MemoryLink Bytes := fun l =>
  if !l.connected then (.error l.disconnected, l)
  else
    let taken := l.input.take n
    if taken.length < n then (l.exhausted, l)
    else (.ok taken, { l with input := l.input.drop n })

instance : Transport MemoryLink where
  endpoint := endpoint
  isConnected := connected
  disconnect := disconnect
  write := write
  readLine := readLine
  readBytes := readBytes
  pending l := l.input.length

end MemoryLink

end RespClient
