import RespClient.Wire.MemoryLink
import RespClient.Frame.Tag
import RespClient.Decimal.Reading

/-!
# Decoding

A decoder reads one reply from a transport, with everything nested in it. Lines
end at their line end; blobs are as long as they declare and may hold any bytes.
Whatever is malformed disconnects the transport, because nobody knows where the
next reply begins.

Nesting has no limit of its own. Every level costs at least one byte of header,
so the bytes that a transport can still give bound the depth.
-/

namespace RespClient

/-- What can be wrong with a frame. -/
inductive Flaw where
  | emptyHeader
  | unknownTag (byte : UInt8)
  | badInteger
  | badLength
  | tooLong
  | nullLength
  | tooManyElements
  | unterminatedBlob
  | unmarkedVerbatim
  | badDouble
  | badBigNumber
  deriving DecidableEq, Repr

/-- A flaw in words. -/
def Flaw.message : Flaw → String
  | .emptyHeader => "empty frame header"
  | .unknownTag byte => "unknown frame type: " ++ String.singleton (Char.ofNat byte.toNat)
  | .badInteger => "invalid integer"
  | .badLength => "invalid length prefix"
  | .tooLong => "declared length exceeds maximum frame size"
  | .nullLength => "null length not allowed here"
  | .tooManyElements => "aggregate length exceeds reasonable maximum"
  | .unterminatedBlob => "bulk payload not terminated by CRLF"
  | .unmarkedVerbatim => "verbatim string without format prefix"
  | .badDouble => "invalid double"
  | .badBigNumber => "invalid big number"

/-- Reads replies of one revision of the protocol. -/
structure Decoder where
  protocol : Protocol := .resp2
  /-- The largest blob that is accepted; an aggregate may have a sixteenth as many
  elements. -/
  maxFrameSize : Nat := 536870912
  deriving DecidableEq, Repr

namespace Decoder

/-! ## The parts of a frame -/

/-- Reads a declared length, which must be written canonically. `-1` is no
length: it stands for null. -/
def readLength (d : Decoder) (payload : Bytes) : Except Flaw (Option Nat) :=
  match Numeral.readInt64? payload with
  | none => .error .badLength
  | some n =>
    if Numeral.intBytes n.toInt ≠ payload then .error .badLength
    else if n.toInt = -1 then .ok none
    else if n.toInt < 0 then .error .badLength
    else if d.maxFrameSize < n.toInt.toNat then .error .tooLong
    else .ok (some n.toInt.toNat)

/-- Reads the declared length of what cannot be null. -/
def readRequiredLength (d : Decoder) (payload : Bytes) : Except Flaw Nat :=
  match d.readLength payload with
  | .error flaw => .error flaw
  | .ok none => .error .nullLength
  | .ok (some n) => .ok n

/-- Reads the declared number of elements of an aggregate. -/
def readCount (d : Decoder) (payload : Bytes) : Except Flaw (Option Nat) :=
  match d.readLength payload with
  | .error flaw => .error flaw
  | .ok none => .ok none
  | .ok (some n) => if d.maxFrameSize / 16 < n then .error .tooManyElements else .ok (some n)

/-- Reads the format tag and the text of a verbatim string. -/
def splitVerbatim (data : Bytes) : Except Flaw Frame :=
  match data with
  | a :: b :: c :: 58 :: text => .ok (.verbatim [a, b, c] text)
  | _ => .error .unmarkedVerbatim

/-- Is it an optional minus sign and at least one digit? -/
def isBigNumber (payload : Bytes) : Bool :=
  let digits :=
    match payload with
    | 45 :: digits => digits
    | digits => digits
  !digits.isEmpty && digits.all Numeral.isDigit

/-- The frame that a header line is when nothing follows it. -/
def readScalar (tag : Tag) (payload : Bytes) : Except Flaw Frame :=
  match tag with
  | .error => .ok (.error ⟨Utf8.lossy payload, false⟩)
  | .integer =>
    match Numeral.readInt64? payload with
    | some n => .ok (.integer n)
    | none => .error .badInteger
  | .null => .ok .null
  | .double =>
    match Binary64.read? payload with
    | some x => .ok (.double x)
    | none => .error .badDouble
  | .boolean => .ok (.boolean (payload == [116]))
  | .bigNumber =>
    if isBigNumber payload then .ok (.bigNumber (Utf8.lossy payload)) else .error .badBigNumber
  | _ => .ok (.simple payload)

/-! ## Reading -/

section

variable {τ : Type} [Transport τ] {α β : Type}

/-- Fails over a malformed payload. -/
def refuse (flaw : Flaw) (payload : Bytes) : Action τ α := fun t =>
  (.error (.malformed flaw.message payload (Transport.endpoint t)), t)

/-- Goes on with what a payload was read as. -/
def accept (payload : Bytes) : Except Flaw α → Action τ α
  | .ok a => .give a
  | .error flaw => refuse flaw payload

/-- Reads a header line: its tag and its payload. -/
def readHeader (d : Decoder) : Action τ (Tag × Bytes) := do
  let line ← Transport.readLine
  match line with
  | [] => refuse .emptyHeader line
  | byte :: payload =>
    match Tag.ofByte? d.protocol byte with
    | some tag => pure (tag, payload)
    | none => refuse (.unknownTag byte) line

/-- Reads a blob of `n` bytes and its line end. -/
def readBlob (n : Nat) : Action τ Bytes := do
  let data ← Transport.readBytes (n + 2)
  let tail := data.drop n
  if tail = Bytes.crlf then pure (data.take n) else refuse .unterminatedBlob tail

/-- Runs an action `n` times and gathers the results behind those already there,
which are latest first. -/
def gather (element : Action τ α) : Nat → List α → Action τ (List α)
  | 0, done, t => (.ok done.reverse, t)
  | n + 1, done, t =>
    match element t with
    | (.ok a, t) => gather element n (a :: done) t
    | (.error e, t) => (.error e, t)
    | (.stalled, t) => (.stalled, t)

/-- Reads a counted sequence after its header. -/
def readSequence (d : Decoder) (payload : Bytes) (element : Action τ α)
    (build : List α → Frame) : Action τ Frame := do
  match ← accept payload (d.readCount payload) with
  | none => pure .null
  | some n =>
    let items ← gather element n []
    pure (build items)

/-- Reads a key and its value. -/
def readPair (element : Action τ Frame) : Action τ (Frame × Frame) := do
  let key ← element
  let value ← element
  pure (key, value)

/-- Reads what follows a header, given how to read an element. -/
def readBody (d : Decoder) (element : Action τ Frame) (tag : Tag) (payload : Bytes) :
    Action τ Frame :=
  match tag with
  | .bulk => do
    match ← accept payload (d.readLength payload) with
    | none => pure .null
    | some n =>
      let data ← readBlob n
      pure (.bulk data)
  | .blobError => do
    let n ← accept payload (d.readRequiredLength payload)
    let data ← readBlob n
    pure (.error ⟨Utf8.lossy data, true⟩)
  | .verbatim => do
    let n ← accept payload (d.readRequiredLength payload)
    let data ← readBlob n
    accept data (splitVerbatim data)
  | .array => d.readSequence payload element .array
  | .set => d.readSequence payload element .set
  | .push => d.readSequence payload element .push
  | .map => d.readSequence payload (readPair element) .map
  | tag => accept payload (readScalar tag payload)

/-- Reads a frame that is at most `depth` levels deep. -/
def readFrame (d : Decoder) : Nat → Action τ Frame
  | 0 => do
    let _ ← d.readHeader
    Action.stall
  | depth + 1 => do
    let (tag, payload) ← d.readHeader
    d.readBody (d.readFrame depth) tag payload

/-- Reads a frame of any depth that the transport can still give. -/
def readElement (d : Decoder) : Action τ Frame := fun t =>
  d.readFrame (Transport.pending t) t

/-- Gives the transport up if an action on it fails. -/
def orDisconnect (x : Action τ α) : Action τ α := fun t =>
  match x t with
  | (.error e, t) => (.error e, Transport.disconnect t)
  | other => other

/-- Reads one whole reply. -/
def decode (d : Decoder) : Action τ Frame :=
  orDisconnect d.readElement

end

/-- Decodes the first reply in a byte string. -/
def decodeBytes (d : Decoder) (bytes : Bytes) : Outcome Frame :=
  (d.decode ({ input := bytes } : MemoryLink)).1

end Decoder

end RespClient
