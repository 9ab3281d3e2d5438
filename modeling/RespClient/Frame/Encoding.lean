import RespClient.Frame.Tag
import RespClient.Command
import RespClient.Decimal.Shortest

/-!
# Encoding

Frames and commands as bytes. A value is written as a line after its tag, as a
counted blob, or as a counted sequence of frames. The revision of the protocol
decides only how null is written.
-/

namespace RespClient

namespace Encoding

/-- A tag, a payload and the end of the line. -/
def line (tag : Tag) (payload : Bytes) : Bytes :=
  tag.byte :: payload ++ Bytes.crlf

/-- A tag and a count. -/
def header (tag : Tag) (count : Nat) : Bytes :=
  line tag (Numeral.natBytes count)

/-- A tag and a counted payload. -/
def blob (tag : Tag) (payload : Bytes) : Bytes :=
  header tag payload.length ++ (payload ++ Bytes.crlf)

end Encoding

namespace Frame

open Encoding

mutual

/-- The bytes of a frame. -/
def encode (p : Protocol) : Frame → Bytes
  | .simple b => line .simple b
  | .error e =>
    if e.blob then blob .blobError (Utf8.encode e.message)
    else line .error (Utf8.encode e.message)
  | .integer n => line .integer (Numeral.intBytes n.toInt)
  | .bulk b => blob .bulk b
  | .array items => header .array items.length ++ encodeAll p items
  | .null =>
    match p with
    | .resp2 => line .bulk (Utf8.encode "-1")
    | .resp3 => line .null []
  | .double d => line .double (Utf8.encode d.plainText)
  | .boolean b => line .boolean [if b then 116 else 102]
  | .bigNumber text => line .bigNumber (Utf8.encode text)
  | .map pairs => header .map pairs.length ++ encodePairs p pairs
  | .set items => header .set items.length ++ encodeAll p items
  | .push items => header .push items.length ++ encodeAll p items
  | .verbatim format data => blob .verbatim (format ++ 58 :: data)

/-- The bytes of frames, one after another. -/
def encodeAll (p : Protocol) : List Frame → Bytes
  | [] => []
  | frame :: rest => encode p frame ++ encodeAll p rest

/-- The bytes of keys and values, alternating. -/
def encodePairs (p : Protocol) : List (Frame × Frame) → Bytes
  | [] => []
  | (k, v) :: rest => encode p k ++ (encode p v ++ encodePairs p rest)

end

end Frame

namespace Command

/-- A command on the wire is an array of bulk strings. -/
def encode (c : Command) : Bytes :=
  Encoding.header .array c.size ++ c.parts.flatMap (Encoding.blob .bulk)

/-- The frame that a command is. -/
def toFrame (c : Command) : Frame :=
  .array (c.parts.map .bulk)

end Command

/-! ## Encoders -/

/-- Gathers what is encoded until it is taken. -/
structure Encoder where
  protocol : Protocol := .resp2
  buffer : Bytes := []
  deriving DecidableEq, Repr

namespace Encoder

/-- Adds a frame. -/
def put (frame : Frame) (e : Encoder) : Encoder :=
  { e with buffer := e.buffer ++ frame.encode e.protocol }

/-- Adds a command. -/
def putCommand (c : Command) (e : Encoder) : Encoder :=
  { e with buffer := e.buffer ++ c.encode }

/-- Takes what was gathered and begins anew. -/
def take (e : Encoder) : Bytes × Encoder :=
  (e.buffer, { e with buffer := [] })

end Encoder

end RespClient
