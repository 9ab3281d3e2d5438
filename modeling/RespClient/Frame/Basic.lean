import RespClient.Action
import RespClient.Text.Blank
import RespClient.Decimal.Binary64

/-!
# Frames

A frame is one reply of the RESP protocol, of revision 2 or 3, with everything
nested in it. Bulk strings, status lines, errors, whole numbers, arrays and null
exist in both revisions, the rest only in RESP3.
-/

namespace RespClient

/-- The revisions of the protocol. -/
inductive Protocol where
  | resp2
  | resp3
  deriving DecidableEq, Repr

/-- An error reply as the server sent it. -/
structure ErrorReply where
  /-- The full text, its type token included. -/
  message : String
  /-- Was it sent as a counted blob rather than as a line? -/
  blob : Bool := false
  deriving DecidableEq, Repr

/-- A reply. -/
inductive Frame where
  | simple (payload : Bytes)
  | error (reply : ErrorReply)
  | integer (value : Int64)
  | bulk (payload : Bytes)
  | array (items : List Frame)
  | null
  | double (value : Binary64)
  | boolean (value : Bool)
  /-- A whole number of any size, kept as its decimal text. -/
  | bigNumber (text : String)
  /-- Pairs of key and value in wire order, duplicates included. -/
  | map (pairs : List (Frame × Frame))
  | set (items : List Frame)
  | push (items : List Frame)
  /-- Text with a three-letter format tag. -/
  | verbatim (format data : Bytes)

/-- The type of an error reply: its first word, or nothing. -/
def ErrorReply.kind (e : ErrorReply) : String :=
  String.ofList ((Blank.words e.message.toList).headD [])

namespace Frame

/-- The payload of a string-like frame. -/
def asBytes : Frame → Option Bytes
  | .simple b | .bulk b | .verbatim _ b => some b
  | _ => none

/-- The value of an integer frame. -/
def asInt : Frame → Option Int64
  | .integer n => some n
  | _ => none

/-- The elements of an array, set or push. -/
def elements : Frame → Option (List Frame)
  | .array items | .set items | .push items => some items
  | _ => none

/-- Is it null? -/
def isNull : Frame → Bool
  | .null => true
  | _ => false

/-- The error reply that a frame carries. -/
def asError : Frame → Option ErrorReply
  | .error e => some e
  | _ => none

/-- Treats an error reply as a failure. -/
def result : Frame → Except Failure Frame
  | .error e => .error (.server e.message)
  | frame => .ok frame

/-- The value of a big number, if 128 bits hold it. -/
def narrow : Frame → Option Int
  | .bigNumber text => Numeral.readWord? 128 (Utf8.encode text)
  | _ => none

/-- The payload of a string-like frame as text. -/
def asText (frame : Frame) : Option String :=
  frame.asBytes.map Utf8.lossy

/-! ## Equality of values

Two frames are the same value when they have the same shape and equal parts,
where doubles are compared as numbers: `0` equals `-0` and NaN equals nothing. -/

mutual

/-- Are the frames the same value? -/
def same : Frame → Frame → Bool
  | .simple a, .simple b => a == b
  | .error a, .error b => a == b
  | .integer a, .integer b => a == b
  | .bulk a, .bulk b => a == b
  | .array a, .array b => sameAll a b
  | .null, .null => true
  | .double a, .double b => a.same b
  | .boolean a, .boolean b => a == b
  | .bigNumber a, .bigNumber b => a == b
  | .map a, .map b => samePairs a b
  | .set a, .set b => sameAll a b
  | .push a, .push b => sameAll a b
  | .verbatim f a, .verbatim g b => f == g && a == b
  | _, _ => false

/-- Are the lists equally long, with the same values in order? -/
def sameAll : List Frame → List Frame → Bool
  | [], [] => true
  | a :: as, b :: bs => same a b && sameAll as bs
  | _, _ => false

/-- Are the lists equally long, with the same keys and values in order? -/
def samePairs : List (Frame × Frame) → List (Frame × Frame) → Bool
  | [], [] => true
  | (k, v) :: as, (l, w) :: bs => same k l && same v w && samePairs as bs
  | _, _ => false

end

end Frame

end RespClient
