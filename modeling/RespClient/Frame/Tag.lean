import RespClient.Frame.Basic

/-!
# Tags

The first byte of a header line says what kind of frame it begins.
-/

namespace RespClient

/-- The kinds of header lines. -/
inductive Tag where
  | simple
  | error
  | integer
  | bulk
  | array
  | null
  | double
  | boolean
  | blobError
  | verbatim
  | bigNumber
  | map
  | set
  | push
  deriving DecidableEq, Repr

namespace Tag

/-- The byte that stands for a tag. -/
def byte : Tag → UInt8
  | .simple => 43
  | .error => 45
  | .integer => 58
  | .bulk => 36
  | .array => 42
  | .null => 95
  | .double => 44
  | .boolean => 35
  | .blobError => 33
  | .verbatim => 61
  | .bigNumber => 40
  | .map => 37
  | .set => 126
  | .push => 62

/-- The tags of the second revision. -/
def resp2 : List Tag :=
  [.simple, .error, .integer, .bulk, .array]

/-- The tags of the third revision. -/
def resp3 : List Tag :=
  resp2 ++ [.null, .double, .boolean, .blobError, .verbatim, .bigNumber, .map, .set, .push]

/-- The tag that a byte stands for in a revision of the protocol. -/
def ofByte? (p : Protocol) (b : UInt8) : Option Tag :=
  let tags :=
    match p with
    | .resp2 => resp2
    | .resp3 => resp3
  tags.find? fun t => t.byte == b

end Tag

end RespClient
