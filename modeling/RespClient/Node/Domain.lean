import RespClient.Node.Domain.Label
import RespClient.Node.Ipv4
import RespClient.Text.Utf8

/-!
# Domain names

The hosts of web and file URLs. A host is an IPv6 literal in brackets or a name, which
is UTF-8 text with percent signs for any of its bytes. A name consists of labels with
dots between them and needs a character at least, and one that ends in a number has to
be an address.
-/

namespace RespClient.Domain

/-- The bytes of a text, where `%` and two hexadecimal digits are one byte. -/
def percentDecode : List Char → Bytes
  | [] => []
  | '%' :: a :: b :: rest =>
    match Ipv6.hexValue? a, Ipv6.hexValue? b with
    | some high, some low => UInt8.ofNat (high * 16 + low) :: percentDecode rest
    | _, _ => 37 :: percentDecode (a :: b :: rest)
  | c :: rest => String.utf8EncodeChar c ++ percentDecode rest

/-- Reads the labels of a name, in folded form. Bytes that are no text become a
character that no name may hold. -/
def readName? (cs : List Char) : Option (List (List Char)) := do
  let name ← fold? (Utf8.lossy (percentDecode cs)).toList
  let labels := name.splitOn '.'
  let read ← labels.mapM readLabel?
  if areLabels read then some labels else none

/-- May the text be a host? -/
def isHost (cs : List Char) : Bool :=
  match cs with
  | '[' :: rest => rest.getLast? == some ']' && (Ipv6.read? rest.dropLast).isSome
  | cs => ((readName? cs).filter (· != [[]])).any Ipv4.permits

end RespClient.Domain
