import RespClient.Failure
import RespClient.Text.Blank

/-!
# Nodes and their addresses

A node is a server of the cluster, known by its host and port. A label may come
with it, an identifier or a role; it says nothing about which node it is, so
nodes are compared by their addresses.

An address is written `host:port`, with the host in brackets when it contains a
colon itself. It is read with or without a `redis://` or `rediss://` in front and
slashes behind.
-/

namespace RespClient

/-- Where a node listens. -/
structure Address where
  host : String
  port : UInt16
  deriving DecidableEq, Repr

/-- A node. -/
structure Node extends Address where
  label : Option String := none
  deriving DecidableEq, Repr

/-- Is it the same node? The label does not count. -/
def Node.same (a b : Node) : Bool :=
  a.toAddress == b.toAddress

/-- What can be wrong with the text of an address. -/
inductive AddressFault where
  | missingPort (text : String)
  | missingHost (text : String)
  | badPort (text : String)

/-- The fault as a failure. -/
def AddressFault.failure : AddressFault → Failure
  | .missingPort text => .invalidArgument ("missing port in address '" ++ text ++ "'")
  | .missingHost text => .invalidArgument ("missing host in address '" ++ text ++ "'")
  | .badPort text => .invalidArgument ("invalid port in address '" ++ text ++ "'")

namespace Address

/-- The address as text. -/
def text (a : Address) : String :=
  let host := if a.host.toList.contains ':' then "[" ++ a.host ++ "]" else a.host
  host ++ ":" ++ Numeral.natText a.port.toNat

/-- What follows `lead` in a text that begins with it. -/
def after? (lead : String) (cs : List Char) : Option (List Char) :=
  if lead.toList.isPrefixOf cs then some (cs.drop lead.length) else none

/-- Drops the scheme in front, if there is one. -/
def dropScheme (cs : List Char) : List Char :=
  ((after? "redis://" cs).or (after? "rediss://" cs)).getD cs

/-- Drops all slashes at the end. -/
def dropSlashes (cs : List Char) : List Char :=
  (cs.reverse.dropWhile (· == '/')).reverse

/-- Splits a text at its last colon. -/
def splitLast? (cs : List Char) : Option (List Char × List Char) :=
  match cs.reverse.span (· != ':') with
  | (_, []) => none
  | (port, _ :: host) => some (host.reverse, port.reverse)

/-- Drops the brackets around a host that has both of them. -/
def dropBrackets (cs : List Char) : List Char :=
  match cs with
  | '[' :: rest => if rest.getLast? = some ']' then rest.dropLast else cs
  | cs => cs

/-- Reads an address that was already stripped of what may surround it. -/
def readBare (cs : List Char) : Except AddressFault Address :=
  match splitLast? cs with
  | none => .error (.missingPort (String.ofList cs))
  | some (host, port) =>
    let host := dropBrackets host
    if host.isEmpty then .error (.missingHost (String.ofList cs))
    else
      match Numeral.readUInt16? (String.ofList port) with
      | none => .error (.badPort (String.ofList cs))
      | some port => .ok ⟨String.ofList host, port⟩

/-- Reads an address. -/
def parse (text : String) : Except Failure Address :=
  match readBare (dropSlashes (dropScheme (Blank.trim text.toList))) with
  | .ok a => .ok a
  | .error fault => .error fault.failure

end Address

namespace Node

/-- Reads a node, which has no label then. -/
def parse (text : String) : Except Failure Node :=
  (Address.parse text).map fun a => { a with }

/-- Reads a list of nodes with commas between them. Items that are blank are left
out, the first bad item decides, and one item is needed. -/
def parseSeeds (text : String) : Except Failure (List Node) :=
  let items := ((text.toList.splitOn ',').map Blank.trim).filter fun item => !item.isEmpty
  match items.mapM fun item => parse (String.ofList item) with
  | .error e => .error e
  | .ok [] => .error (.invalidArgument "no valid addresses provided")
  | .ok nodes => .ok nodes

end Node

end RespClient
