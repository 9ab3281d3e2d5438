import RespClient.Node.Url
import RespClient.Wire.Decoding

/-!
# Connection settings

What a client says about the connections it wants: where to, in which revision of
the protocol, up to which frame size, and with which time limits in milliseconds.
-/

namespace RespClient

/-- The settings of a connection. -/
structure Settings where
  address : Option String := none
  connectTimeout : Option Nat := none
  readTimeout : Option Nat := none
  writeTimeout : Option Nat := none
  decoder : Decoder := {}

namespace Settings

/-- The node that an address or a URL names. -/
def parseAddress (text : String) : Except Failure Node :=
  if Url.hasScheme text.toList then Url.parseNode text else Node.parse text

/-- The node to connect to. -/
def node (s : Settings) : Except Failure Node :=
  match s.address with
  | none => .error (.invalidArgument "address is required")
  | some text => parseAddress text

end Settings

end RespClient
