import RespClient.Wire.Decoding
import RespClient.Frame.Encoding

/-!
# Exchanges

An exchange sends one command and reads its reply. An error reply is a frame like
any other here.
-/

namespace RespClient

/-- Sends a command and reads its reply. -/
def exchange {τ : Type} [Transport τ] (d : Decoder) (c : Command) : Action τ Frame := do
  Transport.write c.encode
  d.decode

end RespClient
