import RespClient.Action

/-!
# Transports

A transport is a byte link to one endpoint: it takes bytes to send, and it gives
bytes back by the line or by the count. Once it is disconnected it gives nothing
any more.
-/

namespace RespClient

/-- What a byte link can do. -/
class Transport (τ : Type) where
  /-- What the link leads to, for messages. -/
  endpoint : τ → String
  /-- Can the link still be used? -/
  isConnected : τ → Bool
  /-- Gives the link up for good. -/
  disconnect : τ → τ
  /-- Sends bytes. -/
  write : Bytes → Action τ Unit
  /-- Reads the bytes up to the next line end, which is dropped. -/
  readLine : Action τ Bytes
  /-- Reads exactly so many bytes. -/
  readBytes : Nat → Action τ Bytes
  /-- A bound on the bytes that can still be read. -/
  pending : τ → Nat

end RespClient
