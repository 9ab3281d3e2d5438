import RespClient.Text.Numeral

/-!
# Commands

A command is a verb and its arguments, all of them arbitrary bytes.
-/

namespace RespClient

/-- A command. -/
structure Command where
  verb : Bytes
  args : List Bytes := []
  deriving DecidableEq, Repr

namespace Command

/-- The verb followed by the arguments. -/
def parts (c : Command) : List Bytes :=
  c.verb :: c.args

/-- The number of parts. -/
def size (c : Command) : Nat :=
  c.args.length + 1

/-- A command of text parts. -/
def ofText (verb : String) (args : List String := []) : Command :=
  ⟨Utf8.encode verb, args.map Utf8.encode⟩

/-! ## The commands that the library itself sends -/

/-- Asks for a sign of life. -/
def ping : Command :=
  ofText "PING"

/-- Chooses a revision of the protocol. -/
def hello (revision : Nat) : Command :=
  ⟨Utf8.encode "HELLO", [Numeral.natBytes revision]⟩

/-- Asks for the owners of all slots. -/
def clusterSlots : Command :=
  ofText "CLUSTER" ["SLOTS"]

/-- Lets the next command through to a slot that is being moved in. -/
def asking : Command :=
  ofText "ASKING"

/-- Asks a sentinel for the master of a service. -/
def sentinelMaster (service : Bytes) : Command :=
  ⟨Utf8.encode "SENTINEL", [Utf8.encode "get-master-addr-by-name", service]⟩

/-- Asks a sentinel for the replicas of a service. -/
def sentinelReplicas (service : Bytes) : Command :=
  ⟨Utf8.encode "SENTINEL", [Utf8.encode "slaves", service]⟩

/-- Asks a sentinel for the other sentinels of a service. -/
def sentinelPeers (service : Bytes) : Command :=
  ⟨Utf8.encode "SENTINEL", [Utf8.encode "sentinels", service]⟩

end Command

end RespClient
