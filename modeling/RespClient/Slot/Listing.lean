import RespClient.Slot.Map
import RespClient.Frame.Notation

/-!
# Slot listings

A cluster node lists the owners of all slots as an array of entries: first slot,
last slot, the master and perhaps its replicas. A node is an array of host, port
and perhaps an identifier. Later entries win over earlier ones. A listing is read
as a whole: one bad entry spoils it.
-/

namespace RespClient

/-- What can be wrong with a slot listing. -/
inductive ListingFault where
  | notArray
  | shortEntry
  | badStart
  | badEnd
  | badMaster
  | badRange
  deriving DecidableEq, Repr

/-- The fault in words. -/
def ListingFault.message : ListingFault → String
  | .notArray => "expected an array"
  | .shortEntry => "slot entry must hold start, end and master"
  | .badStart => "invalid start slot"
  | .badEnd => "invalid end slot"
  | .badMaster => "invalid master node"
  | .badRange => "invalid slot range"

namespace SlotMap

/-- A slot number. -/
def readSlot? (frame : Frame) : Option Nat :=
  match frame.asInt with
  | some n => if 0 ≤ n.toInt ∧ n.toInt ≤ Slot.last then some n.toInt.toNat else none
  | none => none

/-- A port number. -/
def readPort? (frame : Frame) : Option UInt16 :=
  match frame.asInt with
  | some n => if 0 ≤ n.toInt ∧ n.toInt ≤ 65535 then some (UInt16.ofNat n.toInt.toNat) else none
  | none => none

/-- A node with its identifier as label. An empty identifier is none. -/
def readNode? (frame : Frame) : Option Node :=
  match frame with
  | .array (host :: port :: more) =>
    match host.asText, readPort? port with
    | some host, some port =>
      let id := (more.head?.bind Frame.asText).filter (· ≠ "")
      some { host, port, label := id }
    | _, _ => none
  | _ => none

/-- Adds an entry of a listing to a map. -/
def addEntry (m : SlotMap) (entry : Frame) : Except ListingFault SlotMap :=
  match entry with
  | .array (start :: stop :: master :: _) =>
    match readSlot? start with
    | none => .error .badStart
    | some a =>
      match readSlot? stop with
      | none => .error .badEnd
      | some b =>
        match readNode? master with
        | none => .error .badMaster
        | some node =>
          match m.assign a b node with
          | .ok m => .ok m
          | .error _ => .error .badRange
  | _ => .error .shortEntry

/-- Adds entries in order. -/
def addEntries (m : SlotMap) : List Frame → Except ListingFault SlotMap
  | [] => .ok m
  | entry :: rest =>
    match m.addEntry entry with
    | .ok m => m.addEntries rest
    | .error fault => .error fault

/-- Reads a listing. -/
def readListing (frame : Frame) : Except ListingFault SlotMap :=
  match frame with
  | .array entries => empty.addEntries entries
  | _ => .error .notArray

/-- Reads the listing that an endpoint sent. -/
def ofListing (frame : Frame) (endpoint : String) : Except Failure SlotMap :=
  match readListing frame with
  | .ok m => .ok m
  | .error fault =>
    .error (.protocol ("malformed CLUSTER SLOTS reply: " ++ fault.message) frame.debugText endpoint)

end SlotMap

end RespClient
