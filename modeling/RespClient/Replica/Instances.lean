import RespClient.Frame.Notation
import RespClient.Node.Address

/-!
# What sentinels say

A sentinel describes a master by its host and port, and replicas and other
sentinels as lists of fields. A list of fields is a flat array of keys and values
or a map. Replicas that are flagged as down are left out.
-/

namespace RespClient.Sentinel

/-- The fields of an instance. -/
abbrev Fields := List (String × String)

/-- A text; sentinels may send numbers as such. -/
def readText? : Frame → Option String
  | .integer n => some (Numeral.intText n.toInt)
  | frame => frame.asText

/-- The failure of a reply that is not what was asked for. -/
def malformed (what : String) (frame : Frame) (endpoint : String) : Failure :=
  .protocol ("malformed " ++ what ++ " reply") frame.debugText endpoint

/-- Reads the host and port of a master. -/
def readMaster? : Frame → Option Address
  | .array [host, port] =>
    match readText? host, (readText? port).bind Numeral.readUInt16? with
    | some host, some port => some { host, port }
    | _, _ => none
  | _ => none

/-- Reads the address of a master. -/
def readMaster (reply : Frame) (endpoint : String) : Except Failure Node :=
  match readMaster? reply with
  | some a => .ok { a with label := some "master" }
  | none => .error (malformed "master address" reply endpoint)

/-! ## Instances -/

/-- Reads a key and its value. -/
def readField? (key value : Frame) : Option (String × String) :=
  match readText? key, readText? value with
  | some key, some value => some (key, value)
  | _, _ => none

/-- Reads keys and values that alternate. -/
def readFlat? : List Frame → Option Fields
  | [] => some []
  | [_] => none
  | key :: value :: rest =>
    match readField? key value, readFlat? rest with
    | some field, some fields => some (field :: fields)
    | _, _ => none

/-- Reads the fields of an instance. -/
def readFields? : Frame → Option Fields
  | .array items => readFlat? items
  | .map pairs => pairs.mapM fun (key, value) => readField? key value
  | _ => none

/-- Reads the fields of instances in order. -/
def readEach (endpoint : String) : List Frame → Except Failure (List Fields)
  | [] => .ok []
  | entry :: rest =>
    match readFields? entry with
    | none => .error (malformed "instance" entry endpoint)
    | some fields =>
      match readEach endpoint rest with
      | .error e => .error e
      | .ok more => .ok (fields :: more)

/-- Reads a list of instances. -/
def readInstances (reply : Frame) (endpoint : String) : Except Failure (List Fields) :=
  match reply with
  | .array entries | .set entries => readEach endpoint entries
  | other => .error (malformed "instance list" other endpoint)

namespace Fields

/-- The first value of a key. -/
def get? (fields : Fields) (key : String) : Option String :=
  (fields.find? (·.1 == key)).map (·.2)

/-- Does a flag say that the instance is down? -/
def isDownFlag (flag : List Char) : Bool :=
  flag == "s_down".toList || flag == "o_down".toList || flag == "disconnected".toList ||
    "_down".toList.isSuffixOf flag

/-- Is the instance flagged as down? -/
def isDown (fields : Fields) : Bool :=
  match fields.get? "flags" with
  | some flags => (flags.toList.splitOn ',').any isDownFlag
  | none => false

/-- Fields in debug notation. -/
def debugText (fields : Fields) : String :=
  "[" ++ ", ".intercalate (fields.map fun (key, value) =>
    "(" ++ Quoted.text key ++ ", " ++ Quoted.text value ++ ")") ++ "]"

/-- The address of an instance. -/
def address (fields : Fields) (endpoint : String) : Except Failure Address :=
  match fields.get? "ip", (fields.get? "port").bind Numeral.readUInt16? with
  | some host, some port => .ok { host, port }
  | _, _ => .error (.protocol "instance without ip/port" (debugText fields) endpoint)

end Fields

/-- The addresses of instances in order. -/
def addresses (endpoint : String) : List Fields → Except Failure (List Address)
  | [] => .ok []
  | fields :: rest =>
    match fields.address endpoint with
    | .error e => .error e
    | .ok a =>
      match addresses endpoint rest with
      | .error e => .error e
      | .ok more => .ok (a :: more)

/-- Reads the replicas that are not flagged as down. -/
def readReplicas (reply : Frame) (endpoint : String) : Except Failure (List Node) :=
  match readInstances reply endpoint with
  | .error e => .error e
  | .ok instances =>
    (addresses endpoint (instances.filter fun fields => !fields.isDown)).map fun as =>
      as.map fun a => { a with label := some "replica" }

/-- Reads the other sentinels. -/
def readPeers (reply : Frame) (endpoint : String) : Except Failure (List Node) :=
  match readInstances reply endpoint with
  | .error e => .error e
  | .ok instances => (addresses endpoint instances).map fun as => as.map fun a => { a with }

end RespClient.Sentinel
