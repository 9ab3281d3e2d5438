import RespClient.Frame.Basic
import RespClient.Decimal.Shortest

/-!
# Debug notation of frames

A frame is shown as its constructor with its parts in brackets. Failures that
concern a whole reply show it in this notation.
-/

namespace RespClient.Frame

mutual

/-- A frame in debug notation. -/
def debugText : Frame → String
  | .simple b => "SimpleString(" ++ Quoted.bytes b ++ ")"
  | .error e =>
    "Error(ServerError \x7b message: " ++ Quoted.text e.message ++ ", blob: " ++
      (if e.blob then "true" else "false") ++ " \x7d)"
  | .integer n => "Integer(" ++ Numeral.intText n.toInt ++ ")"
  | .bulk b => "BulkString(" ++ Quoted.bytes b ++ ")"
  | .array items => "Array([" ++ debugItems items ++ "])"
  | .null => "Null"
  | .double d => "Double(" ++ d.debugText ++ ")"
  | .boolean b => "Boolean(" ++ (if b then "true" else "false") ++ ")"
  | .bigNumber text => "BigNumber(" ++ Quoted.text text ++ ")"
  | .map pairs => "Map([" ++ debugPairs pairs ++ "])"
  | .set items => "Set([" ++ debugItems items ++ "])"
  | .push items => "Push([" ++ debugItems items ++ "])"
  | .verbatim format data =>
    "VerbatimString \x7b format: " ++ Quoted.bytes format ++ ", data: " ++
      Quoted.bytes data ++ " \x7d"

/-- Frames in debug notation, with commas between them. -/
def debugItems : List Frame → String
  | [] => ""
  | [frame] => debugText frame
  | frame :: rest => debugText frame ++ ", " ++ debugItems rest

/-- Pairs in debug notation, with commas between them. -/
def debugPairs : List (Frame × Frame) → String
  | [] => ""
  | [(k, v)] => "(" ++ debugText k ++ ", " ++ debugText v ++ ")"
  | (k, v) :: rest =>
    "(" ++ debugText k ++ ", " ++ debugText v ++ "), " ++ debugPairs rest

end

end RespClient.Frame
