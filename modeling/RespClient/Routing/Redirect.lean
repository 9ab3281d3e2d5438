import RespClient.Frame.Basic
import RespClient.Node.Address

/-!
# Redirects

Some error replies of a cluster are about routing: a slot has moved for good, or
for one command while it is being moved, or the cluster cannot answer. They are
told apart by their words. A redirect names a slot and an address; an address
without a host means the host of the node that answered.
-/

namespace RespClient.Redirect

/-! ## Taking an error apart

The type of an error is the first word of its text, and the rest is found by the length of
the type, in the text without the white space around it. -/

/-- The text of an error behind its type, if it can be cut there. -/
def arguments? (e : ErrorReply) : Option (List Char) :=
  (Utf8.dropBytes? (Utf8.size e.kind.toList) (Blank.trim e.message.toList)).map Blank.trimStart

/-- Once it is trimmed, the text begins with its type, and what follows holds the other words. -/
theorem trim_message (e : ErrorReply) :
    ∃ rest, Blank.trim e.message.toList = e.kind.toList ++ Blank.trimEnd rest ∧
      (Blank.words e.message.toList).tail = Blank.words rest := by
  rw [Blank.trim, ErrorReply.kind, String.toList_ofList]
  rcases Blank.trimStart_cases e.message.toList with ⟨htrim, hwords⟩ | h
  · exact ⟨[], by rw [htrim, hwords]; rfl, by rw [hwords]; rfl⟩
  · obtain ⟨word, rest, htrim, hword, hne, hrest⟩ := h
    have hwords : Blank.words e.message.toList = word :: Blank.words rest := by
      rw [← Blank.words_trimStart, htrim, Blank.words_append hword hne hrest]
    exact ⟨rest, by rw [htrim, Blank.trimEnd_append hword, hwords]; rfl, by rw [hwords]; rfl⟩

/-- The text can always be cut behind the type. -/
theorem arguments?_eq (e : ErrorReply) :
    ∃ args, arguments? e = some args ∧
      Blank.words args = (Blank.words e.message.toList).tail := by
  obtain ⟨rest, htrim, hwords⟩ := trim_message e
  refine ⟨Blank.trimStart (Blank.trimEnd rest), ?_, ?_⟩
  · rw [arguments?, htrim, Utf8.dropBytes?_append, Option.map_some]
  · rw [Blank.words_trimStart, Blank.words_trimEnd, hwords]

theorem isSome_arguments? (e : ErrorReply) : (arguments? e).isSome = true := by
  obtain ⟨args, hargs, -⟩ := arguments?_eq e
  rw [hargs, Option.isSome_some]

/-- The text of an error behind its type. -/
def arguments (e : ErrorReply) : List Char :=
  (arguments? e).get (isSome_arguments? e)

/-- The slot and the address that are the only words of a text. -/
def readSlot? (args : List Char) : Option (Nat × String) :=
  match (Blank.words args).map String.ofList with
  | [slot, address] => (Numeral.readUInt16? slot).map fun slot => (slot.toNat, address)
  | _ => none

/-- What an error reply means for routing. -/
def classify (e : ErrorReply) : Failure :=
  let plain := Failure.server (String.ofList (Blank.trim e.message.toList))
  match e.kind with
  | "MOVED" =>
    match readSlot? (arguments e) with
    | some (slot, address) => .moved slot address
    | none => plain
  | "ASK" =>
    match readSlot? (arguments e) with
    | some (slot, address) => .ask slot address
    | none => plain
  | "CLUSTERDOWN" => .clusterDown
  | "CROSSSLOT" => .crossSlot
  | _ => plain

/-- What a reply says about routing, if anything. -/
def ofReply? (reply : Frame) : Option Failure :=
  match reply.asError.map classify with
  | some (.server _) => none
  | verdict => verdict

/-- The node that a redirect leads to, given the node that sent it. -/
def target (address : String) (sender : Node) : Except Failure Node :=
  match address.toList with
  | ':' :: port =>
    match Numeral.readUInt16? (String.ofList port) with
    | some port => .ok { host := sender.host, port }
    | none => .error (.invalidArgument ("invalid redirect port: " ++ address))
  | _ => Node.parse address

end RespClient.Redirect
