import RespClient.Routing.Router

/-!
# Where redirects lead

A redirect says which node a command goes to next, and whether `ASKING` goes right before
it there. A `MOVED` also says who owns a slot. A redirect that leads nowhere, since its
address is none or its slot is beyond the last one, is an invalid argument.
-/

namespace RespClient

/-! ## What replies say -/

namespace Redirect

theorem target_eq_error {address : String} {sender : Node} {e : Failure}
    (h : target address sender = .error e) : ∃ text, e = .invalidArgument text := by
  unfold target at h
  split at h
  · split at h
    · cases h
    · cases h
      exact ⟨_, rfl⟩
  · unfold Node.parse Address.parse at h
    split at h
    · cases h
    · rename_i fault _
      cases h
      cases fault <;> exact ⟨_, rfl⟩

/-- A redirect to another node, for good or for one command. -/
def Leads : Failure → Prop
  | .moved _ _ | .ask _ _ => True
  | _ => False

/-- What an error reply can mean. -/
theorem classify_cases (e : ErrorReply) :
    (∃ text, classify e = .server text) ∨ Leads (classify e) ∨
      classify e = .clusterDown ∨ classify e = .crossSlot := by
  unfold classify
  dsimp only
  split
  · split
    · exact .inr (.inl trivial)
    · exact .inl ⟨_, rfl⟩
  · split
    · exact .inr (.inl trivial)
    · exact .inl ⟨_, rfl⟩
  · exact .inr (.inr (.inl rfl))
  · exact .inr (.inr (.inr rfl))
  · exact .inl ⟨_, rfl⟩

theorem isUnreachable_classify (e : ErrorReply) : (classify e).isUnreachable = false := by
  rcases classify_cases e with ⟨text, h⟩ | h | h | h
  · rw [h]
    rfl
  · cases hd : classify e <;> rw [hd] at h <;> first | rfl | cases h
  · rw [h]
    rfl
  · rw [h]
    rfl

theorem ofReply?_eq_some {reply : Frame} {d : Failure} (h : ofReply? reply = some d) :
    Leads d ∨ d = .clusterDown ∨ d = .crossSlot := by
  unfold ofReply? at h
  rcases herror : reply.asError with _ | e
  · rw [herror] at h
    cases h
  · rw [herror, Option.map_some] at h
    rcases classify_cases e with ⟨text, hclass⟩ | hclass
    · rw [hclass] at h
      cases h
    · split at h
      · cases h
      · cases h
        exact hclass

/-- An error reply that is not about routing is an error of the server. -/
theorem classify_of_plain {e : ErrorReply} (h : ofReply? (.error e) = none) :
    ∃ text, classify e = .server text := by
  have hsome : (Frame.error e).asError = some e := rfl
  unfold ofReply? at h
  rw [hsome, Option.map_some] at h
  split at h
  · rename_i text hclass
    exact ⟨text, Option.some.inj hclass⟩
  · cases h

end Redirect

theorem SlotMap.assignSlot_eq_error {m : SlotMap} {slot : Nat} {node : Node} {e : Failure}
    (h : m.assignSlot slot node = .error e) : ∃ text, e = .invalidArgument text := by
  unfold assignSlot assign at h
  split at h
  · rename_i hcheck
    cases h
    unfold checkRange at hcheck
    split at hcheck
    · cases hcheck
    · cases hcheck
      exact ⟨_, rfl⟩
  · cases h

theorem Failure.bind_eq_error {α β : Type} {x : Except Failure α} {f : α → Except Failure β}
    {e : Failure} : (x >>= f) = .error e ↔ x = .error e ∨ ∃ a, x = .ok a ∧ f a = .error e := by
  cases x with
  | error e' => simp [bind, Except.bind]
  | ok a => simp [bind, Except.bind]

theorem Failure.bind_eq_ok {α β : Type} {x : Except Failure α} {f : α → Except Failure β} {b : β} :
    (x >>= f) = .ok b ↔ ∃ a, x = .ok a ∧ f a = .ok b := by
  cases x with
  | error e => simp [bind, Except.bind]
  | ok a => simp [bind, Except.bind]

/-! ## From node to node -/

/-- A node that a command is sent to. -/
structure Leg where
  node : Node
  /-- Does `ASKING` go right before the command? -/
  asking : Bool := false

namespace Leg

def commands (leg : Leg) (c : Command) : List Command :=
  if leg.asking then [.asking, c] else [c]

/-- Where a redirect leads, and the slot map with what it says. -/
def next (leg : Leg) (slots : SlotMap) : Failure → Except Failure (Leg × SlotMap)
  | .moved slot address => do
    let node ← Redirect.target address leg.node
    let slots ← slots.assignSlot slot node
    return ({ node }, slots)
  | .ask _ address => do
    let node ← Redirect.target address leg.node
    return ({ node, asking := true }, slots)
  | e => .error e

/-- A redirect leads to the node that its address names, and either keeps the map or makes that
node the owner of a slot. -/
theorem next_eq_ok {leg leg' : Leg} {slots slots' : SlotMap} {d : Failure}
    (h : leg.next slots d = .ok (leg', slots')) :
    ∃ address, Redirect.target address leg.node = .ok leg'.node ∧
      (slots' = slots ∨ ∃ slot, slots.assignSlot slot leg'.node = .ok slots') := by
  cases d with
  | moved slot address =>
      obtain ⟨node, htarget, h⟩ := Failure.bind_eq_ok.mp h
      obtain ⟨m, hassign, h⟩ := Failure.bind_eq_ok.mp h
      cases h
      exact ⟨address, htarget, .inr ⟨slot, hassign⟩⟩
  | ask slot address =>
      obtain ⟨node, htarget, h⟩ := Failure.bind_eq_ok.mp h
      cases h
      exact ⟨address, htarget, .inl rfl⟩
  | _ => cases h

/-- A redirect that leads nowhere is an invalid argument. -/
theorem next_eq_error {leg : Leg} {slots : SlotMap} {d e : Failure} (hleads : Redirect.Leads d)
    (h : leg.next slots d = .error e) : ∃ text, e = .invalidArgument text := by
  cases d with
  | moved slot address =>
      rcases Failure.bind_eq_error.mp h with htarget | ⟨node, -, h⟩
      · exact Redirect.target_eq_error htarget
      · rcases Failure.bind_eq_error.mp h with hassign | ⟨m, -, h⟩
        · exact SlotMap.assignSlot_eq_error hassign
        · cases h
  | ask slot address =>
      rcases Failure.bind_eq_error.mp h with htarget | ⟨node, -, h⟩
      · exact Redirect.target_eq_error htarget
      · cases h
  | _ => cases hleads

/-- Where redirects lead one after another, and the map with what all of them say. -/
def travel (leg : Leg) (slots : SlotMap) (redirects : List Failure) :
    Except Failure (Leg × SlotMap) :=
  redirects.foldlM (fun way d => way.1.next way.2 d) (leg, slots)

theorem travel_cons_of_next {leg leg' : Leg} {slots slots' : SlotMap} {d : Failure}
    (h : leg.next slots d = .ok (leg', slots')) (ds : List Failure) :
    leg.travel slots (d :: ds) = leg'.travel slots' ds := by
  unfold travel
  rw [List.foldlM_cons, h]
  rfl

end Leg

end RespClient
