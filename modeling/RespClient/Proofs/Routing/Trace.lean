import RespClient.Proofs.Routing.Leg
import RespClient.Proofs.Routing.Reload
import Mathlib.Data.List.Basic

/-!
# The way of one command

A command that is routed once goes to the owner of its slot and from there along the
redirects that are followed. Where it goes next, and whether `ASKING` goes right before
it, depends on the redirect and on the node that sent it alone. A `MOVED` makes one change
to the slot map and an `ASK` makes none, so at the end of the way the map is the one at its
beginning with the changes of all redirects, in order.
-/

namespace RespClient

open RespClient.Action

namespace Router

variable {τ : Type} {p p' : Pool τ} {r r' : Router τ} {slot : Nat}
  {c : Command} {leg leg' : Leg} {reply : Frame} {out : Outcome Frame}

/-! ## Heeding redirects -/

theorem learn_of_ok {node : Node} {slots : SlotMap} (h : r.slots.assignSlot slot node = .ok slots) :
    learn slot node r = (.ok (), { r with slots }) := by
  unfold learn
  rw [view_bind, h]
  rfl

theorem learn_of_error {node : Node} {e : Failure} (h : r.slots.assignSlot slot node = .error e) :
    learn slot node r = (.error e, r) := by
  unfold learn
  rw [view_bind, h]
  rfl

/-- A router that heeds a redirect goes where it leads with the map that it makes, or keeps
the map that it has. -/
theorem heed_eq (leg : Leg) (d : Failure) (r : Router τ) :
    heed leg.node d r = match leg.next r.slots d with
      | .ok (leg', slots) => (.ok (leg'.node, leg'.asking), { r with slots })
      | .error e => (.error e, r) := by
  cases d with
  | moved slot address =>
      simp only [heed, Leg.next]
      rcases Redirect.target address leg.node with e | node
      · rfl
      · show (learn slot node >>= fun _ => pure (node, false)) r = _
        rcases hassign : r.slots.assignSlot slot node with e | slots
        · rw [bind_of_error (learn_of_error hassign)]
          simp only [bind, Except.bind, hassign]
        · rw [bind_of_ok (learn_of_ok hassign)]
          simp only [bind, Except.bind, hassign]
          rfl
  | ask slot address =>
      simp only [heed, Leg.next]
      rcases Redirect.target address leg.node with e | node <;> rfl
  | _ => rfl

/-! ## One leg -/

variable [Transport τ]

/-- The command went to the node, right behind `ASKING` if that is due, both on the link of
the node, and was answered. -/
structure Sends (c : Command) (leg : Leg) (p : Pool τ) (reply : Frame) (p' : Pool τ) : Prop where
  answered : ∃ before, p.requestMany leg.node.toAddress (leg.commands c) =
    (.ok (before ++ [reply]), p') ∧ ∀ f ∈ before, f.asError = none
  contacts : ∃ id, p'.find? leg.node.toAddress = some id ∧
    p'.network.sent = p.network.sent ++
      (leg.commands c).map fun c => ⟨p'.network.addressOf id, id, c⟩

/-- The command was tried at the node: of what is due some was sent, and nothing else. -/
structure Tries (c : Command) (leg : Leg) (p : Pool τ) (out : Outcome (List Frame))
    (p' : Pool τ) : Prop where
  request : Pool.requestMany leg.node.toAddress (leg.commands c) p = (out, p')
  sent : ∃ log, p'.network.sent = p.network.sent ++ log ∧
    log.map (·.command) <+: leg.commands c

theorem tries_of {out : Outcome (List Frame)}
    (h : Pool.requestMany leg.node.toAddress (leg.commands c) p = (out, p')) :
    Tries c leg p out p' :=
  ⟨h, (Pool.requestMany_requested h).sent⟩

/-- The command came to nothing at a node. -/
inductive Undelivered (c : Command) (leg : Leg) (r : Router τ) : Outcome Frame → Router τ → Prop
  /-- The node did not take `ASKING`. -/
  | refused {e : ErrorReply} {reply : Frame} {p : Pool τ} (hasking : leg.asking = true)
      (h : Tries c leg r.pool (.ok [.error e, reply]) p) :
      Undelivered c leg r (.error (Redirect.classify e)) { r with pool := p }
  | failed {e : Failure} {p : Pool τ} (h : Tries c leg r.pool (.error e) p)
      (he : e.isUnreachable = false) : Undelivered c leg r (.error e) { r with pool := p }
  /-- The node could not be reached, and the router looked for another map. -/
  | lost {e : Failure} {p : Pool τ} {r' : Router τ} {out : Outcome Frame}
      (h : Tries c leg r.pool (.error e) p) (he : e.isUnreachable = true)
      (hreloads : Reloads { r with pool := p } r') (hout : out = .error e ∨ out = .stalled) :
      Undelivered c leg r out r'
  | hangs {p : Pool τ} (h : Tries c leg r.pool .stalled p) :
      Undelivered c leg r .stalled { r with pool := p }

theorem sends_of {before : List Frame}
    (h : Pool.requestMany leg.node.toAddress (leg.commands c) p = (.ok (before ++ [reply]), p'))
    (hbefore : ∀ f ∈ before, f.asError = none) : Sends c leg p reply p' :=
  ⟨⟨before, h, hbefore⟩, (Pool.requestMany_requested h).contacts.2⟩

/-- Sending to a node gives the reply to the command, or the error that `ASKING` met, or
what the pool stops with. -/
theorem send_cases (h : send leg.node c leg.asking p = (out, p')) :
    (∃ reply, out = .ok reply ∧ Sends c leg p reply p') ∨
      (∃ e reply, leg.asking = true ∧ out = .error (Redirect.classify e) ∧
        Tries c leg p (.ok [.error e, reply]) p') ∨
      ∃ stop, out = stopped stop ∧ Tries c leg p (stopped stop) p' := by
  obtain ⟨node, _ | _⟩ := leg
  · rcases Pool.request_cases h with ⟨reply, rfl, hmany⟩ | ⟨stop, rfl, hmany⟩
    · have hmany : _ = (Outcome.ok ([] ++ [reply]), p') := hmany
      exact .inl ⟨reply, rfl, sends_of hmany (by simp)⟩
    · exact .inr (.inr ⟨stop, rfl, tries_of hmany⟩)
  · unfold send at h
    rw [if_pos rfl] at h
    rcases bind_cases h with ⟨rs, p₁, hmany, h⟩ | ⟨stop, hmany, rfl⟩
    · obtain ⟨first, reply, rfl⟩ :=
        List.length_eq_two.mp (Pool.requestMany_requested hmany).contacts.1
      have hmany : _ = (Outcome.ok ([first] ++ [reply]), p₁) := hmany
      rcases herror : first.asError with _ | e
      · have hreply : out = .ok reply ∧ p' = p₁ := by
          cases first <;> cases herror <;> cases h <;> exact ⟨rfl, rfl⟩
        obtain ⟨rfl, rfl⟩ := hreply
        exact .inl ⟨reply, rfl, sends_of hmany (by simpa using herror)⟩
      · obtain rfl : first = .error e := by
          cases first <;> cases herror
          rfl
        cases h
        exact .inr (.inl ⟨e, reply, rfl, rfl, tries_of hmany⟩)
    · exact .inr (.inr ⟨stop, rfl, tries_of hmany⟩)

theorem Undelivered.stopped (h : Undelivered c leg r out r') : ∃ stop, out = stopped stop := by
  cases h with
  | refused => exact ⟨some _, rfl⟩
  | failed => exact ⟨some _, rfl⟩
  | lost _ _ _ hout =>
      rcases hout with rfl | rfl
      · exact ⟨some _, rfl⟩
      · exact ⟨none, rfl⟩
  | hangs => exact ⟨none, rfl⟩

theorem deliver_cases (h : deliver leg.node c leg.asking r = (out, r')) :
    (∃ reply p, out = .ok reply ∧ Sends c leg r.pool reply p ∧ r' = { r with pool := p }) ∨
      Undelivered c leg r out r' := by
  rcases hsend : send leg.node c leg.asking r.pool with ⟨sent, p⟩
  have hon : onPool (send leg.node c leg.asking) r = (sent, { r with pool := p }) := onPool_of hsend
  unfold deliver at h
  rcases send_cases hsend with ⟨reply, rfl, hsends⟩ | ⟨e, reply, hasking, rfl, htries⟩ | ⟨stop, rfl, htries⟩
  · rw [bind_of_ok (attempt_of_ok hon)] at h
    cases h
    exact .inl ⟨reply, p, rfl, hsends, rfl⟩
  · right
    rw [bind_of_ok (attempt_of_error hon)] at h
    dsimp only at h
    rw [if_neg (by simp [Redirect.isUnreachable_classify])] at h
    cases h
    exact .refused hasking htries
  · cases stop with
    | none =>
        rw [bind_of_stalled (attempt_of_stalled hon)] at h
        cases h
        exact .inr (.hangs htries)
    | some e =>
        right
        rw [bind_of_ok (attempt_of_error hon)] at h
        dsimp only at h
        split at h
        · rename_i he
          rcases hreroute : reroute leg.node { r with pool := p } with ⟨rerouted, r₁⟩
          obtain ⟨hreloads, rfl | rfl⟩ := reroute_reloads hreroute
          · rw [bind_of_ok hreroute] at h
            cases h
            exact .lost htries he hreloads (.inl rfl)
          · rw [bind_of_stalled hreroute] at h
            cases h
            exact .lost htries he hreloads (.inr rfl)
        · rename_i he
          cases h
          exact .failed htries (by simpa using he)

/-! ## The whole way -/

/-- The command follows redirects from a node, each the reply to the command at the node
before. -/
inductive Follows (c : Command) : Leg → Router τ → List Failure → Leg → Router τ → Prop
  | start (leg : Leg) (r : Router τ) : Follows c leg r [] leg r
  | hop {leg leg' last : Leg} {r r' : Router τ} {reply : Frame} {p : Pool τ} {d : Failure}
      {slots : SlotMap} {ds : List Failure} (hsends : Sends c leg r.pool reply p)
      (hreply : Redirect.ofReply? reply = some d) (hleads : Redirect.Leads d)
      (hnext : leg.next r.slots d = .ok (leg', slots))
      (h : Follows c leg' { r with slots, pool := p } ds last r') :
      Follows c leg r (d :: ds) last r'

/-- What the last node on the way makes of the command, when so many more redirects may
still be followed. -/
inductive Ends (c : Command) (left : Nat) (leg : Leg) (r : Router τ) :
    Outcome Frame → Router τ → Prop
  /-- The reply is not about routing. -/
  | answered {reply : Frame} {p : Pool τ} (hsends : Sends c leg r.pool reply p)
      (hplain : Redirect.ofReply? reply = none) : Ends c left leg r (.ok reply) { r with pool := p }
  /-- The cluster is down, or the keys are in different slots. -/
  | declined {reply : Frame} {p : Pool τ} {e : Failure} (hsends : Sends c leg r.pool reply p)
      (hreply : Redirect.ofReply? reply = some e) (he : e = .clusterDown ∨ e = .crossSlot) :
      Ends c left leg r (.error e) { r with pool := p }
  /-- A redirect beyond the limit is a failure, wherever it leads. -/
  | exhausted {reply : Frame} {p : Pool τ} {d : Failure} (hsends : Sends c leg r.pool reply p)
      (hreply : Redirect.ofReply? reply = some d) (hleads : Redirect.Leads d) (hleft : left = 0) :
      Ends c left leg r (.error d) { r with pool := p }
  /-- A redirect leads nowhere, and teaches nothing. -/
  | misdirected {reply : Frame} {p : Pool τ} {d : Failure} {text : String}
      (hsends : Sends c leg r.pool reply p) (hreply : Redirect.ofReply? reply = some d)
      (hleads : Redirect.Leads d) (hleft : 0 < left)
      (hnext : leg.next r.slots d = .error (.invalidArgument text)) :
      Ends c left leg r (.error (.invalidArgument text)) { r with pool := p }
  | undelivered {out : Outcome Frame} {r' : Router τ} (h : Undelivered c leg r out r') :
      Ends c left leg r out r'

/-- What a node makes of the command goes on only with a reply about routing. -/
theorem deliver_then {onward : Failure → Action (Router τ) Frame}
    (h : (do
      let reply ← deliver leg.node c leg.asking
      match Redirect.ofReply? reply with
      | none => pure reply
      | some e => onward e) r = (out, r')) :
    (∀ left, Ends c left leg r out r') ∨
      ∃ reply p d, Sends c leg r.pool reply p ∧ Redirect.ofReply? reply = some d ∧
        onward d { r with pool := p } = (out, r') := by
  rcases hdeliver : deliver leg.node c leg.asking r with ⟨delivered, r₁⟩
  rcases deliver_cases hdeliver with ⟨reply, p, rfl, hsends, rfl⟩ | hundelivered
  · rw [bind_of_ok hdeliver] at h
    rcases hreply : Redirect.ofReply? reply with _ | d
    · rw [hreply] at h
      cases h
      exact .inl fun _ => .answered hsends hreply
    · rw [hreply] at h
      exact .inr ⟨reply, p, d, hsends, hreply, h⟩
  · obtain ⟨stop, rfl⟩ := hundelivered.stopped
    rw [bind_of_stopped hdeliver] at h
    cases h
    exact .inl fun _ => .undelivered hundelivered

theorem Ends.atOnce {left : Nat} (h : Ends c left leg r out r') :
    ∃ redirects last r₁, Follows c leg r redirects last r₁ ∧ redirects.length ≤ left ∧
      Ends c (left - redirects.length) last r₁ out r' :=
  ⟨[], leg, r, .start leg r, Nat.zero_le _, h⟩

/-- A command follows redirects up to the limit, and ends at some node. -/
theorem follow_trace {left : Nat} (h : follow c left leg.node leg.asking r = (out, r')) :
    ∃ redirects last r₁, Follows c leg r redirects last r₁ ∧ redirects.length ≤ left ∧
      Ends c (left - redirects.length) last r₁ out r' := by
  induction left generalizing leg r with
  | zero =>
      rcases deliver_then h with hend | ⟨reply, p, d, hsends, hreply, h⟩
      · exact (hend _).atOnce
      · cases h
        rcases Redirect.ofReply?_eq_some hreply with hleads | he
        · exact (Ends.exhausted hsends hreply hleads rfl).atOnce
        · exact (Ends.declined hsends hreply he).atOnce
  | succ left ih =>
      rcases deliver_then h with hend | ⟨reply, p, d, hsends, hreply, h⟩
      · exact (hend _).atOnce
      have hheed : heed leg.node d { r with pool := p } = match leg.next r.slots d with
          | .ok (leg', slots) => (.ok (leg'.node, leg'.asking), { r with slots, pool := p })
          | .error e => (.error e, { r with pool := p }) := heed_eq leg d { r with pool := p }
      rcases Redirect.ofReply?_eq_some hreply with hleads | he
      · rcases hnext : leg.next r.slots d with e | ⟨leg', slots⟩
        · rw [hnext] at hheed
          rw [bind_of_error hheed] at h
          cases h
          obtain ⟨text, rfl⟩ := Leg.next_eq_error hleads hnext
          exact (Ends.misdirected hsends hreply hleads (Nat.succ_pos left) hnext).atOnce
        · rw [hnext] at hheed
          rw [bind_of_ok hheed] at h
          obtain ⟨redirects, last, r₁, hfollows, hlen, hlast⟩ := ih h
          refine ⟨d :: redirects, last, r₁, .hop hsends hreply hleads hnext hfollows, ?_, ?_⟩
          · exact Nat.succ_le_succ hlen
          · rw [List.length_cons, Nat.add_sub_add_right]
            exact hlast
      · have hnext : leg.next r.slots d = .error d := by
          rcases he with rfl | rfl <;> rfl
        rw [hnext] at hheed
        rw [bind_of_error hheed] at h
        cases h
        exact (Ends.declined hsends hreply he).atOnce

/-- The way of a command and the map at its end depend on the redirects alone. -/
theorem Follows.travel {ds : List Failure} {r₁ : Router τ} (h : Follows c leg r ds leg' r₁) :
    leg.travel r.slots ds = .ok (leg', r₁.slots) := by
  induction h with
  | start => rfl
  | hop hsends hreply hleads hnext h ih => rw [Leg.travel_cons_of_next hnext, ih]

/-- Did an action end otherwise than by losing a node? -/
def Settled (out : Outcome Frame) : Prop :=
  out ≠ .stalled ∧ ∀ e, out = .error e → e.isUnreachable = false

theorem Undelivered.slots (h : Undelivered c leg r out r') (hout : Settled out) :
    r'.slots = r.slots := by
  cases h with
  | refused | failed | hangs => rfl
  | lost _ he _ hlost =>
      rcases hlost with rfl | rfl
      · rw [hout.2 _ rfl] at he
        cases he
      · exact absurd rfl hout.1

theorem Ends.slots {left : Nat} (h : Ends c left leg r out r') (hout : Settled out) :
    r'.slots = r.slots := by
  cases h with
  | answered | declined | exhausted | misdirected => rfl
  | undelivered h => exact h.slots hout

/-- What one attempt to send a command to the owner of a slot does. -/
inductive Attempt (slot : Nat) (c : Command) (r : Router τ) (out : Outcome Frame)
    (r' : Router τ) : Prop
  /-- No owner is found, and the command is not sent. -/
  | unrouted {stop : Option Failure} (hroutes : Routes slot r (stopped stop) r')
      (hout : out = stopped stop)
  /-- The command goes to the owner and from there along the redirects that are followed. -/
  | routed {owner : Node} {r₁ r₂ : Router τ} {redirects : List Failure} {last : Leg}
      (hroutes : Routes slot r (.ok owner) r₁)
      (hfollows : Follows c { node := owner } r₁ redirects last r₂)
      (hlimit : redirects.length ≤ r.maxRedirects)
      (htravel : Leg.travel { node := owner } r₁.slots redirects = .ok (last, r₂.slots))
      (hends : Ends c (r.maxRedirects - redirects.length) last r₂ out r')
      (hslots : Settled out → r'.slots = r₂.slots)

/-- **Redirects determine the way of a command.** In one attempt the command goes to the
owner of the slot first, which may take reading the slot map once, and then from node to
node as the redirects say that the nodes send: behind `ASKING` on the same link after an
`ASK`, and without after a `MOVED`, which changes the map at its slot alone. A redirect that
leads nowhere ends the attempt with an invalid argument and teaches nothing, and beyond the
limit any redirect is the failure itself. Unless a node is lost, the map at the end is the
one at the start of the way with the changes of all redirects that were followed. -/
theorem executeOnce_attempt (slot : Nat) (c : Command) (r : Router τ) :
    Attempt slot c r (executeOnce slot c r).1 (executeOnce slot c r).2 := by
  rcases h : executeOnce slot c r with ⟨out, r'⟩
  show Attempt slot c r out r'
  unfold executeOnce at h
  rw [view_bind] at h
  rcases hroute : route slot r with ⟨routed, r₁⟩
  have hroutes := route_routes hroute
  cases routed with
  | ok owner =>
      rw [bind_of_ok hroute] at h
      replace h : follow c r.maxRedirects (Leg.mk owner false).node false r₁ = (out, r') := h
      obtain ⟨redirects, last, r₂, hfollows, hlimit, hends⟩ := follow_trace h
      exact .routed hroutes hfollows hlimit hfollows.travel hends hends.slots
  | error e =>
      rw [bind_of_error hroute] at h
      cases h
      replace hroutes : Routes slot r (stopped (some e)) r' := hroutes
      exact .unrouted hroutes (by rfl)
  | stalled =>
      rw [bind_of_stalled hroute] at h
      cases h
      replace hroutes : Routes slot r (stopped none) r' := hroutes
      exact .unrouted hroutes (by rfl)

/-- A router that follows no redirects. The only node that it knows redirects to an address
that is none. -/
def astray : Router where
  seeds := []
  slots := ⟨[⟨0, 16383, { host := "h", port := 1 }⟩]⟩
  maxRedirects := 0
  pool.network.scripts :=
    [("h:1", [{ greeting := .accepts (Utf8.encode "-MOVED 5 nonsense\r\n") .closed }])]

/-- Beyond the limit it does not matter that a redirect leads nowhere. -/
theorem executeOnce_astray :
    (∃ reply p, Sends .ping { node := { host := "h", port := 1 } } astray.pool reply p ∧
      Redirect.ofReply? reply = some (.moved 5 "nonsense")) ∧
      Redirect.target "nonsense" { host := "h", port := 1 } =
        .error (.invalidArgument "missing port in address 'nonsense'") ∧
      (executeOnce 5 .ping astray).1 = .error (.moved 5 "nonsense") := by
  refine ⟨?_, by rfl, by rfl⟩
  have hmany : (Pool.requestMany { host := "h", port := 1 } [.ping] astray.pool).1 =
      .ok ([] ++ [.error { message := "MOVED 5 nonsense" }]) := by rfl
  refine ⟨.error { message := "MOVED 5 nonsense" }, _, sends_of (Prod.ext hmany rfl) (by simp), by rfl⟩

end Router

end RespClient
