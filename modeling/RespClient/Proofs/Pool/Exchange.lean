import RespClient.Pool
import RespClient.Proofs.Network

/-!
# What a pool does to its network

The link of a node is there, or a connect opens it. Commands go over this link alone, and
if all of them are answered there is one reply for each. A batch that fails after the link
was got ends with the link taken out.
-/

namespace RespClient.Pool

open RespClient.Action Transport

variable {τ : Type} {α : Type} {p p' : Pool τ} {a : Address} {id : Nat} {cs : List Command}

theorem onNetwork_eq {x : Action (Network τ) α} {r : Outcome α} (h : onNetwork x p = (r, p')) :
    ∃ n, x p.network = (r, n) ∧ p' = { p with network := n } :=
  within_eq h

/-! ## Links of nodes -/

theorem mem_of_find? (h : p.find? a = some id) : (a, id) ∈ p.entries := by
  unfold find? at h
  obtain ⟨⟨b, id'⟩, hfind, rfl⟩ := Option.map_eq_some_iff.mp h
  obtain rfl : b = a := by simpa using List.find?_some hfind
  exact List.mem_of_find?_eq_some hfind

theorem find?_put : (p.put a id).find? a = some id := by
  unfold find? put
  rw [List.find?_append, List.find?_eq_none.mpr]
  · simp
  · intro entry hentry
    simpa using (List.mem_filter.mp hentry).2

section

variable [Transport τ]

theorem find?_of_findLive? (h : p.findLive? a = some id) : p.find? a = some id :=
  (Option.filter_eq_some_iff.mp h).1

/-- What `get` comes to. -/
inductive Got (a : Address) (p : Pool τ) : Outcome Nat → Pool τ → Prop
  /-- The node has a link that seems alive. -/
  | there {id : Nat} (h : p.findLive? a = some id) : Got a p (.ok id) p
  /-- A new link is the node's. -/
  | opened {id : Nat} {n : Network τ} {p' : Pool τ}
      (hc : Network.Connected a.text p.network (.ok id) n)
      (h : adopt a id { p with network := n } = (.ok id, p')) : Got a p (.ok id) p'
  | unreached {r : Outcome Nat} {n : Network τ} (hr : ∀ id, r ≠ .ok id)
      (hc : Network.Connected a.text p.network r n) : Got a p r { p with network := n }

/-- A node whose link does not seem alive gets the link that was opened just now. -/
theorem adopt_opened {n : Network τ} (h : p.findLive? a = none)
    (hc : Network.Connected a.text p.network (.ok id) n) :
    ∃ p', adopt a id { p with network := n } = (.ok id, p') := by
  unfold adopt
  split
  · rename_i there hthere
    obtain ⟨hfind, hseems⟩ := Option.filter_eq_some_iff.mp hthere
    obtain rfl : there = id := by
      by_contra hne
      -- the link of the node is as it was before the connect
      have hsame : n.isLive there = p.network.isLive there := by
        unfold Network.isLive Network.link?
        rw [hc.other fun heq => hne (Outcome.ok.inj heq).symm]
      have hlive : p.findLive? a = some there := by
        refine Option.filter_eq_some_iff.mpr ⟨hfind, ?_⟩
        rw [seemsLive, ← hsame]
        exact hseems
      rw [h] at hlive
      cases hlive
    exact ⟨_, rfl⟩
  · exact ⟨_, rfl⟩

theorem get_got {r : Outcome Nat} (h : get a p = (r, p')) : Got a p r p' := by
  unfold get at h
  split at h
  · rename_i id hfind
    cases h
    exact .there hfind
  · rename_i hfind
    rcases bind_cases h with ⟨id, p₁, hopened, h⟩ | ⟨stop, hopened, rfl⟩
    · obtain ⟨n, hconnect, rfl⟩ := onNetwork_eq hopened
      have hc := Network.connect_connected hconnect
      obtain ⟨p₂, hadopt⟩ := adopt_opened hfind hc
      rw [hadopt] at h
      cases h
      exact .opened hc hadopt
    · obtain ⟨n, hconnect, rfl⟩ := onNetwork_eq hopened
      exact .unreached (fun _ => stopped_ne_ok) (Network.connect_connected hconnect)

theorem adopt_eq_ok (h : adopt a id p = (.ok id, p')) :
    p' = p ∧ p.find? a = some id ∨ p' = p.put a id := by
  unfold adopt at h
  split at h
  · rename_i hfind
    cases h
    exact .inl ⟨rfl, find?_of_findLive? hfind⟩
  · cases h
    exact .inr rfl

namespace Got

variable {r : Outcome Nat}

theorem found (h : Got a p (.ok id) p') : p'.find? a = some id := by
  cases h with
  | there h => exact find?_of_findLive? h
  | opened hc h =>
      rcases adopt_eq_ok h with ⟨rfl, hfind⟩ | rfl
      · exact hfind
      · exact find?_put
  | unreached hr => exact absurd rfl (hr id)

theorem sent (h : Got a p r p') : p'.network.sent = p.network.sent := by
  cases h with
  | there => rfl
  | opened hc h => rcases adopt_eq_ok h with ⟨rfl, -⟩ | rfl <;> exact hc.sent
  | unreached hr hc => exact hc.sent

end Got

/-! ## Batches -/

theorem exchangeAll_cons {c : Command} {done : List Frame} :
    exchangeAll id (c :: cs) done p =
      (onNetwork (Network.request id c) >>= fun reply => exchangeAll id cs (reply :: done)) p := rfl

/-- A batch sends its commands up to some point over its link, and all of them if it
succeeds. -/
theorem exchangeAll_uses {r : Outcome (List Frame)} {done : List Frame}
    (h : exchangeAll id cs done p = (r, p')) :
    ∃ n sent, p' = { p with network := n } ∧ sent <+: cs ∧ Network.Uses id sent p.network n ∧
      ∀ rs, r = .ok rs → sent = cs := by
  induction cs generalizing p done with
  | nil =>
      cases h
      exact ⟨_, [], rfl, List.nil_prefix, .refl _, fun _ _ => rfl⟩
  | cons c cs ih =>
      rw [exchangeAll_cons] at h
      rcases bind_cases h with ⟨reply, p₁, hnetwork, h⟩ | ⟨stop, hnetwork, rfl⟩
      · obtain ⟨n₁, hrequest, rfl⟩ := onNetwork_eq hnetwork
        obtain ⟨first, -, huses, hok⟩ := Network.request_uses hrequest
        obtain ⟨n, rest, rfl, hrest, huses', hok'⟩ := ih h
        obtain rfl := hok reply rfl
        exact ⟨n, c :: rest, rfl, (List.prefix_cons_inj c).mpr hrest, huses.trans huses',
          fun rs heq => congrArg (c :: ·) (hok' rs heq)⟩
      · obtain ⟨n₁, hrequest, rfl⟩ := onNetwork_eq hnetwork
        obtain ⟨first, hfirst, huses, -⟩ := Network.request_uses hrequest
        exact ⟨n₁, first, rfl, hfirst.trans ⟨cs, rfl⟩, huses,
          fun rs heq => absurd heq stopped_ne_ok⟩

/-- A batch that succeeds has one reply for each command. -/
theorem length_of_exchangeAll {rs done : List Frame}
    (h : exchangeAll id cs done p = (.ok rs, p')) : rs.length = done.length + cs.length := by
  induction cs generalizing p done with
  | nil =>
      cases h
      simp
  | cons c cs ih =>
      rw [exchangeAll_cons] at h
      obtain ⟨reply, p₁, -, h⟩ := bind_eq_ok.mp h
      rw [ih h, List.length_cons, List.length_cons]
      omega

/-- A batch that succeeds keeps its link in step. -/
theorem exchangeAll_inStep [Lawful τ] {rs done replies : List Frame}
    (h : exchangeAll id cs done p = (.ok rs, p'))
    (hstep : p.network.InStep id (replies ++ done.reverse)) :
    p'.network.InStep id (replies ++ rs) := by
  induction cs generalizing p done with
  | nil =>
      cases h
      exact hstep
  | cons c cs ih =>
      rw [exchangeAll_cons] at h
      obtain ⟨reply, p₁, hrequest, h⟩ := bind_eq_ok.mp h
      obtain ⟨n, hreply, rfl⟩ := onNetwork_eq hrequest
      apply ih h
      rw [List.reverse_cons, ← List.append_assoc]
      exact hstep.request hreply

/-- A batch fails only in ways that break its link. -/
theorem exchangeAll_breaks [Fragile τ] {e : Failure} {done : List Frame}
    (h : exchangeAll id cs done p = (.error e, p')) : e.breaksLink = true := by
  induction cs generalizing p done with
  | nil => cases h
  | cons c cs ih =>
      rw [exchangeAll_cons] at h
      rcases bind_eq_error.mp h with hrequest | ⟨reply, p₁, -, h⟩
      · obtain ⟨n, hfails, rfl⟩ := onNetwork_eq hrequest
        exact Network.request_breaks hfails
      · exact ih h

omit [Transport τ] in
theorem acquire_of_free (h : p.isHeld id = false) : acquire id p = (.ok (), p) := by
  rw [acquire, if_neg (by simp [h])]

theorem acquire_of_held (h : p.isHeld id = true) :
    ∃ n, acquire id p = (.stalled, { p with network := n }) ∧ Network.Uses id [] p.network n := by
  rw [acquire, if_pos h]
  exact ⟨_, rfl, Network.onClock_uses (x := Clock.stall (α := Unit)) rfl⟩

/-- What a batch of commands to a node comes to. -/
inductive Requested (a : Address) (cs : List Command) (p : Pool τ) :
    Outcome (List Frame) → Pool τ → Prop
  | unreached {e : Failure} {p' : Pool τ} (hget : get a p = (.error e, p')) :
      Requested a cs p (.error e) p'
  | hangs {p' : Pool τ} (hget : get a p = (.stalled, p')) : Requested a cs p .stalled p'
  /-- Somebody else holds the link for good. -/
  | waits {id : Nat} {n : Network τ} {p₁ : Pool τ} (hget : get a p = (.ok id, p₁))
      (hheld : p₁.isHeld id = true) (huses : Network.Uses id [] p₁.network n) :
      Requested a cs p .stalled { p₁ with network := n }
  | answered {id : Nat} {rs : List Frame} {p₁ p' : Pool τ} (hget : get a p = (.ok id, p₁))
      (hfree : p₁.isHeld id = false) (h : exchangeAll id cs [] p₁ = (.ok rs, p')) :
      Requested a cs p (.ok rs) p'
  | failed {id : Nat} {e : Failure} {p₁ p₂ : Pool τ} (hget : get a p = (.ok id, p₁))
      (hfree : p₁.isHeld id = false) (h : exchangeAll id cs [] p₁ = (.error e, p₂)) :
      Requested a cs p (.error e) (if e.breaksLink then p₂.evict a else p₂)
  | stalls {id : Nat} {p₁ p' : Pool τ} (hget : get a p = (.ok id, p₁))
      (hfree : p₁.isHeld id = false) (h : exchangeAll id cs [] p₁ = (.stalled, p')) :
      Requested a cs p .stalled p'

theorem requestMany_requested {r : Outcome (List Frame)} (h : requestMany a cs p = (r, p')) :
    Requested a cs p r p' := by
  unfold requestMany at h
  rcases hget : get a p with ⟨got, p₁⟩
  cases got with
  | error e =>
      rw [bind_of_error hget] at h
      cases h
      exact .unreached hget
  | stalled =>
      rw [bind_of_stalled hget] at h
      cases h
      exact .hangs hget
  | ok id =>
      rw [bind_of_ok hget] at h
      rcases hheld : p₁.isHeld id with _ | _
      · rw [bind_of_ok (acquire_of_free hheld)] at h
        unfold orEvict at h
        rcases hexchange : exchangeAll id cs [] p₁ with ⟨r₁, p₂⟩
        rw [hexchange] at h
        cases r₁ with
        | ok rs =>
            cases h
            exact .answered hget hheld hexchange
        | error e =>
            cases h
            exact .failed hget hheld hexchange
        | stalled =>
            cases h
            exact .stalls hget hheld hexchange
      · obtain ⟨n, hacquire, huses⟩ := acquire_of_held hheld
        rw [bind_of_stalled hacquire] at h
        cases h
        exact .waits hget hheld huses

/-- A single command is a batch of one. -/
theorem request_cases {c : Command} {r : Outcome Frame} (h : request a c p = (r, p')) :
    (∃ f, r = .ok f ∧ requestMany a [c] p = (.ok [f], p')) ∨
      ∃ stop, r = stopped stop ∧ requestMany a [c] p = (stopped stop, p') := by
  rcases bind_cases h with ⟨rs, p₁, hmany, hgive⟩ | ⟨stop, hmany, rfl⟩
  · cases hgive
    cases requestMany_requested hmany with
    | answered hget hfree hexchange =>
        obtain ⟨f, rfl⟩ := List.length_eq_one_iff.mp (length_of_exchangeAll hexchange)
        exact .inl ⟨f, rfl, hmany⟩
  · exact .inr ⟨stop, rfl, hmany⟩

/-! ## Taking links out -/

theorem evict_of_found (hfind : p.find? a = some id) (hfree : p.isHeld id = false) :
    p.evict a = { p with network := p.network.disconnect id,
                         entries := p.entries.filter fun entry => entry.1 != a } := by
  unfold evict
  rw [hfind]
  dsimp only
  rw [if_neg (by simp [hfree])]

theorem evict_of_not_found (hfind : p.find? a = none) :
    p.evict a = { p with entries := p.entries.filter fun entry => entry.1 != a } := by
  unfold evict
  rw [hfind]

/-- Taking a node's link out touches no other link. -/
theorem evict_uses (a : Address) (p : Pool τ) :
    p.evict a = { p with entries := p.entries.filter fun entry => entry.1 != a } ∨
      ∃ id n, p.find? a = some id ∧ Network.Uses id [] p.network n ∧
        p.evict a = { p with network := n,
                             entries := p.entries.filter fun entry => entry.1 != a } := by
  rcases hfind : p.find? a with _ | id
  · exact .inl (evict_of_not_found hfind)
  · rcases hheld : p.isHeld id with _ | _
    · exact .inr ⟨id, _, rfl, Network.disconnect_uses, evict_of_found hfind hheld⟩
    · left
      unfold evict
      rw [hfind]
      dsimp only
      rw [if_pos hheld]

theorem sent_evict (a : Address) (p : Pool τ) : (p.evict a).network.sent = p.network.sent := by
  rcases evict_uses a p with heq | ⟨id, n, -, huses, heq⟩
  · rw [heq]
  · rw [heq]
    show n.sent = _
    rw [huses.sent, List.map_nil, List.append_nil]

/-! ## What is sent for a batch -/

namespace Requested

/-- The commands of a batch that succeeds go to the node, all on its link and nothing
between them. -/
theorem contacts {rs : List Frame} (h : Requested a cs p (.ok rs) p') :
    rs.length = cs.length ∧ ∃ id, p'.find? a = some id ∧
      p'.network.sent = p.network.sent ++ cs.map fun c => ⟨p'.network.addressOf id, id, c⟩ := by
  cases h with
  | @answered id rs p₁ p' hget hfree hexchange =>
      have hlen := length_of_exchangeAll hexchange
      obtain ⟨n, sent, rfl, -, huses, hsent⟩ := exchangeAll_uses hexchange
      obtain rfl := hsent rs rfl
      refine ⟨by simpa using hlen, id, (get_got hget).found, ?_⟩
      show n.sent = p.network.sent ++ sent.map fun c => ⟨n.addressOf id, id, c⟩
      rw [huses.sent, (get_got hget).sent, huses.addressOf]

/-- For a batch some of its commands are sent in their order, and nothing else. -/
theorem sent {r : Outcome (List Frame)} (h : Requested a cs p r p') :
    ∃ log, p'.network.sent = p.network.sent ++ log ∧ log.map (·.command) <+: cs := by
  have hused : ∀ {id : Nat} {n : Network τ} {sent : List Command} {p₁ : Pool τ},
      get a p = (.ok id, p₁) → Network.Uses id sent p₁.network n → sent <+: cs →
        ∃ log, n.sent = p.network.sent ++ log ∧ log.map (·.command) <+: cs := by
    intro id n sent p₁ hget huses hsent
    refine ⟨_, by rw [huses.sent, (get_got hget).sent], ?_⟩
    simpa [Function.comp_def] using hsent
  have hnone : ∀ {r : Outcome Nat} {p₁ : Pool τ}, get a p = (r, p₁) →
      ∃ log, p₁.network.sent = p.network.sent ++ log ∧ log.map (·.command) <+: cs :=
    fun hget => ⟨[], by rw [(get_got hget).sent, List.append_nil], List.nil_prefix⟩
  cases h with
  | unreached hget | hangs hget => exact hnone hget
  | waits hget hheld huses => exact hused hget huses List.nil_prefix
  | answered hget hfree hexchange | stalls hget hfree hexchange =>
      obtain ⟨n, sent, rfl, hsent, huses, -⟩ := exchangeAll_uses hexchange
      exact hused hget huses hsent
  | failed hget hfree hexchange =>
      obtain ⟨n, sent, rfl, hsent, huses, -⟩ := exchangeAll_uses hexchange
      split
      · rw [sent_evict]
        exact hused hget huses hsent
      · exact hused hget huses hsent

end Requested

end

end RespClient.Pool
