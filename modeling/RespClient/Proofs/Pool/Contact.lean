import RespClient.Proofs.Pool.Exchange

/-!
# Who is dialled and what is sent

A network keeps record of the addresses that were dialled and of the commands that were
sent. A connect adds its address to the first list and a batch adds some of its commands to
the second one, up to the command at which it stops. All the while the record agrees with the
bytes on the links.
-/

namespace RespClient

open RespClient.Action

variable {τ : Type} [Transport τ]

/-- The record of a network gained these addresses and these commands. -/
structure Contacts (ds : List String) (cs : List Command) (n n' : Network τ) : Prop where
  dialled : n'.dialled = n.dialled ++ ds
  sent : ∃ log, n'.sent = n.sent ++ log ∧ log.map (·.command) = cs
  /-- What is sent is written, so a record that agrees with the links goes on to do so. -/
  accounted : ∀ [Transport.Lawful τ], n.Accounted → n'.Accounted

namespace Contacts

variable {ds ds' : List String} {cs cs' : List Command} {n m n' : Network τ}

theorem of_eq (hdialled : n'.dialled = n.dialled) (hsent : n'.sent = n.sent)
    (hlines : n'.lines = n.lines) : Contacts [] [] n n' := by
  constructor
  · rw [hdialled, List.append_nil]
  · exact ⟨[], by rw [hsent, List.append_nil], rfl⟩
  · exact fun haccounted => haccounted.of_eq hlines hsent

theorem refl (n : Network τ) : Contacts [] [] n n :=
  .of_eq rfl rfl rfl

theorem trans (h : Contacts ds cs n m) (h' : Contacts ds' cs' m n') :
    Contacts (ds ++ ds') (cs ++ cs') n n' := by
  obtain ⟨log, hlog, rfl⟩ := h.sent
  obtain ⟨log', hlog', rfl⟩ := h'.sent
  constructor
  · rw [h'.dialled, h.dialled, List.append_assoc]
  · refine ⟨log ++ log', ?_, List.map_append⟩
    rw [hlog', hlog, List.append_assoc]
  · exact fun haccounted => h'.accounted (h.accounted haccounted)

end Contacts

namespace Network

variable {n n' : Network τ} {address : String} {id : Nat} {cs : List Command}

theorem Uses.contacts (h : Uses id cs n n') : Contacts [] cs n n' := by
  constructor
  · rw [h.dialled, List.append_nil]
  · refine ⟨_, h.sent, ?_⟩
    simp [Function.comp_def]
  · exact fun haccounted => haccounted.uses h

omit [Transport τ] in
theorem dialled_greet (address : String) (g : Greeting τ) (n : Network τ) :
    (greet address g n).2.dialled = n.dialled := by
  cases g <;> rfl

/-- A connect dials its address, whatever meets it. -/
theorem connect_contacts {out : Outcome Nat} (h : connect address n = (out, n')) :
    Contacts [address] [] n n' := by
  have hconnected := connect_connected h
  refine ⟨?_, ⟨[], by rw [hconnected.sent, List.append_nil], rfl⟩, fun ha => ha.connected hconnected⟩
  unfold connect at h
  rcases hdial : n.dial address with ⟨script, n₁⟩
  have hdialled : n₁.dialled = n.dialled ++ [address] := by
    unfold dial at hdial
    cases hdial
    rfl
  rw [hdial] at h
  dsimp only at h
  rcases bind_cases h with ⟨u, n₂, hwait, hgreet⟩ | ⟨stop, hwait, -⟩
  · have huses : Uses 0 [] n₁ n₂ := onClock_uses hwait
    have hsame := dialled_greet address script.greeting n₂
    rw [hgreet] at hsame
    rw [← hdialled, hsame, huses.dialled]
  · have huses : Uses 0 [] n₁ n' := onClock_uses hwait
    rw [← hdialled, huses.dialled]

end Network

namespace Pool

variable {p p' : Pool τ} {a : Address} {c : Command} {cs : List Command}

/-- To get the link of a node at most one connect is made. -/
theorem get_contacts {out : Outcome Nat} (h : get a p = (out, p')) :
    ∃ ds, ds <+: [a.text] ∧ Contacts ds [] p.network p'.network := by
  unfold get at h
  split at h
  · cases h
    exact ⟨[], List.nil_prefix, .refl _⟩
  · refine ⟨[a.text], List.prefix_refl _, ?_⟩
    rcases bind_cases h with ⟨id, p₁, hopened, hadopt⟩ | ⟨stop, hopened, -⟩
    · obtain ⟨n, hconnect, rfl⟩ := onNetwork_eq hopened
      have hnetwork : p'.network = n := by
        unfold adopt at hadopt
        split at hadopt <;> cases hadopt <;> rfl
      rw [hnetwork]
      exact Network.connect_contacts hconnect
    · obtain ⟨n, hconnect, rfl⟩ := onNetwork_eq hopened
      exact Network.connect_contacts hconnect

theorem evict_contacts (a : Address) (p : Pool τ) :
    Contacts [] [] p.network (p.evict a).network := by
  rcases evict_uses a p with heq | ⟨id, n, -, huses, heq⟩
  · rw [heq]
    exact .refl _
  · rw [heq]
    exact huses.contacts

/-- For a batch the node is dialled at most once, and only commands of the batch are sent,
each at most as often as it stands there; all of them are if the batch succeeds. -/
theorem requestMany_contacts {out : Outcome (List Frame)} (h : requestMany a cs p = (out, p')) :
    ∃ ds sent, ds <+: [a.text] ∧ sent <+: cs ∧ Contacts ds sent p.network p'.network ∧
      ∀ rs, out = .ok rs → sent = cs := by
  have hafter : ∀ {id : Nat} {n : Network τ} {sent : List Command} {p₁ : Pool τ},
      get a p = (.ok id, p₁) → Network.Uses id sent p₁.network n →
        ∃ ds, ds <+: [a.text] ∧ Contacts ds sent p.network n := by
    intro id n sent p₁ hget huses
    obtain ⟨ds, hds, hcontacts⟩ := get_contacts hget
    have hall := hcontacts.trans huses.contacts
    rw [List.append_nil, List.nil_append] at hall
    exact ⟨ds, hds, hall⟩
  cases requestMany_requested h with
  | unreached hget | hangs hget =>
      obtain ⟨ds, hds, hcontacts⟩ := get_contacts hget
      exact ⟨ds, [], hds, List.nil_prefix, hcontacts, by rintro rs ⟨⟩⟩
  | waits hget _ huses =>
      obtain ⟨ds, hds, hcontacts⟩ := hafter hget huses
      exact ⟨ds, [], hds, List.nil_prefix, hcontacts, by rintro rs ⟨⟩⟩
  | answered hget _ hexchange | stalls hget _ hexchange =>
      obtain ⟨n, sent, rfl, hsent, huses, hall⟩ := exchangeAll_uses hexchange
      obtain ⟨ds, hds, hcontacts⟩ := hafter hget huses
      exact ⟨ds, sent, hds, hsent, hcontacts, hall⟩
  | @failed id e p₁ _ hget _ hexchange =>
      obtain ⟨n, sent, rfl, hsent, huses, -⟩ := exchangeAll_uses hexchange
      obtain ⟨ds, hds, hcontacts⟩ := hafter hget huses
      refine ⟨ds, sent, hds, hsent, ?_, by rintro rs ⟨⟩⟩
      split
      · have hevict : Contacts [] [] n _ := evict_contacts a { p₁ with network := n }
        have hall := hcontacts.trans hevict
        rwa [List.append_nil, List.append_nil] at hall
      · exact hcontacts

theorem request_contacts {out : Outcome Frame} (h : request a c p = (out, p')) :
    ∃ ds sent, ds <+: [a.text] ∧ sent <+: [c] ∧ Contacts ds sent p.network p'.network ∧
      ∀ f, out = .ok f → sent = [c] := by
  rcases request_cases h with ⟨f, rfl, hmany⟩ | ⟨stop, rfl, hmany⟩
  · obtain ⟨ds, sent, hds, hsent, hcontacts, hall⟩ := requestMany_contacts hmany
    exact ⟨ds, sent, hds, hsent, hcontacts, fun _ _ => hall _ rfl⟩
  · obtain ⟨ds, sent, hds, hsent, hcontacts, -⟩ := requestMany_contacts hmany
    exact ⟨ds, sent, hds, hsent, hcontacts, fun f hok => absurd hok stopped_ne_ok⟩

end Pool

end RespClient
