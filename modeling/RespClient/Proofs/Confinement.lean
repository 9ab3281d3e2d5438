import RespClient.Proofs.Pool.Contact

/-!
# Keeping to some addresses

Whatever a client does over a network it does at some address: it dials it, opens a link to
it, or uses a link that leads there. What is confined to some addresses leaves the links to
all others as they are, and neither dials them nor sends them anything.
-/

namespace RespClient.Network

open RespClient.Action

variable {τ α : Type} {n m n' : Network τ} {P Q : String → Prop} {id : Nat} {address : String}
  {cs : List Command}

/-- The link was opened, to this address. -/
def Leads (n : Network τ) (id : Nat) (address : String) : Prop :=
  ∃ line, n.lines[id]? = some line ∧ line.address = address

/-- What happened between two states of a network happened at addresses of one kind. -/
structure Confined (P : String → Prop) (n n' : Network τ) : Prop where
  dialled : ∃ ds, n'.dialled = n.dialled ++ ds ∧ ∀ a ∈ ds, P a
  sent : ∃ log, n'.sent = n.sent ++ log ∧ ∀ s ∈ log, P s.address ∧ n'.Leads s.link s.address
  kept : ∀ (id : Nat) (line : Line τ), n.lines[id]? = some line →
    ∃ line', n'.lines[id]? = some line' ∧ line'.address = line.address ∧
      (P line.address ∨ line' = line)
  opened : ∀ (id : Nat) (line : Line τ), n.lines[id]? = none → n'.lines[id]? = some line →
    P line.address

namespace Confined

/-- Time and what is still to come are nobody's. -/
theorem of_eq (hdialled : n'.dialled = n.dialled) (hsent : n'.sent = n.sent)
    (hlines : n'.lines = n.lines) : Confined P n n' where
  dialled := ⟨[], by rw [hdialled, List.append_nil], by simp⟩
  sent := ⟨[], by rw [hsent, List.append_nil], by simp⟩
  kept id line hline := ⟨line, by rw [hlines, hline], rfl, .inr rfl⟩
  opened id line' hnone hline := by
    rw [hlines, hnone] at hline
    cases hline

theorem refl (n : Network τ) : Confined P n n :=
  .of_eq rfl rfl rfl

theorem leads (h : Confined P n n') (hid : n.Leads id address) : n'.Leads id address := by
  obtain ⟨line, hline, rfl⟩ := hid
  obtain ⟨line', hline', haddress, -⟩ := h.kept id line hline
  exact ⟨line', hline', haddress⟩

theorem trans (h : Confined P n m) (h' : Confined P m n') : Confined P n n' where
  dialled := by
    obtain ⟨ds, hds, hP⟩ := h.dialled
    obtain ⟨ds', hds', hP'⟩ := h'.dialled
    refine ⟨ds ++ ds', by rw [hds', hds, List.append_assoc], fun a ha => ?_⟩
    exact (List.mem_append.mp ha).elim (hP a) (hP' a)
  sent := by
    obtain ⟨log, hlog, hP⟩ := h.sent
    obtain ⟨log', hlog', hP'⟩ := h'.sent
    refine ⟨log ++ log', by rw [hlog', hlog, List.append_assoc], fun s hs => ?_⟩
    rcases List.mem_append.mp hs with hs | hs
    · exact (hP s hs).imp_right h'.leads
    · exact hP' s hs
  kept id line hline := by
    obtain ⟨line₁, hline₁, haddress, hsame⟩ := h.kept id line hline
    obtain ⟨line', hline', haddress', hsame'⟩ := h'.kept id line₁ hline₁
    refine ⟨line', hline', haddress'.trans haddress, ?_⟩
    rcases hsame with hP | rfl
    · exact .inl hP
    · exact hsame'
  opened id line' hnone hline' := by
    rcases hline : m.lines[id]? with _ | line
    · exact h'.opened id line' hline hline'
    · obtain ⟨line'', hline'', haddress, -⟩ := h'.kept id line hline
      rw [hline'] at hline''
      cases hline''
      rw [haddress]
      exact h.opened id line hnone hline

theorem mono (h : Confined P n n') (hPQ : ∀ a, P a → Q a) : Confined Q n n' where
  dialled := by
    obtain ⟨ds, hds, hP⟩ := h.dialled
    exact ⟨ds, hds, fun a ha => hPQ a (hP a ha)⟩
  sent := by
    obtain ⟨log, hlog, hP⟩ := h.sent
    exact ⟨log, hlog, fun s hs => (hP s hs).imp_left (hPQ _)⟩
  kept id line hline := by
    obtain ⟨line', hline', haddress, hsame⟩ := h.kept id line hline
    exact ⟨line', hline', haddress, hsame.imp_left (hPQ _)⟩
  opened id line' hnone hline' := hPQ _ (h.opened id line' hnone hline')

end Confined

theorem leads_of_addresses (h : n'.lines.map (·.address) = n.lines.map (·.address))
    (hid : n.Leads id address) : n'.Leads id address := by
  obtain ⟨line, hline, rfl⟩ := hid
  have hsame := congrArg (·[id]?) h
  simp only [List.getElem?_map, hline, Option.map_some] at hsame
  exact Option.map_eq_some_iff.mp hsame

/-- What is done over a link is done where it leads. -/
theorem Uses.confined [Transport τ] (h : Uses id cs n n') (hid : n.Leads id address) :
    Confined (· = address) n n' := by
  have hid' := leads_of_addresses h.addresses hid
  constructor
  · exact ⟨[], by rw [h.dialled, List.append_nil], by simp⟩
  · refine ⟨_, h.sent, fun s hs => ?_⟩
    obtain ⟨c, -, rfl⟩ := List.mem_map.mp hs
    obtain ⟨line, hline, rfl⟩ := hid
    have hto : n.addressOf id = line.address := by rw [Network.addressOf, hline]; rfl
    exact ⟨hto, by rw [hto]; exact hid'⟩
  · intro j line hline
    by_cases hj : j = id
    · subst hj
      obtain ⟨line', hline', haddress⟩ := hid'
      obtain ⟨line₁, hline₁, hold⟩ := hid
      rw [hline] at hline₁
      cases hline₁
      exact ⟨line', hline', haddress.trans hold.symm, .inl hold⟩
    · exact ⟨line, (h.others j hj).trans hline, rfl, .inr rfl⟩
  · intro j line hnone hline
    have hlt : j < n.lines.length := h.length ▸ (List.getElem?_eq_some_iff.mp hline).1
    rw [List.getElem?_eq_getElem hlt] at hnone
    cases hnone

/-- A connect is at its address. -/
theorem Connected.confined [Transport τ] {out : Outcome Nat} {ds : List String}
    (h : Connected address n out n') (hdialled : n'.dialled = n.dialled ++ ds)
    (hds : ds <+: [address]) : Confined (· = address) n n' := by
  constructor
  · exact ⟨ds, hdialled, fun a ha => List.mem_singleton.mp (hds.subset ha)⟩
  · exact ⟨[], by rw [h.sent, List.append_nil], by simp⟩
  · intro id line hline
    have hlt := (List.getElem?_eq_some_iff.mp hline).1
    exact ⟨line, (h.other (h.ne_of_lt hlt)).trans hline, rfl, .inr rfl⟩
  · intro id line hnone hline
    rcases h.opened with ⟨-, hlines⟩ | ⟨l, -, hlines, -⟩
    · rw [hlines, hnone] at hline
      cases hline
    · rw [hlines, List.getElem?_append_right (List.getElem?_eq_none_iff.mp hnone)] at hline
      rw [List.mem_singleton.mp (List.mem_of_getElem? hline)]

/-- The link that a connect opens leads to its address. -/
theorem Connected.leads [Transport τ] (h : Connected address n (.ok id) n') :
    n'.Leads id address := by
  rcases h.opened with ⟨hnone, -⟩ | ⟨l, hid, hlines, -⟩
  · exact absurd rfl (hnone id)
  · cases hid
    exact ⟨⟨address, l, l⟩, by rw [hlines]; simp, rfl⟩

theorem connect_confined [Transport τ] {out : Outcome Nat} (h : connect address n = (out, n')) :
    Confined (· = address) n n' :=
  (connect_connected h).confined (connect_contacts h).dialled (List.prefix_refl _)

theorem connect_leads [Transport τ] (h : connect address n = (.ok id, n')) :
    n'.Leads id address :=
  (connect_connected h).leads

end RespClient.Network
