import RespClient.Proofs.Confinement
import Mathlib.Data.List.Nodup

/-!
# Live links are in the pool

A pool over a network of its own loses track of no live link. A node has one link at most, and
that leads to it. A link leaves the pool when it is given up, or when it was found dead and
another one takes its place; so the links that are still live are those that the pool holds.
-/

namespace RespClient.Pool

open RespClient.Action Transport Network

variable {τ : Type} [Transport τ] {p p' : Pool τ} {a : Address} {id : Nat} {c : Command}
  {cs : List Command}

/-- Every node has one link at most, which leads to it, and every live link is a node's. -/
structure Orderly (p : Pool τ) : Prop where
  free : p.held = none
  distinct : (p.entries.map Prod.fst).Nodup
  leads : ∀ b id, (b, id) ∈ p.entries → p.network.Leads id b.text
  live : ∀ id, p.network.isLive id = true → ∃ b, (b, id) ∈ p.entries

/-- What was done in the network was done at one node, and no other node gained a link. -/
structure Serves (a : Address) (p p' : Pool τ) : Prop where
  confined : Confined (· = a.text) p.network p'.network
  entries : ∀ entry ∈ p'.entries, entry.1 = a ∨ entry ∈ p.entries

omit [Transport τ] in
theorem Serves.refl (a : Address) (p : Pool τ) : Serves a p p :=
  ⟨.refl _, fun _ h => .inr h⟩

omit [Transport τ] in
theorem Serves.trans {q : Pool τ} (h : Serves a p p') (h' : Serves a p' q) : Serves a p q :=
  ⟨h.confined.trans h'.confined, fun entry hentry =>
    (h'.entries entry hentry).elim .inl (h.entries entry)⟩

theorem isLive_congr {n n' : Network τ} (h : n'.lines[id]? = n.lines[id]?) :
    n'.isLive id = n.isLive id := by
  rw [isLive, isLive, link?, link?, h]

namespace Orderly

theorem isHeld (h : Orderly p) (id : Nat) : p.isHeld id = false := by
  rw [Pool.isHeld, h.free]
  rfl

theorem link_eq (h : Orderly p) {i j : Nat} (hi : (a, i) ∈ p.entries) (hj : (a, j) ∈ p.entries) :
    i = j :=
  congrArg Prod.snd (List.inj_on_of_nodup_map h.distinct hi hj rfl)

theorem find?_eq (h : Orderly p) (hentry : (a, id) ∈ p.entries) : p.find? a = some id := by
  rcases hfind : p.find? a with _ | j
  · unfold find? at hfind
    have hnone := List.find?_eq_none.mp (Option.map_eq_none_iff.mp hfind) _ hentry
    exact absurd (beq_self_eq_true a) hnone
  · rw [h.link_eq hentry (mem_of_find? hfind)]

/-- Using the link of a node leaves all others as they are. -/
theorem use (h : Orderly p) {n : Network τ} (hfind : p.find? a = some id)
    (huses : Uses id cs p.network n) :
    Orderly { p with network := n } ∧ Serves a p { p with network := n } := by
  have hentry := mem_of_find? hfind
  have hconfined := huses.confined (h.leads a id hentry)
  refine ⟨⟨h.free, h.distinct, fun b j hb => hconfined.leads (h.leads b j hb), fun j hj => ?_⟩,
    hconfined, fun _ hentry => .inr hentry⟩
  by_cases hsame : j = id
  · exact ⟨a, hsame ▸ hentry⟩
  · exact h.live j ((isLive_congr (huses.others j hsame)).symm.trans hj)

/-- A connect that opens nothing leaves all links as they are. -/
theorem unreached (h : Orderly p) {n : Network τ} {r : Outcome Nat} (hr : ∀ id, r ≠ .ok id)
    (hc : Connected a.text p.network r n) (hconfined : Confined (· = a.text) p.network n) :
    Orderly { p with network := n } ∧ Serves a p { p with network := n } := by
  refine ⟨⟨h.free, h.distinct, fun b j hb => hconfined.leads (h.leads b j hb), fun j hj => ?_⟩,
    hconfined, fun _ hentry => .inr hentry⟩
  exact h.live j ((isLive_congr (hc.other (hr j))).symm.trans hj)

/-- A new link takes the place of a dead one. -/
theorem opened (h : Orderly p) {n : Network τ} (hnone : p.findLive? a = none)
    (hc : Connected a.text p.network (.ok id) n)
    (hconfined : Confined (· = a.text) p.network n) :
    Orderly (({ p with network := n } : Pool τ).put a id) ∧
      Serves a p (({ p with network := n } : Pool τ).put a id) := by
  have hmem : ∀ {b j}, (b, j) ∈ (({ p with network := n } : Pool τ).put a id).entries ↔
      (b, j) ∈ p.entries ∧ b ≠ a ∨ (b, j) = (a, id) := by
    intro b j
    simp [put]
  refine ⟨⟨h.free, ?_, fun b j hb => ?_, fun j hj => ?_⟩, hconfined, fun entry hentry => ?_⟩
  · show ((p.entries.filter _ ++ [(a, id)]).map Prod.fst).Nodup
    rw [List.map_append, List.nodup_append]
    refine ⟨h.distinct.sublist (List.filter_sublist.map _), List.nodup_singleton a, ?_⟩
    rintro b hb b' hb' rfl
    obtain ⟨entry, hentry, rfl⟩ := List.mem_map.mp hb
    have hne := (List.mem_filter.mp hentry).2
    rw [List.mem_singleton.mp hb'] at hne
    simp at hne
  · rcases hmem.mp hb with ⟨hb, -⟩ | hb
    · exact hconfined.leads (h.leads b j hb)
    · cases hb
      exact hc.leads
  · by_cases hnew : j = id
    · exact ⟨a, hmem.mpr (.inr (by rw [hnew]))⟩
    · have hold : p.network.isLive j = true :=
        (isLive_congr (hc.other fun heq => hnew (Outcome.ok.inj heq).symm)).symm.trans hj
      obtain ⟨b, hb⟩ := h.live j hold
      refine ⟨b, hmem.mpr (.inl ⟨hb, ?_⟩)⟩
      -- the link of the node itself did not seem alive
      rintro rfl
      have hseems : p.seemsLive j = true := by rw [seemsLive, hold, Bool.or_true]
      rw [findLive?, h.find?_eq hb, Option.filter_some, if_pos hseems] at hnone
      cases hnone
  · obtain ⟨b, j⟩ := entry
    rcases hmem.mp hentry with ⟨hold, -⟩ | hnew
    · exact .inr hold
    · exact .inl (congrArg Prod.fst hnew)

theorem get (h : Orderly p) {r : Outcome Nat} (hget : Pool.get a p = (r, p')) :
    Orderly p' ∧ Serves a p p' := by
  rcases hlive : p.findLive? a with _ | j
  · obtain ⟨ds, hds, hcontacts⟩ := get_contacts hget
    cases get_got hget with
    | there hthere =>
        rw [hlive] at hthere
        cases hthere
    | unreached hr hc => exact h.unreached hr hc (hc.confined hcontacts.dialled hds)
    | @opened id n _ hc hadopt =>
        rcases adopt_eq_ok hadopt with ⟨rfl, hfind⟩ | rfl
        · -- no node has the new link yet
          obtain ⟨line, hline, -⟩ := h.leads a id (mem_of_find? hfind)
          exact absurd rfl (hc.ne_of_lt (List.getElem?_eq_some_iff.mp hline).1)
        · exact h.opened hlive hc (hc.confined hcontacts.dialled hds)
  · have hthere : Pool.get a p = (.ok j, p) := by rw [Pool.get, hlive]
    rw [hthere] at hget
    cases hget
    exact ⟨h, .refl a p⟩

theorem filter (h : Orderly p) (hgone : ∀ id, p.find? a = some id → p.network.isLive id = false) :
    Orderly { p with entries := p.entries.filter fun entry => entry.1 != a } := by
  refine ⟨h.free, h.distinct.sublist (List.filter_sublist.map _), fun b id hb => ?_, fun id hid => ?_⟩
  · exact h.leads b id (List.mem_filter.mp hb).1
  · obtain ⟨b, hb⟩ := h.live id hid
    refine ⟨b, List.mem_filter.mpr ⟨hb, bne_iff_ne.mpr ?_⟩⟩
    rintro rfl
    have hdead := hgone id (h.find?_eq hb)
    rw [show p.network.isLive id = true from hid] at hdead
    cases hdead

variable [Lawful τ]

theorem isLive_disconnect (n : Network τ) (id : Nat) : (n.disconnect id).isLive id = false := by
  rw [isLive, link?, Network.disconnect, modifyLink_self]
  cases n.lines[id]? with
  | none => rfl
  | some line => exact Lawful.isConnected_disconnect line.link

/-- A node's link is given up when it leaves the pool. -/
theorem evict (h : Orderly p) (a : Address) :
    Orderly (p.evict a) ∧ Serves a p (p.evict a) ∧ ∀ entry ∈ (p.evict a).entries, entry.1 ≠ a := by
  have hleft : ∀ entry ∈ p.entries.filter (fun entry => entry.1 != a), entry.1 ≠ a :=
    fun entry hentry => bne_iff_ne.mp (List.mem_filter.mp hentry).2
  rcases hfind : p.find? a with _ | id
  · rw [evict_of_not_found hfind]
    refine ⟨h.filter ?_, ⟨.refl _, fun entry hentry => .inr (List.mem_filter.mp hentry).1⟩, hleft⟩
    rintro id hid
    rw [hfind] at hid
    cases hid
  · rw [evict_of_found hfind (h.isHeld id)]
    obtain ⟨hused, hserves⟩ := h.use hfind disconnect_uses
    refine ⟨hused.filter ?_, ⟨hserves.confined, fun entry hentry => .inr (List.mem_filter.mp hentry).1⟩,
      hleft⟩
    rintro j hj
    have hsame : p.find? a = some j := hj
    rw [hfind] at hsame
    cases hsame
    exact isLive_disconnect p.network id

theorem requested (h : Orderly p) {r : Outcome (List Frame)} (hrequested : Requested a cs p r p') :
    Orderly p' ∧ Serves a p p' := by
  have hafter : ∀ {id : Nat} {n : Network τ} {sent : List Command} {p₁ : Pool τ},
      Pool.get a p = (.ok id, p₁) → Uses id sent p₁.network n →
        Orderly { p₁ with network := n } ∧ Serves a p { p₁ with network := n } := by
    intro id n sent p₁ hget huses
    obtain ⟨h₁, hserves⟩ := h.get hget
    obtain ⟨h', hserves'⟩ := h₁.use (get_got hget).found huses
    exact ⟨h', hserves.trans hserves'⟩
  cases hrequested with
  | unreached hget | hangs hget => exact h.get hget
  | waits hget _ huses => exact hafter hget huses
  | answered hget _ hexchange | stalls hget _ hexchange =>
      obtain ⟨n, sent, rfl, -, huses, -⟩ := exchangeAll_uses hexchange
      exact hafter hget huses
  | failed hget _ hexchange =>
      obtain ⟨n, sent, rfl, -, huses, -⟩ := exchangeAll_uses hexchange
      obtain ⟨h₁, hserves⟩ := hafter hget huses
      split
      · obtain ⟨h', hserves', -⟩ := h₁.evict a
        exact ⟨h', hserves.trans hserves'⟩
      · exact ⟨h₁, hserves⟩

/-- A request is served by its node, and no live link gets lost over it. -/
theorem request (h : Orderly p) {out : Outcome Frame} (hrequest : Pool.request a c p = (out, p')) :
    Orderly p' ∧ Serves a p p' := by
  rcases request_cases hrequest with ⟨f, -, hmany⟩ | ⟨stop, -, hmany⟩
  · exact h.requested (requestMany_requested hmany)
  · exact h.requested (requestMany_requested hmany)

omit [Lawful τ] in
/-- A pool that was never used. -/
theorem new {n : Network τ} (hlines : n.lines = []) : Orderly ({ network := n } : Pool τ) where
  free := rfl
  distinct := List.nodup_nil
  leads _ _ hb := absurd hb List.not_mem_nil
  live id hid := by
    have hnone : n.isLive id = false := by
      rw [isLive, link?, hlines]
      rfl
    rw [show n.isLive id = true from hid] at hnone
    cases hnone

end Orderly

end RespClient.Pool
