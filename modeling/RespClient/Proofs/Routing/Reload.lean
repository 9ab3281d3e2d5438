import RespClient.Routing.Router
import RespClient.Proofs.Pool.Exchange

/-!
# Reading the slot map anew

A router that looks for a new slot map sends nothing but requests for one, and as long as
no node gave a good map it keeps the one it has. To route a slot that has an owner it does
not look for one.
-/

namespace RespClient.Router

open RespClient.Action

variable {τ : Type} {α : Type} {p p' : Pool τ} {r r' r'' : Router τ} {slot : Nat}

theorem onPool_of {x : Action (Pool τ) α} {out : Outcome α} (h : x r.pool = (out, p')) :
    onPool x r = (out, { r with pool := p' }) :=
  within_of h

/-- Requests for the slot map were sent, and nothing else. -/
def Asks (p p' : Pool τ) : Prop :=
  ∃ log, p'.network.sent = p.network.sent ++ log ∧ ∀ s ∈ log, s.command = .clusterSlots

namespace Asks

theorem of_eq (h : p'.network.sent = p.network.sent) : Asks p p' :=
  ⟨[], by rw [h, List.append_nil], fun _ hs => absurd hs List.not_mem_nil⟩

theorem trans {p'' : Pool τ} (h : Asks p p') (h' : Asks p' p'') : Asks p p'' := by
  obtain ⟨log, hlog, hall⟩ := h
  obtain ⟨log', hlog', hall'⟩ := h'
  refine ⟨log ++ log', by rw [hlog', hlog, List.append_assoc], fun s hs => ?_⟩
  rcases List.mem_append.mp hs with hs | hs
  · exact hall s hs
  · exact hall' s hs

end Asks

/-- The slot map and the links of the pool may have changed, and only requests for the slot
map were sent. -/
structure Reloads (r r' : Router τ) : Prop where
  asks : Asks r.pool r'.pool
  rest : r' = { r with slots := r'.slots, pool := r'.pool }

namespace Reloads

theorem of_pool (h : Asks r.pool p) : Reloads r { r with pool := p } :=
  ⟨h, rfl⟩

theorem refl (r : Router τ) : Reloads r r :=
  .of_pool (.of_eq rfl)

theorem trans (h : Reloads r r') (h' : Reloads r' r'') : Reloads r r'' := by
  refine ⟨h.asks.trans h'.asks, ?_⟩
  rw [h'.rest, h.rest]

end Reloads

variable [Transport τ]

theorem fetchSlots_asks {node : Node} {out : Outcome SlotMap}
    (h : fetchSlots node p = (out, p')) : Asks p p' := by
  have hasks : ∀ {answer : Outcome Frame} {p₁ : Pool τ},
      Pool.request node.toAddress .clusterSlots p = (answer, p₁) → Asks p p₁ := by
    intro answer p₁ hrequest
    have hmany : ∃ out, Pool.requestMany node.toAddress [.clusterSlots] p = (out, p₁) := by
      rcases Pool.request_cases hrequest with ⟨f, -, hmany⟩ | ⟨stop, -, hmany⟩ <;> exact ⟨_, hmany⟩
    obtain ⟨out, hmany⟩ := hmany
    obtain ⟨log, hlog, hpart⟩ := (Pool.requestMany_requested hmany).sent
    refine ⟨log, hlog, fun s hs => ?_⟩
    exact List.mem_singleton.mp (hpart.subset (List.mem_map_of_mem hs))
  rcases bind_cases h with ⟨reply, p₁, hrequest, h⟩ | ⟨stop, hrequest, -⟩
  · -- what follows looks at the reply only
    have hsame : p' = p₁ := by
      rcases bind_cases h with ⟨frame, p₂, hresult, h⟩ | ⟨stop, hresult, -⟩
      · exact (ofExcept_state h).trans (ofExcept_state hresult)
      · exact ofExcept_state hresult
    rw [hsame]
    exact hasks hrequest
  · exact hasks hrequest

/-- Whatever becomes of the search for a new map, the old one stays unless it succeeds. -/
theorem refreshFrom_reloads {nodes : List Node} {last : Failure} {out : Outcome Unit}
    (h : refreshFrom nodes last r = (out, r')) :
    Reloads r r' ∧ (out ≠ .ok () → r'.slots = r.slots) := by
  induction nodes generalizing r last with
  | nil =>
      cases h
      exact ⟨.refl _, fun _ => rfl⟩
  | cons node nodes ih =>
      rcases hfetch : fetchSlots node r.pool with ⟨fetched, p⟩
      have hasks := fetchSlots_asks hfetch
      unfold refreshFrom at h
      have hon := onPool_of hfetch
      cases fetched with
      | ok m =>
          rw [bind_of_ok (attempt_of_ok hon)] at h
          cases h
          exact ⟨⟨hasks, rfl⟩, fun hne => absurd rfl hne⟩
      | error e =>
          rw [bind_of_ok (attempt_of_error hon)] at h
          obtain ⟨hreloads, hslots⟩ := ih h
          exact ⟨(Reloads.of_pool hasks).trans hreloads, hslots⟩
      | stalled =>
          rw [bind_of_stalled (attempt_of_stalled hon)] at h
          cases h
          exact ⟨.of_pool hasks, fun _ => rfl⟩

theorem refresh_reloads {out : Outcome Unit} (h : refresh r = (out, r')) :
    Reloads r r' ∧ (out ≠ .ok () → r'.slots = r.slots) :=
  refreshFrom_reloads h

/-- A router that lost a node looks for a new map, and goes on if it finds none. -/
theorem reroute_refreshes {node : Node} {out : Outcome Unit} (h : reroute node r = (out, r')) :
    ∃ refreshed, refresh { r with pool := r.pool.evict node.toAddress } = (refreshed, r') ∧
      (out = .ok () ∨ out = .stalled) := by
  unfold reroute at h
  rw [update_bind] at h
  rcases hrefresh : refresh { r with pool := r.pool.evict node.toAddress } with ⟨refreshed, r₁⟩
  refine ⟨refreshed, ?_⟩
  cases refreshed with
  | ok u =>
      rw [bind_of_ok (attempt_of_ok hrefresh)] at h
      cases h
      exact ⟨rfl, .inl rfl⟩
  | error e =>
      rw [bind_of_ok (attempt_of_error hrefresh)] at h
      cases h
      exact ⟨rfl, .inl rfl⟩
  | stalled =>
      rw [bind_of_stalled (attempt_of_stalled hrefresh)] at h
      cases h
      exact ⟨rfl, .inr rfl⟩

/-- A router that lost a node goes on, with a new map or without. -/
theorem reroute_reloads {node : Node} {out : Outcome Unit} (h : reroute node r = (out, r')) :
    Reloads r r' ∧ (out = .ok () ∨ out = .stalled) := by
  obtain ⟨refreshed, hrefresh, hout⟩ := reroute_refreshes h
  have hevict : Reloads r { r with pool := r.pool.evict node.toAddress } :=
    .of_pool (.of_eq (Pool.sent_evict _ _))
  exact ⟨hevict.trans (refresh_reloads hrefresh).1, hout⟩

/-! ## Finding an owner -/

/-- What looking for the owner of a slot comes to. Only a slot without an owner makes the
router read the map anew, and this once. -/
inductive Routes (slot : Nat) (r : Router τ) : Outcome Node → Router τ → Prop
  | known {owner : Node} (h : r.slots.lookup slot = some owner) : Routes slot r (.ok owner) r
  | reread {owner : Node} {r' : Router τ} (hlookup : r.slots.lookup slot = none)
      (hrefresh : refresh r = (.ok (), r')) (hreloads : Reloads r r')
      (h : r'.slots.lookup slot = some owner) : Routes slot r (.ok owner) r'
  | unowned {r' : Router τ} (hlookup : r.slots.lookup slot = none)
      (hrefresh : refresh r = (.ok (), r')) (hreloads : Reloads r r')
      (h : r'.slots.lookup slot = none) : Routes slot r (.error (.noRoute slot)) r'
  /-- No node gave a map, and the router keeps the one it has. -/
  | unread {stop : Option Failure} {r' : Router τ} (hlookup : r.slots.lookup slot = none)
      (hrefresh : refresh r = (stopped stop, r')) (hreloads : Reloads r r')
      (hslots : r'.slots = r.slots) : Routes slot r (stopped stop) r'

theorem route_routes {out : Outcome Node} (h : route slot r = (out, r')) :
    Routes slot r out r' := by
  unfold route at h
  rw [view_bind] at h
  rcases hlookup : r.slots.lookup slot with _ | owner
  · rw [hlookup] at h
    dsimp only at h
    rcases bind_cases h with ⟨u, r₁, hrefresh, h⟩ | ⟨stop, hrefresh, rfl⟩
    · obtain ⟨hreloads, -⟩ := refresh_reloads hrefresh
      rw [view_bind] at h
      rcases hlookup₁ : r₁.slots.lookup slot with _ | owner
      · rw [hlookup₁] at h
        cases h
        exact .unowned hlookup hrefresh hreloads hlookup₁
      · rw [hlookup₁] at h
        cases h
        exact .reread hlookup hrefresh hreloads hlookup₁
    · obtain ⟨hreloads, hslots⟩ := refresh_reloads hrefresh
      exact .unread hlookup hrefresh hreloads (hslots stopped_ne_ok)
  · rw [hlookup] at h
    cases h
    exact .known hlookup

end RespClient.Router
