import RespClient.Proofs.Node.Unknown
import RespClient.Proofs.Pool.Contact
import RespClient.Proofs.Routing.Answering
import RespClient.Proofs.Routing.Reload

/-!
# The first good slot map

A router that reads the slot map anew asks its seeds and then the owners that it knows, each
once and in order, until one gives a good map. A node may fail it in three ways: no reply, an
error reply, or a reply that is no slot map. None of them touches the map or ends the search.
The new map is taken as a whole, and with it the links to nodes that own nothing are gone.
-/

namespace RespClient.Router

open RespClient.Action

variable {τ : Type} [Transport τ] {node : Node} {nodes : List Node} {p p₁ p' : Pool τ}
  {r r' : Router τ} {e : Failure} {last : Option Failure}

/-! ## Asking one node -/

/-- A node was asked for the slot map: by one request, over at most one new link. -/
structure Asked (node : Node) (p : Pool τ) (out : Outcome Frame) (p' : Pool τ) : Prop where
  request : Pool.request node.toAddress .clusterSlots p = (out, p')
  contacts : ∃ ds sent, ds <+: [node.text] ∧ sent <+: [.clusterSlots] ∧
    Contacts ds sent p.network p'.network

theorem asked_of {out : Outcome Frame}
    (h : Pool.request node.toAddress .clusterSlots p = (out, p')) : Asked node p out p' := by
  obtain ⟨ds, sent, hds, hsent, hcontacts, -⟩ := Pool.request_contacts h
  exact ⟨h, ds, sent, hds, hsent, hcontacts⟩

/-- The ways in which a node gives no good map. -/
inductive Fails (node : Node) (p : Pool τ) : Failure → Pool τ → Prop
  | unanswered {e : Failure} {p' : Pool τ} (h : Asked node p (.error e) p') : Fails node p e p'
  | refused {reply : ErrorReply} {p' : Pool τ} (h : Asked node p (.ok (.error reply)) p') :
      Fails node p (.server reply.message) p'
  | unreadable {reply : Frame} {e : Failure} {p' : Pool τ} (h : Asked node p (.ok reply) p')
      (hplain : reply.asError = none) (hmap : SlotMap.ofListing reply node.text = .error e) :
      Fails node p e p'

/-- What asking a node for the slot map comes to. -/
inductive Fetches (node : Node) (p : Pool τ) : Outcome SlotMap → Pool τ → Prop
  | good {reply : Frame} {m : SlotMap} {p' : Pool τ} (h : Asked node p (.ok reply) p')
      (hmap : SlotMap.ofListing reply node.text = .ok m) : Fetches node p (.ok m) p'
  | bad {e : Failure} {p' : Pool τ} (h : Fails node p e p') : Fetches node p (.error e) p'
  | hangs {p' : Pool τ} (h : Asked node p .stalled p') : Fetches node p .stalled p'

theorem Fetches.asked {out : Outcome SlotMap} (h : Fetches node p out p') :
    ∃ answer, Asked node p answer p' := by
  cases h with
  | good h => exact ⟨_, h⟩
  | bad h =>
      cases h with
      | unanswered h => exact ⟨_, h⟩
      | refused h => exact ⟨_, h⟩
      | unreadable h => exact ⟨_, h⟩
  | hangs h => exact ⟨_, h⟩

theorem fetchSlots_fetches {out : Outcome SlotMap} (h : fetchSlots node p = (out, p')) :
    Fetches node p out p' := by
  rcases bind_cases h with ⟨reply, p₁, hrequest, h⟩ | ⟨stop, hrequest, rfl⟩
  · have hasked := asked_of hrequest
    by_cases herror : ∃ e, reply = .error e
    · obtain ⟨e, rfl⟩ := herror
      cases h
      exact .bad (.refused hasked)
    · have hresult : reply.result = .ok reply := by
        cases reply <;> first | rfl | exact absurd ⟨_, rfl⟩ herror
      have hplain : reply.asError = none := by
        cases reply <;> first | rfl | exact absurd ⟨_, rfl⟩ herror
      rw [hresult] at h
      replace h : ofExcept (SlotMap.ofListing reply node.text) p₁ = (out, p') := h
      rcases hmap : SlotMap.ofListing reply node.text with e | m
      · rw [hmap] at h
        cases h
        exact .bad (.unreadable hasked hplain hmap)
      · rw [hmap] at h
        cases h
        exact .good hasked hmap
  · have hasked := asked_of hrequest
    cases stop with
    | none => exact .hangs hasked
    | some e => exact .bad (.unanswered hasked)

/-! ## Asking one after another -/

/-- Nodes failed one after another, each asked once, and this was the last failure. -/
inductive Failing : List Node → Pool τ → Option Failure → Pool τ → Prop
  | start (p : Pool τ) : Failing [] p none p
  | next {nodes : List Node} {node : Node} {p p₁ p' : Pool τ} {last : Option Failure}
      {e : Failure} (h : Failing nodes p last p₁) (hfails : Fails node p₁ e p') :
      Failing (nodes ++ [node]) p (some e) p'

/-- If one more node failed before all others, the last failure is theirs unless there are no
others. -/
theorem Failing.cons (hfails : Fails node p e p₁) (h : Failing nodes p₁ last p') :
    Failing (node :: nodes) p (some (last.getD e)) p' := by
  induction h with
  | start p₁ => exact .next (.start p) hfails
  | @next nodes next p₁ p₂ p' last e' _ hnext ih => exact .next (ih hfails) hnext

/-- What asking nodes one after another comes to. Any that are left over behind the first good
answer are not asked. -/
inductive Searches (nodes : List Node) (fallback : Failure) (r : Router τ) :
    Outcome Unit → Router τ → Prop
  | found {before behind : List Node} {node : Node} {last : Option Failure} {p p' : Pool τ}
      {reply : Frame} {m : SlotMap} (hnodes : nodes = before ++ node :: behind)
      (hbefore : Failing before r.pool last p) (hasked : Asked node p (.ok reply) p')
      (hmap : SlotMap.ofListing reply node.text = .ok m) :
      Searches nodes fallback r (.ok ()) { r with slots := m, pool := p'.retain m.nodes }
  /-- All nodes failed, and the map is as it was. -/
  | vain {last : Option Failure} {p : Pool τ} (h : Failing nodes r.pool last p) :
      Searches nodes fallback r (.error (last.getD fallback)) { r with pool := p }
  | hangs {before behind : List Node} {node : Node} {last : Option Failure} {p p' : Pool τ}
      (hnodes : nodes = before ++ node :: behind) (hbefore : Failing before r.pool last p)
      (h : Asked node p .stalled p') : Searches nodes fallback r .stalled { r with pool := p' }

theorem Searches.cons {out : Outcome Unit} (hfails : Fails node r.pool e p₁)
    (h : Searches nodes e { r with pool := p₁ } out r') (fallback : Failure) :
    Searches (node :: nodes) fallback r out r' := by
  cases h with
  | found hnodes hbefore hasked hmap =>
      subst hnodes
      exact .found List.cons_append.symm (.cons hfails hbefore) hasked hmap
  | vain hall => exact .vain (.cons hfails hall)
  | hangs hnodes hbefore hasked =>
      subst hnodes
      exact .hangs List.cons_append.symm (.cons hfails hbefore) hasked

theorem refreshFrom_searches {fallback : Failure} {out : Outcome Unit}
    (h : refreshFrom nodes fallback r = (out, r')) : Searches nodes fallback r out r' := by
  induction nodes generalizing r fallback with
  | nil =>
      cases h
      exact .vain (.start _)
  | cons node nodes ih =>
      rcases hfetch : fetchSlots node r.pool with ⟨fetched, p⟩
      have hon := onPool_of hfetch
      unfold refreshFrom at h
      cases fetchSlots_fetches hfetch with
      | good hasked hmap =>
          rw [bind_of_ok (attempt_of_ok hon)] at h
          cases h
          exact .found (List.nil_append _).symm (.start r.pool) hasked hmap
      | bad hfails =>
          rw [bind_of_ok (attempt_of_error hon)] at h
          exact (ih h).cons hfails fallback
      | hangs hasked =>
          rw [bind_of_stalled (attempt_of_stalled hon)] at h
          cases h
          exact .hangs (List.nil_append _).symm (.start r.pool) hasked

/-! ## Reading the map anew -/

omit [Transport τ] in
/-- The candidates are the seeds as listed, then the owners that are no seeds. -/
theorem candidates_eq (r : Router τ) :
    r.candidates = r.seeds ++ r.slots.nodes.filter fun node => !r.seeds.any (·.same node) := by
  unfold candidates
  rw [Node.foldl_addOnce, Node.unknown_eq_filter r.seeds r.slots.pairwise_nodes]

/-- Reading the map anew takes the first good answer, and keeps the map if there is none. -/
structure TakesFirst (r : Router τ) (out : Outcome Unit) (r' : Router τ) : Prop where
  candidates : r.candidates =
    r.seeds ++ r.slots.nodes.filter fun node => !r.seeds.any (·.same node)
  owners : r.slots.nodes = Node.unknown [] (r.slots.ranges.map (·.node))
  searches : Searches r.candidates (.invalidArgument "no seed nodes configured") r out r'
  pooled : out = .ok () → ∀ entry ∈ r'.pool.entries, ∃ node ∈ r'.slots.nodes,
    node.toAddress = entry.1
  kept : out ≠ .ok () → r'.slots = r.slots
  returns : Answering r → out ≠ .stalled

/-- **Reading the slot map anew is atomic and takes the first good answer.** The seeds and then
the other owners are asked, each by one request, until a reply is a slot map. This map is taken
as it stands and the pool keeps links to its owners alone. If all fail, the map is as it was
and the failure is that of the last one, or that there is nobody to ask. -/
theorem refresh_takesFirst [Transport.Lawful τ] (r : Router τ) :
    TakesFirst r (refresh r).1 (refresh r).2 := by
  rcases h : refresh r with ⟨out, r'⟩
  have hsearches : Searches r.candidates (.invalidArgument "no seed nodes configured") r out r' :=
    refreshFrom_searches h
  constructor
  · exact candidates_eq r
  · exact r.slots.nodes_eq
  · exact hsearches
  · rintro rfl
    cases hsearches with
    | @found _ _ _ _ _ p' _ m _ _ _ _ =>
        intro entry hentry
        have hkept := (List.mem_filter.mp hentry).2
        obtain ⟨node, hnode, heq⟩ := List.any_eq_true.mp hkept
        exact ⟨node, hnode, beq_iff_eq.mp heq⟩
  · intro hout
    cases hsearches with
    | found => exact absurd rfl hout
    | vain => rfl
    | hangs => rfl
  · intro hr
    exact ((ends_refresh hr).outcome h).1

/-- A router whose first seed refuses to connect and whose second one knows the owner of all
slots. -/
def secondSeed : Router where
  seeds := [{ host := "x", port := 1 }, { host := "y", port := 2 }]
  pool.network.scripts :=
    let listing := Utf8.encode "*1\r\n*3\r\n:0\r\n:16383\r\n*2\r\n$1\r\nz\r\n:3\r\n"
    [("y:2", [{ greeting := .accepts listing .closed }])]

/-- The second seed's map is taken, and the link to that seed is dropped again. -/
theorem refresh_takesFirst_secondSeed :
    (refresh secondSeed).1 = .ok () ∧
      (refresh secondSeed).2.slots = ⟨[⟨0, 16383, { host := "z", port := 3 }⟩]⟩ ∧
      (refresh secondSeed).2.pool.network.dialled = ["x:1", "y:2"] ∧
      ∀ entry ∈ (refresh secondSeed).2.pool.entries,
        ∃ node ∈ (refresh secondSeed).2.slots.nodes, node.toAddress = entry.1 := by
  have hok : (refresh secondSeed).1 = .ok () := by decide +kernel
  refine ⟨hok, by decide +kernel, by decide +kernel, ?_⟩
  exact (refresh_takesFirst secondSeed).pooled hok

end RespClient.Router
