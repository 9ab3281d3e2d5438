import RespClient.Proofs.Node.Reading
import RespClient.Proofs.Retry.Logged
import RespClient.Proofs.Routing.Refresh
import RespClient.Proofs.Routing.Trace
import RespClient.Proofs.Slot.Hosted

/-!
# Routers that know where to connect

Nodes come into the slot map of a router in two ways: with a listing, which is taken as a
whole, and with a redirect, which moves one slot. A redirect that names no host means the host
of the node that sent it, so that redirects never bring in a node without a host as long as
they come from nodes that have one. A listing is taken at its word instead, an empty host
included. Which listings a router takes depends on nothing but the router with which an
operation begins, and is written down beside the run.
-/

namespace RespClient

/-! ## Redirects -/

/-- A redirect leads to the host of its sender or to one that stands in its address. -/
theorem Redirect.host_of_target {address : String} {sender node : Node}
    (h : target address sender = .ok node) :
    node.host = sender.host ∨ node.host ≠ "" ∧ Node.parse address = .ok node := by
  unfold target at h
  split at h
  · split at h
    · cases h
      exact .inl rfl
    · cases h
  · obtain ⟨a, haddress, rfl⟩ := Node.parse_eq_ok.mp h
    exact .inr ⟨Address.host_ne_empty_of_parse haddress, h⟩

theorem Leg.next_hosted {leg leg' : Leg} {slots slots' : SlotMap} {d : Failure}
    (h : leg.next slots d = .ok (leg', slots')) (hslots : slots.Hosted)
    (hleg : leg.node.host ≠ "") : leg'.node.host ≠ "" ∧ slots'.Hosted := by
  obtain ⟨address, htarget, hmap⟩ := Leg.next_eq_ok h
  have hnode : leg'.node.host ≠ "" := by
    rcases Redirect.host_of_target htarget with hhost | ⟨hhost, -⟩
    · rwa [hhost]
    · exact hhost
  refine ⟨hnode, ?_⟩
  rcases hmap with rfl | ⟨slot, hassign⟩
  · exact hslots
  · exact hslots.assign hnode hassign

namespace Router

open RespClient.Action

variable {τ : Type} [Transport τ]

/-! ## The listings that are taken -/

/-- The first listing with which one of the nodes answers. -/
def firstListing : List Node → Pool τ → List Frame
  | [], _ => []
  | node :: rest, p =>
    match Pool.request node.toAddress .clusterSlots p with
    | (.ok reply, p) =>
      match SlotMap.readListing reply with
      | .ok _ => [reply]
      | .error _ => firstListing rest p
    | (.error _, p) => firstListing rest p
    | (.stalled, _) => []

def refreshListings (r : Router τ) : List Frame :=
  firstListing r.candidates r.pool

def routeListings (slot : Nat) (r : Router τ) : List Frame :=
  if (r.slots.lookup slot).isSome then [] else r.refreshListings

/-- A node that does not answer makes the router take another listing. -/
def deliverListings (c : Command) (leg : Leg) (r : Router τ) : List Frame :=
  match send leg.node c leg.asking r.pool with
  | (.error e, p) =>
    if e.isUnreachable then
      refreshListings { r with pool := p.evict leg.node.toAddress }
    else []
  | _ => []

def followListings (c : Command) : Nat → Leg → Router τ → List Frame
  | 0, leg, r => deliverListings c leg r
  | left + 1, leg, r =>
    deliverListings c leg r ++
      match deliver leg.node c leg.asking r with
      | (.ok reply, r) =>
        match (Redirect.ofReply? reply).map (leg.next r.slots) with
        | some (.ok (next, slots)) => followListings c left next { r with slots }
        | _ => []
      | _ => []

def onceListings (slot : Nat) (c : Command) (r : Router τ) : List Frame :=
  routeListings slot r ++
    match route slot r with
    | (.ok owner, r') => followListings c r.maxRedirects { node := owner } r'
    | _ => []

/-- Executes a command and keeps a log of the listings that are taken. -/
def executeLogged (key : Bytes) (c : Command) : Action (Logged (Router τ) Frame) Frame := fun l =>
  l.state.retry.call false
    (fun _ => Logged.act (onceListings (Slot.ofKey key) c) (executeOnce (Slot.ofKey key) c)) l

/-! ## Runs -/

/-- What a router is asked to do. -/
inductive Operation where
  | refresh
  | execute (key : Bytes) (c : Command)

def Operation.perform : Operation → Action (Router τ) Unit
  | .refresh => Router.refresh
  | .execute key c => do
    let _ ← Router.execute key c

/-- The listings that an operation takes. -/
def Operation.listings : Operation → Router τ → List Frame
  | .refresh, r => r.refreshListings
  | .execute key c, r => (executeLogged key c { state := r }).2.log

/-- A run with all the listings that were taken in it. -/
inductive Story (r₀ : Router τ) : List Operation → List Frame → Router τ → Prop
  | start : Story r₀ [] [] r₀
  | step {ops : List Operation} {op : Operation} {listings : List Frame} {r r' : Router τ}
      {out : Outcome Unit} (h : Story r₀ ops listings r) (hop : op.perform r = (out, r')) :
      Story r₀ (ops ++ [op]) (listings ++ op.listings r) r'

variable {r r' : Router τ} {p p' : Pool τ} {node : Node} {nodes : List Node} {slot left : Nat}
  {leg : Leg} {c : Command} {out : Outcome Frame}

/-- Whatever a router is asked to do, its story goes on. -/
theorem Story.next {r₀ : Router τ} {ops : List Operation} {listings : List Frame}
    (h : Story r₀ ops listings r) (op : Operation) :
    Story r₀ (ops ++ [op]) (listings ++ op.listings r) (op.perform r).2 :=
  h.step rfl

/-! ## Reading the map anew -/

/-- Behind a node that fails, the search goes on with the others. -/
theorem firstListing_of_fails {e : Failure} (h : Fails node p e p') :
    firstListing (node :: nodes) p = firstListing nodes p' := by
  cases h with
  | unanswered hasked => simp only [firstListing, hasked.request]
  | refused hasked => simp only [firstListing, hasked.request, SlotMap.readListing]
  | @unreadable reply _ _ hasked _ hmap =>
      rcases hread : SlotMap.readListing reply with fault | m
      · simp only [firstListing, hasked.request, hread]
      · rw [SlotMap.ofListing_eq_ok.mpr hread] at hmap
        cases hmap

theorem refreshFrom_listed {last : Failure} (h : refreshFrom nodes last r = (.ok (), r')) :
    ∃ listing, firstListing nodes r.pool = [listing] ∧
      SlotMap.readListing listing = .ok r'.slots := by
  induction nodes generalizing r last with
  | nil => cases h
  | cons node nodes ih =>
      rcases hfetch : fetchSlots node r.pool with ⟨fetched, p⟩
      have hon := onPool_of hfetch
      unfold refreshFrom at h
      cases fetchSlots_fetches hfetch with
      | @good reply m _ hasked hmap =>
          rw [bind_of_ok (attempt_of_ok hon)] at h
          cases h
          have hread := SlotMap.ofListing_eq_ok.mp hmap
          exact ⟨reply, by simp only [firstListing, hasked.request, hread], hread⟩
      | bad hfails =>
          rw [bind_of_ok (attempt_of_error hon)] at h
          rw [firstListing_of_fails hfails]
          exact ih h
      | hangs =>
          rw [bind_of_stalled (attempt_of_stalled hon)] at h
          cases h

theorem refresh_hosted {out : Outcome Unit} (h : refresh r = (out, r')) (hslots : r.slots.Hosted)
    (hlistings : ∀ l ∈ r.refreshListings, SlotMap.ListsHosts l) : r'.slots.Hosted := by
  by_cases hout : out = .ok ()
  · subst hout
    obtain ⟨listing, hfirst, hread⟩ := refreshFrom_listed h
    have hmem : listing ∈ r.refreshListings := by
      rw [refreshListings, hfirst]
      exact List.mem_singleton_self listing
    exact (hlistings listing hmem).hosted hread
  · rw [(refresh_reloads h).2 hout]
    exact hslots

/-! ## One try -/

theorem route_hosted {out : Outcome Node} (h : route slot r = (out, r')) (hslots : r.slots.Hosted)
    (hlistings : ∀ l ∈ routeListings slot r, SlotMap.ListsHosts l) :
    r'.slots.Hosted ∧ ∀ owner, out = .ok owner → owner.host ≠ "" := by
  have hrefresh : ∀ {out : Outcome Unit} {r₁ : Router τ}, r.slots.lookup slot = none →
      refresh r = (out, r₁) → r₁.slots.Hosted := by
    intro out r₁ hnone hrefresh
    rw [routeListings, hnone] at hlistings
    exact refresh_hosted hrefresh hslots hlistings
  cases route_routes h with
  | known hlookup =>
      refine ⟨hslots, ?_⟩
      rintro owner ⟨⟩
      exact hslots.lookup hlookup
  | reread hnone hread _ hlookup =>
      have hhosted := hrefresh hnone hread
      refine ⟨hhosted, ?_⟩
      rintro owner ⟨⟩
      exact hhosted.lookup hlookup
  | unowned hnone hread => exact ⟨hrefresh hnone hread, fun _ hok => by cases hok⟩
  | unread hnone hread => exact ⟨hrefresh hnone hread, fun _ hok => absurd hok stopped_ne_ok⟩

theorem deliver_hosted (h : deliver leg.node c leg.asking r = (out, r')) (hslots : r.slots.Hosted)
    (hlistings : ∀ l ∈ deliverListings c leg r, SlotMap.ListsHosts l) : r'.slots.Hosted := by
  rcases hsend : send leg.node c leg.asking r.pool with ⟨sent, p⟩
  have hon := onPool_of hsend
  unfold deliver at h
  cases sent with
  | ok reply =>
      rw [bind_of_ok (attempt_of_ok hon)] at h
      cases h
      exact hslots
  | stalled =>
      rw [bind_of_stalled (attempt_of_stalled hon)] at h
      cases h
      exact hslots
  | error e =>
      rw [bind_of_ok (attempt_of_error hon)] at h
      dsimp only at h
      rw [deliverListings, hsend] at hlistings
      dsimp only at hlistings
      split at h
      · rename_i hunreachable
        rw [if_pos hunreachable] at hlistings
        rcases bind_cases h with ⟨u, r₁, hreroute, hfail⟩ | ⟨stop, hreroute, -⟩
        · cases hfail
          obtain ⟨refreshed, hrefresh, -⟩ := reroute_refreshes hreroute
          exact refresh_hosted hrefresh hslots hlistings
        · obtain ⟨refreshed, hrefresh, -⟩ := reroute_refreshes hreroute
          exact refresh_hosted hrefresh hslots hlistings
      · cases h
        exact hslots

/-- Along the way of a command every node has a host, and so has every owner. -/
theorem follow_hosted (h : follow c left leg.node leg.asking r = (out, r'))
    (hslots : r.slots.Hosted) (hleg : leg.node.host ≠ "")
    (hlistings : ∀ l ∈ followListings c left leg r, SlotMap.ListsHosts l) : r'.slots.Hosted := by
  induction left generalizing leg r with
  | zero =>
      rcases bind_cases h with ⟨reply, r₁, hdeliver, h⟩ | ⟨stop, hdeliver, -⟩
      · have hhosted := deliver_hosted hdeliver hslots hlistings
        rcases hreply : Redirect.ofReply? reply with _ | d
        · rw [hreply] at h
          cases h
          exact hhosted
        · rw [hreply] at h
          cases h
          exact hhosted
      · exact deliver_hosted hdeliver hslots hlistings
  | succ left ih =>
      rw [followListings, List.forall_mem_append] at hlistings
      obtain ⟨hfirst, hrest⟩ := hlistings
      rcases bind_cases h with ⟨reply, r₁, hdeliver, h⟩ | ⟨stop, hdeliver, -⟩
      · have hhosted := deliver_hosted hdeliver hslots hfirst
        rcases hreply : Redirect.ofReply? reply with _ | d
        · rw [hreply] at h
          cases h
          exact hhosted
        rw [hreply] at h
        replace h : (heed leg.node d >>= fun way => follow c left way.1 way.2) r₁ = (out, r') := h
        have hheed := heed_eq leg d r₁
        rcases hnext : leg.next r₁.slots d with e | ⟨next, slots⟩
        · rw [hnext] at hheed
          rw [bind_of_error hheed] at h
          cases h
          exact hhosted
        · rw [hnext] at hheed
          rw [bind_of_ok hheed] at h
          obtain ⟨hnode, hlearned⟩ := Leg.next_hosted hnext hhosted hleg
          rw [hdeliver] at hrest
          simp only [hreply, Option.map_some, hnext] at hrest
          exact ih h hlearned hnode hrest
      · exact deliver_hosted hdeliver hslots hfirst

theorem executeOnce_hosted (h : executeOnce slot c r = (out, r')) (hslots : r.slots.Hosted)
    (hlistings : ∀ l ∈ onceListings slot c r, SlotMap.ListsHosts l) : r'.slots.Hosted := by
  rw [onceListings, List.forall_mem_append] at hlistings
  obtain ⟨hroute, hfollow⟩ := hlistings
  unfold executeOnce at h
  rw [view_bind] at h
  rcases bind_cases h with ⟨owner, r₁, hrouted, h⟩ | ⟨stop, hrouted, -⟩
  · obtain ⟨hhosted, howner⟩ := route_hosted hrouted hslots hroute
    rw [hrouted] at hfollow
    replace h : follow c r.maxRedirects (Leg.mk owner false).node false r₁ = (out, r') := h
    exact follow_hosted h hhosted (howner owner rfl) hfollow
  · exact (route_hosted hrouted hslots hroute).1

/-! ## Whole calls -/

/-- While a command is tried again and again, the log tells all the listings that are taken. -/
theorem executeLogged_hosted {key : Bytes} {l l' : Logged (Router τ) Frame}
    (h : executeLogged key c l = (out, l')) :
    l.log <+: l'.log ∧ ((∀ f ∈ l'.log, SlotMap.ListsHosts f) → l.state.slots.Hosted →
      l'.state.slots.Hosted) := by
  have hcalls := RetryPolicy.callFrom_calls h
  -- only what is logged matters here, and not what the tries cost
  obtain ⟨-, -, hkeeps⟩ := hcalls.costs (P := fun _ => True)
    (R := fun _ l l' => l.log <+: l'.log ∧ ((∀ f ∈ l'.log, SlotMap.ListsHosts f) →
      l.state.slots.Hosted → l'.state.slots.Hosted))
    trivial (fun l => ⟨List.prefix_refl _, fun _ hslots => hslots⟩)
    (fun h h' => by
      obtain ⟨hlog, hkeeps⟩ := h
      obtain ⟨hlog', hkeeps'⟩ := h'
      refine ⟨hlog.trans hlog', fun hlistings hslots => hkeeps' hlistings (hkeeps ?_ hslots)⟩
      exact fun f hf => hlistings f (hlog'.subset hf))
    (fun _ htry => by
      cases htry
      refine ⟨trivial, 0, Nat.le_refl 0, List.prefix_append _ _, fun hlistings hslots => ?_⟩
      exact executeOnce_hosted rfl hslots (List.forall_mem_append.mp hlistings).2)
    (fun _ hpause => by
      obtain rfl := congrArg Prod.snd hpause
      exact ⟨trivial, List.prefix_refl _, fun _ hslots => hslots⟩)
  exact hkeeps

theorem execute_hosted {key : Bytes} (h : execute key c r = (out, r')) (hslots : r.slots.Hosted)
    (hlistings : ∀ l ∈ (Operation.execute key c).listings r, SlotMap.ListsHosts l) :
    r'.slots.Hosted := by
  obtain ⟨more, hlogged⟩ := RetryPolicy.callFrom_logged h ([] : List Frame)
  replace hlogged : executeLogged key c { state := r } = (out, { state := r', log := more }) :=
    hlogged
  rw [Operation.listings, hlogged] at hlistings
  exact (executeLogged_hosted hlogged).2 hlistings hslots

theorem Operation.hosted {op : Operation} {out : Outcome Unit} (h : op.perform r = (out, r'))
    (hslots : r.slots.Hosted) (hlistings : ∀ l ∈ op.listings r, SlotMap.ListsHosts l) :
    r'.slots.Hosted := by
  cases op with
  | refresh => exact refresh_hosted h hslots hlistings
  | execute key c =>
      rcases bind_unit_eq h with ⟨reply, hexecute, -⟩ | ⟨stop, hexecute, -⟩
      · exact execute_hosted hexecute hslots hlistings
      · exact execute_hosted hexecute hslots hlistings

/-- **A slot map has no owner without a host unless a listing named one.** Whatever the nodes
answer, and whatever redirects they send, every owner has a host after a run in which every
listing that was taken names hosts only. -/
theorem Story.owners_hosted {r₀ : Router τ} {ops : List Operation} {listings : List Frame}
    (h : Story r₀ ops listings r) (hslots : r₀.slots.Hosted)
    (hlistings : ∀ l ∈ listings, SlotMap.ListsHosts l) :
    r.slots.Hosted ∧ ∀ slot sender, r.slots.lookup slot = some sender →
      sender.host ≠ "" ∧ ∀ address node, Redirect.target address sender = .ok node →
        node.host ≠ "" ∧ (node.host = sender.host ∨ Node.parse address = .ok node) := by
  have hhosted : r.slots.Hosted := by
    induction h with
    | start => exact hslots
    | step _ hop ih =>
        obtain ⟨hbefore, hlast⟩ := List.forall_mem_append.mp hlistings
        exact Operation.hosted hop (ih hbefore) hlast
  refine ⟨hhosted, fun slot sender hlookup => ?_⟩
  have hsender := hhosted.lookup hlookup
  refine ⟨hsender, fun address node htarget => ?_⟩
  rcases Redirect.host_of_target htarget with hhost | ⟨hhost, hparse⟩
  · exact ⟨hhost ▸ hsender, .inl hhost⟩
  · exact ⟨hhost, .inr hparse⟩

/-- A router whose seed says of itself that it owns all slots, but leaves out its host. -/
def unnamed : Router where
  seeds := [{ host := "127.0.0.1", port := 7000 }]
  pool.network.scripts :=
    let listing := Utf8.encode "*1\r\n*3\r\n:0\r\n:16383\r\n*2\r\n$0\r\n\r\n:7000\r\n"
    [("127.0.0.1:7000", [{ greeting := .accepts listing .closed }])]

/-- The seed has a host, and the owner of all slots has none. -/
theorem refresh_unnamed :
    (∀ seed ∈ unnamed.seeds, seed.host ≠ "") ∧ unnamed.slots = .empty ∧
      (refresh unnamed).1 = .ok () ∧
      (refresh unnamed).2.slots = ⟨[⟨0, 16383, { host := "", port := 7000 }⟩]⟩ := by
  decide +kernel

/-- A router whose seed owns all slots at first, and then moves one of them to another port
without saying on which host. -/
def hostless : Router where
  seeds := [{ host := "x", port := 1 }]
  pool.network.scripts :=
    let replies := Utf8.encode
      "*1\r\n*3\r\n:0\r\n:16383\r\n*2\r\n$1\r\nx\r\n:1\r\n-MOVED 12182 :2\r\n"
    [("x:1", [{ greeting := .accepts replies .closed }]),
     ("x:2", [{ greeting := .accepts (Utf8.encode "+OK\r\n") .closed }])]

theorem Story.owners_hosted_hostless :
    let read := (Operation.refresh.perform hostless).2
    let r := ((Operation.execute (Utf8.encode "foo") .ping).perform read).2
    r.slots.Hosted ∧ r.slots.lookup 12182 = some { host := "x", port := 2 } := by
  intro read r
  have hstory : Story hostless _ _ r :=
    (Story.start.next .refresh).next (.execute (Utf8.encode "foo") .ping)
  have hhosted := (Story.owners_hosted hstory SlotMap.hosted_empty (by decide +kernel)).1
  exact ⟨hhosted, by decide +kernel⟩

end Router

end RespClient
