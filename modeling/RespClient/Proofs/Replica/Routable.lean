import RespClient.Proofs.Replica.Story

/-!
# A group that found a set once can route

A client that has found a set once always knows an active node. It trusts it, or it searches
again: then the new master is the active node, or, if the search fails, the client falls back
on the node it knows. It does so whenever the sentinels are out of reach, too slow, make no
sense or know no master. The one failure that it does not bear is that of a sentinel which is
there and answers, but with an error reply; there is no other but for those of a connector that
fails to connect in ways of its own.
-/

namespace RespClient

open RespClient.Action

/-! ## What a sentinel can fail with -/

namespace Discovery

variable {τ : Type} [Transport τ] {d : Discovery} {node : Node} {id : Nat} {e : Failure}
  {s s' : Discovery × Network τ}

/-- A sentinel answered a question with an error reply. -/
structure Refuses (id : Nat) (c : Command) (n : Network τ) (e : Failure) (n' : Network τ) :
    Prop where
  reply : ∃ r, Network.request id c n = (.ok (.error r), n') ∧ e = .server r.message

/-- A sentinel answered some of the questions and then one with an error reply. -/
inductive Rejects (d : Discovery) (node : Node) (id : Nat) (n : Network τ) (e : Failure) :
    Network τ → Prop
  | master {n' : Network τ}
      (h : Refuses id (.sentinelMaster (Utf8.encode d.service)) n e n') : Rejects d node id n e n'
  | replicas {first : Frame} {master : Node} {n₁ n' : Network τ}
      (hfirst : Replies id (.sentinelMaster (Utf8.encode d.service)) n first n₁)
      (hmaster : d.readMaster first node.text = .ok master)
      (h : Refuses id (.sentinelReplicas (Utf8.encode d.service)) n₁ e n') :
      Rejects d node id n e n'
  | peers {first second : Frame} {master : Node} {replicas : List Node} {n₁ n₂ n' : Network τ}
      (hfirst : Replies id (.sentinelMaster (Utf8.encode d.service)) n first n₁)
      (hmaster : d.readMaster first node.text = .ok master)
      (hsecond : Replies id (.sentinelReplicas (Utf8.encode d.service)) n₁ second n₂)
      (hreplicas : Sentinel.readReplicas second node.text = .ok replicas)
      (hlearns : d.learns = true)
      (h : Refuses id (.sentinelPeers (Utf8.encode d.service)) n₂ e n') : Rejects d node id n e n'

/-- A sentinel is there but it does not say what it is asked: it takes no connection, or it
answers with an error reply. -/
inductive Repels (node : Node) (e : Failure) (s : Discovery × Network τ) : Prop
  | unconnected {clock : Clock} {n : Network τ}
      (h : Network.connect node.text (Timed.setClock clock s.2) = (.error e, n))
  | rejected {clock : Clock} {id : Nat} {t : Discovery × Network τ} {n : Network τ}
      (hreach : reach node (s.1.advance, Timed.setClock clock s.2) = (.ok id, t))
      (h : Rejects s.1.advance node id t.2 e n)

/-- A search fails because of the sentinel that it asked last. -/
structure Repelled (s : Discovery × Network τ) (e : Failure) : Prop where
  asked : ∃ dropped node t s', Drops false s dropped t ∧ Attempt false node t (.error e) s' ∧
    Repels node e t

end Discovery

open Discovery

namespace ReplicaGroup

variable {e : Failure}

theorem isBearable_of_breaksLink (h : e.breaksLink = true) : isBearable e = true := by
  rw [isBearable, h, Bool.or_true]

/-! ### Answers that make no sense -/

theorem readMaster_bearable {d : Discovery} {reply : Frame} {endpoint : String}
    (h : d.readMaster reply endpoint = .error e) : isBearable e = true := by
  unfold Discovery.readMaster at h
  split at h
  · cases h
    rfl
  · unfold Sentinel.readMaster at h
    split at h
    · cases h
    · cases h
      rfl

theorem readEach_bearable {endpoint : String} {entries : List Frame}
    (h : Sentinel.readEach endpoint entries = .error e) : isBearable e = true := by
  induction entries with
  | nil => cases h
  | cons entry rest ih =>
      unfold Sentinel.readEach at h
      split at h
      · cases h
        rfl
      · split at h
        · cases h
          exact ih ‹_›
        · cases h

theorem readInstances_bearable {reply : Frame} {endpoint : String}
    (h : Sentinel.readInstances reply endpoint = .error e) : isBearable e = true := by
  unfold Sentinel.readInstances at h
  split at h
  · exact readEach_bearable h
  · exact readEach_bearable h
  · cases h
    rfl

theorem addresses_bearable {endpoint : String} {instances : List Sentinel.Fields}
    (h : Sentinel.addresses endpoint instances = .error e) : isBearable e = true := by
  induction instances with
  | nil => cases h
  | cons fields rest ih =>
      unfold Sentinel.addresses at h
      split at h
      · rename_i hfields
        cases h
        unfold Sentinel.Fields.address at hfields
        split at hfields
        · cases hfields
        · cases hfields
          rfl
      · split at h
        · cases h
          exact ih ‹_›
        · cases h

theorem error_of_map {α β : Type} {f : α → β} {r : Except Failure α} (h : r.map f = .error e) :
    r = .error e := by
  cases r with
  | ok a => cases h
  | error e' =>
      cases h
      rfl

theorem readReplicas_bearable {reply : Frame} {endpoint : String}
    (h : Sentinel.readReplicas reply endpoint = .error e) : isBearable e = true := by
  unfold Sentinel.readReplicas at h
  split at h
  · cases h
    exact readInstances_bearable ‹_›
  · exact addresses_bearable (error_of_map h)

theorem readPeers_bearable {reply : Frame} {endpoint : String}
    (h : Sentinel.readPeers reply endpoint = .error e) : isBearable e = true := by
  unfold Sentinel.readPeers at h
  split at h
  · cases h
    exact readInstances_bearable ‹_›
  · exact addresses_bearable (error_of_map h)

/-! ### Questions -/

variable {τ : Type} [Transport τ] [Transport.Fragile τ] {d : Discovery} {node : Node} {id : Nat}
  {s s' : Discovery × Network τ}

omit [Transport τ] [Transport.Fragile τ] in
theorem ofExcept_eq_error {σ α : Type} {r : Except Failure α} {s t : σ}
    (h : ofExcept r s = (.error e, t)) : r = .error e := by
  cases r with
  | ok a => cases h
  | error e' =>
      cases h
      rfl

theorem refuses_of_ask {c : Command} (h : ask id c s = (.error e, s')) :
    isBearable e = true ∨ Refuses id c s.2 e s'.2 := by
  rcases bind_eq_error.mp h with hrequest | ⟨reply, s₁, hrequest, hresult⟩
  · obtain ⟨n, hrun, -⟩ := onNetwork_eq hrequest
    exact .inl (isBearable_of_breaksLink (Network.request_breaks hrun))
  · obtain ⟨n, hrun, rfl⟩ := onNetwork_eq hrequest
    have hstate := ofExcept_state hresult
    subst hstate
    cases reply with
    | error r =>
        cases hresult
        exact .inr ⟨r, hrun, rfl⟩
    | _ => cases hresult

/-- Of all that can go wrong while a sentinel is asked only an error reply is not borne. -/
theorem rejects_of_interrogate (h : interrogate d node id s = (.error e, s')) :
    isBearable e = true ∨ Rejects d node id s.2 e s'.2 := by
  -- question by question: an answer that makes no sense is borne, and only the question
  -- itself can be refused
  rcases bind_eq_error.mp h with hfirst | ⟨first, s₁, hfirst, h₁⟩
  · exact (refuses_of_ask hfirst).imp_right .master
  rcases bind_eq_error.mp h₁ with hread | ⟨master, s₂, hread, h₂⟩
  · exact .inl (readMaster_bearable (ofExcept_eq_error hread))
  obtain ⟨hmaster, rfl⟩ := ofExcept_eq_ok hread
  obtain ⟨-, hfirst⟩ := replies_of_ask hfirst
  rcases bind_eq_error.mp h₂ with hsecond | ⟨second, s₃, hsecond, h₃⟩
  · exact (refuses_of_ask hsecond).imp_right (.replicas hfirst hmaster)
  rcases bind_eq_error.mp h₃ with hread | ⟨replicas, s₄, hread, h₄⟩
  · exact .inl (readReplicas_bearable (ofExcept_eq_error hread))
  obtain ⟨hreplicas, rfl⟩ := ofExcept_eq_ok hread
  obtain ⟨-, hsecond⟩ := replies_of_ask hsecond
  rcases bind_eq_error.mp h₄ with hpeers | ⟨peers, s₅, -, hgive⟩
  · unfold askPeers at hpeers
    split at hpeers
    · rename_i hlearns
      rcases bind_eq_error.mp hpeers with hthird | ⟨third, s₅, hthird, hread⟩
      · exact (refuses_of_ask hthird).imp_right (.peers hfirst hmaster hsecond hreplicas hlearns)
      · exact .inl (readPeers_bearable (ofExcept_eq_error hread))
    · cases hpeers
  · cases hgive

omit [Transport.Fragile τ] in
theorem unconnected_of_reach (h : reach node s = (.error e, s')) :
    ∃ n, Network.connect node.text s.2 = (.error e, n) := by
  unfold reach at h
  rw [view_bind] at h
  rcases hlink : liveLink? s with _ | id
  · rw [hlink] at h
    dsimp only at h
    rw [update_bind] at h
    rcases bind_eq_error.mp h with hconnect | ⟨id, s₁, -, hgive⟩
    · obtain ⟨n, hrun, -⟩ := onNetwork_eq hconnect
      exact ⟨n, hrun⟩
    · cases hgive
  · rw [hlink] at h
    cases h

/-! ### Searches -/

omit [Transport τ] [Transport.Fragile τ] in
/-- An action that is limited in time fails as it does without the limit, or it takes too
long. -/
theorem limited_eq_error {α : Type} {limit : Option Nat} {endpoint : String}
    {x : Action (Discovery × Network τ) α} (h : Timed.limited limit endpoint x s = (.error e, s')) :
    (∃ clock t, x (Timed.setClock clock s) = (.error e, t)) ∨ e = .timeout endpoint := by
  cases limit with
  | none => exact .inl ⟨Timed.clock s, s', h⟩
  | some millis =>
      unfold Timed.limited at h
      dsimp only at h
      generalize Timed.earlier _ _ = deadline at h
      rcases hrun : x (Timed.setDeadline deadline s) with ⟨run, t⟩
      rw [hrun] at h
      cases run with
      | ok a => cases h
      | error e' =>
          cases h
          exact .inl ⟨_, _, hrun⟩
      | stalled =>
          -- without a limit this would never end, so there is nothing that it fails with
          dsimp only at h
          split at h
          · cases h
          · cases h
            exact .inr rfl

/-- What is not borne of an attempt is that the sentinel repels it. -/
theorem repels_of_attempt (h : Attempt false node s (.error e) s') (he : isBearable e = false) :
    Repels node e s := by
  rcases limited_eq_error h.run with ⟨clock, t, hquery⟩ | rfl
  · rw [query_eq] at hquery
    rcases bind_eq_error.mp hquery with hreach | ⟨id, s₁, hreach, hask⟩
    · obtain ⟨n, hconnect⟩ := unconnected_of_reach hreach
      exact .unconnected hconnect
    · rcases rejects_of_interrogate hask with hbearable | hrejects
      · rw [hbearable] at he
        cases he
      · exact .rejected hreach hrejects
  · cases he

theorem repelled_of_discover (h : Discovery.discover false s = (.error e, s'))
    (he : isBearable e = false) : Repelled s e := by
  obtain ⟨dropped, t, hdrops, -, hend⟩ := search_drops (Nat.le_refl _) h
  cases hend with
  | failed hattempt => exact ⟨dropped, _, t, s', hdrops, hattempt, repels_of_attempt hattempt he⟩
  | cancelled hheedful => cases hheedful
  | exhausted => cases he

/-! ## The active node -/

/-- A set was found once, and some node of it is active. -/
structure Known (g : ReplicaGroup τ) : Prop where
  found : g.state ≠ .unresolved
  active : ∃ node, g.set.current = some node

variable {g g' g₀ : ReplicaGroup τ} {ds : List Deed} {out : Outcome Node}

omit [Transport τ] [Transport.Fragile τ] in
theorem Known.of_eq (h : Known g) (hset : g'.set = g.set) (hstate : g'.state = g.state) :
    Known g' :=
  ⟨hstate ▸ h.found, hset ▸ h.active⟩

omit [Transport τ] [Transport.Fragile τ] in
theorem Known.markStale (h : Known g) : Known g.markStale :=
  ⟨state_markStale h.found, g.set_markStale ▸ h.active⟩

omit [Transport τ] [Transport.Fragile τ] in
theorem Known.heed (h : Known g) (fate : Outcome Unit) : Known (heed fate g) := by
  unfold ReplicaGroup.heed
  split
  · split
    · exact h.markStale
    · exact h
  · exact h

omit [Transport.Fragile τ] in
/-- Once a search has succeeded an active node is known for good. -/
theorem Accounts.known {heedful : Bool} {set : ReplicaSet} (h : Accounts g₀ ds g)
    (hfound : .searched heedful (.ok set) ∈ ds) : Known g := by
  -- only a search that succeeds replaces the set, and nothing takes the state back to
  -- unresolved, so each deed either finds a set or keeps the one that was known
  have hbefore : ∀ {ds : List Deed} {d : Deed}, .searched heedful (.ok set) ∈ ds ++ [d] →
      (∀ set, d ≠ .searched heedful (.ok set)) → .searched heedful (.ok set) ∈ ds := by
    intro ds d hmem hd
    rcases List.mem_append.mp hmem with hmem | hmem
    · exact hmem
    · exact absurd (List.mem_singleton.mp hmem).symm (hd set)
  induction h with
  | start => cases hfound
  | waited clock words _ ih => exact (ih hfound).of_eq rfl rfl
  | suspected _ ih => exact (ih hfound).markStale
  | @searched _ heedful found _ _ _ h ih =>
      obtain ⟨s, hdiscover, rfl⟩ := onDiscovery_eq h
      cases found with
      | ok set =>
          obtain ⟨master, replicas, rfl⟩ := Discovery.ofMaster_of_discover hdiscover
          exact ⟨by rintro ⟨⟩, master, rfl⟩
      | error e =>
          have hknown := ih (hbefore hfound (by rintro set ⟨⟩))
          refine Known.markStale ?_
          exact hknown.of_eq rfl rfl
      | stalled =>
          have hknown := ih (hbefore hfound (by rintro set ⟨⟩))
          exact hknown.of_eq rfl rfl
  | @switched _ node _ _ _ ih =>
      have hknown := ih (hbefore hfound (by rintro set ⟨⟩))
      exact ⟨hknown.found, node, rfl⟩
  | asked _ _ _ _ ih =>
      have hknown := ih (hbefore hfound (by rintro set ⟨⟩))
      refine Known.heed ?_ _
      exact hknown.of_eq rfl rfl

/-- What a client that knows a set gives as the active node. -/
inductive Routes (g : ReplicaGroup τ) : Outcome Node → ReplicaGroup τ → Prop
  | trusted {node : Node} (hstate : g.state = .resolved) (hnode : g.set.current = some node) :
      Routes g (.ok node) g
  | rediscovered {master : Node} {replicas : List Node} {g' : ReplicaGroup τ}
      (hstate : g.state = .stale)
      (h : onDiscovery (Discovery.discover false) g = (.ok (.ofMaster master replicas), g')) :
      Routes g (.ok master) (g'.resolve (.ofMaster master replicas))
  /-- The search failed, and the client goes on with the node that it knows. -/
  | fallenBack {node : Node} {e : Failure} {g' : ReplicaGroup τ} (hstate : g.state = .stale)
      (h : onDiscovery (Discovery.discover false) g = (.error e, g'))
      (he : isBearable e = true) (hnode : g.set.current = some node) : Routes g (.ok node) g'
  /-- A sentinel is there and does not say what it is asked. -/
  | repelled {e : Failure} {g' : ReplicaGroup τ} (hstate : g.state = .stale)
      (h : onDiscovery (Discovery.discover false) g = (.error e, g'))
      (he : isBearable e = false) (hwhy : Repelled (g.discovery, g.pool.network) e) :
      Routes g (.error e) g'
  | hangs {g' : ReplicaGroup τ} (hstate : g.state = .stale)
      (h : onDiscovery (Discovery.discover false) g = (.stalled, g')) : Routes g .stalled g'

omit [Transport.Fragile τ] in
theorem current_of_check {node : Node} (h : check false g = (.ok (), g'))
    (hnode : g'.set.current = some node) : current g = (.ok node, g') := by
  have hensure : ensureRoutable g = (.ok (), g') := bind_of_ok (attempt_of_ok h)
  rw [current, bind_of_ok hensure, get_bind, hnode]
  rfl

omit [Transport.Fragile τ] in
theorem check_of_resolved (h : g.state = .resolved) : check false g = (.ok (), g) := by
  rw [check, view_bind, if_pos h]
  rfl

omit [Transport.Fragile τ] in
theorem check_of_stale (h : g.state = .stale) : check false g = refresh false g := by
  rw [check, view_bind, if_neg (by rw [h]; rintro ⟨⟩)]

section

variable {node : Node} (hstate : g.state = .stale)

include hstate

omit [Transport.Fragile τ] in
theorem check_of_found {set : ReplicaSet}
    (h : onDiscovery (Discovery.discover false) g = (.ok set, g')) :
    check false g = (.ok (), g'.resolve set) := by
  rw [check_of_stale hstate, refresh, bind_of_ok (attempt_of_ok h)]
  rfl

omit [Transport.Fragile τ] in
/-- A search that fails leaves a stale set as it is. -/
theorem check_of_missed (h : onDiscovery (Discovery.discover false) g = (.error e, g')) :
    check false g = (.error e, g') := by
  have hkept : g'.markStale = g' := by
    obtain ⟨s, -, rfl⟩ := onDiscovery_eq h
    rw [ReplicaGroup.markStale, if_neg]
    show ¬g.state = _
    rw [hstate]
    rintro ⟨⟩
  have hrefresh : refresh false g = (.error e, g'.markStale) := by
    rw [refresh, bind_of_ok (attempt_of_error h)]
    rfl
  rw [check_of_stale hstate, hrefresh, hkept]

omit [Transport.Fragile τ] in
theorem check_of_hung (h : onDiscovery (Discovery.discover false) g = (.stalled, g')) :
    check false g = (.stalled, g') := by
  rw [check_of_stale hstate, refresh, bind_of_stalled (attempt_of_stalled h)]

omit [Transport.Fragile τ] in
/-- What a client does not bear it passes on. -/
theorem ensureRoutable_of_missed (hnode : g.set.current = some node)
    (h : onDiscovery (Discovery.discover false) g = (.error e, g')) :
    ensureRoutable g = if isBearable e then (.ok (), g') else (.error e, g') := by
  have hbears : (isBearable e && g'.state == .stale && g'.set.current.isSome) = isBearable e := by
    obtain ⟨s, -, rfl⟩ := onDiscovery_eq h
    simp [hstate, hnode]
  rw [ensureRoutable, bind_of_ok (attempt_of_error (check_of_missed hstate h))]
  dsimp only
  rw [get_bind, hbears]
  split
  · rfl
  · rfl

end

theorem routes_of_current (hg : Known g) (h : current g = (out, g')) : Routes g out g' := by
  obtain ⟨node, hnode⟩ := hg.active
  rcases hstate : g.state with _ | _ | _
  · exact absurd hstate hg.found
  · rw [current_of_check (check_of_resolved hstate) hnode] at h
    cases h
    exact .trusted hstate hnode
  · rcases hfound : onDiscovery (Discovery.discover false) g with ⟨found, g₁⟩
    obtain ⟨s, hdiscover, hg₁⟩ := onDiscovery_eq hfound
    cases found with
    | ok set =>
        obtain ⟨master, replicas, rfl⟩ := Discovery.ofMaster_of_discover hdiscover
        rw [current_of_check (check_of_found hstate hfound) rfl] at h
        cases h
        exact .rediscovered hstate hfound
    | stalled =>
        have hensure : ensureRoutable g = (.stalled, g₁) :=
          bind_of_stalled (attempt_of_stalled (check_of_hung hstate hfound))
        rw [current, bind_of_stalled hensure] at h
        cases h
        exact .hangs hstate hfound
    | error e =>
        -- the state and the node are those from before the search, so the kind of the
        -- failure alone decides
        have hensure := ensureRoutable_of_missed hstate hnode hfound
        by_cases he : isBearable e = true
        · have hnode₁ : g₁.set.current = some node := by
            rw [hg₁]
            exact hnode
          rw [if_pos he] at hensure
          rw [current, bind_of_ok hensure, get_bind, hnode₁] at h
          cases h
          exact .fallenBack hstate hfound he hnode
        · rw [if_neg he] at hensure
          rw [current, bind_of_error hensure] at h
          cases h
          have he := Bool.eq_false_iff.mpr he
          exact .repelled hstate hfound he (repelled_of_discover hdiscover he)

/-- **A group that found a set once can route.** Whatever was asked of it and whatever its
sentinels do then, its active node is the one that it trusts, the master that it finds anew, or
the one that it knows if it finds none. Only a sentinel that is there and does not say what it is
asked makes it fail, though it knows a node: one that answers with an error reply, or that a
connector fails to connect to in a way of its own. If each attempt to ask a sentinel comes to an
end, so does the search. -/
theorem Story.routes [Transport.Lawful τ] {ops : List Operation} {heedful : Bool}
    {set : ReplicaSet} (h : Story g₀ ops ds g) (hfound : .searched heedful (.ok set) ∈ ds) :
    Routes g (current g).1 (current g).2 ∧
      (Patient (g.discovery, g.pool.network) → (current g).1 ≠ .stalled) := by
  have hknown := h.accounts.known hfound
  rcases hrun : current g with ⟨out, g'⟩
  have hroutes := routes_of_current hknown hrun
  refine ⟨hroutes, ?_⟩
  rintro hpatient rfl
  cases hroutes with
  | hangs _ hfound =>
      obtain ⟨s, hdiscover, -⟩ := onDiscovery_eq hfound
      have hends := (discover_consumes false (g.discovery, g.pool.network)).returns hpatient
      rw [hdiscover] at hends
      exact hends rfl

/-- A group after its set was found and became suspect. -/
def suspected (g : ReplicaGroup τ) : ReplicaGroup τ :=
  (Operation.markStale.perform (Operation.check.perform g).2).2

/-- The master of a service with one node. -/
def onlyMaster : Node :=
  { host := "m", port := 1, label := some "master" }

/-- The search in which that master was found. -/
def foundMaster : Deed :=
  .searched false (.ok (.ofMaster onlyMaster []))

/-- A client whose only sentinel is gone when it is asked again goes on with the master that it
knows. -/
theorem Story.routes_lonelyMaster :
    Story lonelyMaster [.check, .markStale] [foundMaster] (suspected lonelyMaster) ∧
      .searched false (.ok (.ofMaster onlyMaster [])) ∈ [foundMaster] ∧
      Routes (suspected lonelyMaster) (current (suspected lonelyMaster)).1
        (current (suspected lonelyMaster)).2 ∧
      (current (suspected lonelyMaster)).1 = .ok onlyMaster := by
  have hdeeds : Operation.check.deeds lonelyMaster = [foundMaster] := by decide +kernel
  have hstory : Story lonelyMaster [.check, .markStale] [foundMaster] (suspected lonelyMaster) := by
    rw [← hdeeds]
    exact .step (.step .start rfl) rfl
  have hfound : .searched false (.ok (.ofMaster onlyMaster [])) ∈ [foundMaster] :=
    List.mem_cons_self
  exact ⟨hstory, hfound, (hstory.routes hfound).1, by decide +kernel⟩

/-- A group whose only sentinel knows the same master at first, and answers with an error reply
when it is asked again. -/
def busySentinel : ReplicaGroup where
  discovery := { service := "s", candidates := [{ host := "a", port := 1 }] }
  pool.network.scripts :=
    [("a:1", [{ greeting := .accepts (Utf8.encode
        ("*2\r\n$1\r\nm\r\n:1\r\n*0\r\n" ++ "-ERR busy\r\n")) .closed }])]

/-- Then the client fails with that error, though it knows the master. -/
theorem current_busySentinel :
    Story busySentinel [.check, .markStale] [foundMaster] (suspected busySentinel) ∧
      (suspected busySentinel).set.current = some onlyMaster ∧
      (current (suspected busySentinel)).1 = .error (.server "ERR busy") := by
  have hdeeds : Operation.check.deeds busySentinel = [foundMaster] := by decide +kernel
  refine ⟨?_, by decide +kernel, by decide +kernel⟩
  rw [← hdeeds]
  exact .step (.step .start rfl) rfl

end ReplicaGroup

end RespClient
