import RespClient.Proofs.Replica.Events
import RespClient.Proofs.Retry.Call

/-!
# The life of a replica group

Callers check, refresh and suspect the set of a group, ask for its active node, switch to
another one and send commands, in any order. Every operation is a run of events: a switch is
at most one discovery and then at most one change of the active node, and a command is a
number of discoveries and suspicions. So the invariant of the events holds in every state
that a new group can reach, and nothing but a discovery that succeeds changes the master and
the replicas.
-/

namespace RespClient

open RespClient.Action

/-! ## Choosing a member -/

namespace ReplicaSet

variable {set set' : ReplicaSet} {node : Node}

theorem switchTo_eq_ok (h : set.switchTo node = .ok set') :
    ∃ member ∈ set.members, set' = { set with current := some member } := by
  unfold switchTo at h
  split at h
  · rename_i member hfind
    cases h
    exact ⟨member, List.mem_of_find?_eq_some hfind, rfl⟩
  · cases h

theorem mem_members_of_master (h : set.master = some node) : node ∈ set.members := by
  unfold members
  rw [h]
  exact List.mem_cons_self

theorem switchToMaster_eq_ok (h : set.switchToMaster = .ok set') :
    ∃ member ∈ set.members, set' = { set with current := some member } := by
  unfold switchToMaster at h
  split at h
  · rename_i master hmaster
    cases h
    exact ⟨master, mem_members_of_master hmaster, rfl⟩
  · cases h

/-- Whatever words are drawn, a member is chosen. -/
theorem switchToReplica_eq_ok {words words' : WordSource}
    (h : set.switchToReplica words = (.ok (set', node), words')) :
    node ∈ set.members ∧ set' = { set with current := some node } := by
  unfold switchToReplica at h
  split at h
  · split at h
    · rename_i master hmaster
      cases h
      exact ⟨mem_members_of_master hmaster, rfl⟩
    · cases h
  · rename_i first rest hreplicas
    rcases hdraw : drawBelow (rest.length + 1) words with ⟨i, drawn⟩
    rw [hdraw] at h
    cases h
    refine ⟨List.mem_append_right _ ?_, rfl⟩
    rw [hreplicas, List.getD_eq_getElem?_getD]
    rcases hget : (first :: rest)[i]? with _ | chosen
    · exact List.mem_cons_self
    · exact List.mem_of_getElem? hget

end ReplicaSet

namespace ReplicaGroup

variable {τ : Type} [Transport τ] {g g' g₁ : ReplicaGroup τ} {out : Outcome Unit} {es : List Event}
  {heedful : Bool}

/-! ## Looking for the set -/

/-- What looking for the set comes to. -/
inductive Discovers (heedful : Bool) (g : ReplicaGroup τ) :
    Outcome Unit → ReplicaGroup τ → List Event → Prop
  | found {set : ReplicaSet} {g' : ReplicaGroup τ}
      (h : onDiscovery (Discovery.discover heedful) g = (.ok set, g')) :
      Discovers heedful g (.ok ()) (g'.resolve set) [.found set]
  | missed {e : Failure} {g' : ReplicaGroup τ}
      (h : onDiscovery (Discovery.discover heedful) g = (.error e, g')) :
      Discovers heedful g (.error e) g'.markStale [.missed]
  | hung {g' : ReplicaGroup τ}
      (h : onDiscovery (Discovery.discover heedful) g = (.stalled, g')) :
      Discovers heedful g .stalled g' []

theorem refresh_discovers (h : refresh heedful g = (out, g')) :
    ∃ es, Discovers heedful g out g' es := by
  unfold refresh at h
  rcases hdiscover : onDiscovery (Discovery.discover heedful) g with ⟨found, g₁⟩
  cases found with
  | ok set =>
      rw [bind_of_ok (attempt_of_ok hdiscover)] at h
      cases h
      exact ⟨_, .found hdiscover⟩
  | error e =>
      rw [bind_of_ok (attempt_of_error hdiscover)] at h
      cases h
      exact ⟨_, .missed hdiscover⟩
  | stalled =>
      rw [bind_of_stalled (attempt_of_stalled hdiscover)] at h
      cases h
      exact ⟨_, .hung hdiscover⟩

theorem Discovers.does (h : Discovers heedful g out g' es) : Does g es g' := by
  cases h with
  | found h => exact .found h
  | missed h => exact .missed h
  | hung h => exact .hung h

/-- A search that does not succeed changes nothing but the trust in a set that was good. -/
theorem Discovers.kept (h : Discovers heedful g out g' es) (hout : out ≠ .ok ()) :
    g'.set = g.set ∧ (g'.state = g.state ∨ g.state = .resolved ∧ g'.state = .stale) := by
  cases h with
  | found => exact absurd rfl hout
  | missed h =>
      obtain ⟨s, -, rfl⟩ := onDiscovery_eq h
      unfold markStale
      split
      · rename_i hstate
        exact ⟨rfl, .inr ⟨hstate, rfl⟩⟩
      · exact ⟨rfl, .inl rfl⟩
  | hung h =>
      obtain ⟨s, -, rfl⟩ := onDiscovery_eq h
      exact ⟨rfl, .inl rfl⟩

theorem check_cases (h : check heedful g = (out, g')) :
    g.state = .resolved ∧ out = .ok () ∧ g' = g ∨
      g.state ≠ .resolved ∧ ∃ es, Discovers heedful g out g' es := by
  unfold check at h
  rw [view_bind] at h
  split at h
  · rename_i hstate
    cases h
    exact .inl ⟨hstate, rfl, rfl⟩
  · rename_i hstate
    exact .inr ⟨hstate, refresh_discovers h⟩

/-- What making sure of an active node comes to. It looks for the set at most once. -/
inductive Ensures (g : ReplicaGroup τ) : Outcome Unit → ReplicaGroup τ → List Event → Prop
  | known (hstate : g.state = .resolved) : Ensures g (.ok ()) g []
  | sought {found out : Outcome Unit} {g' : ReplicaGroup τ} {es : List Event}
      (hstate : g.state ≠ .resolved) (h : Discovers false g found g' es) :
      Ensures g out g' es

theorem ensureRoutable_ensures (h : ensureRoutable g = (out, g')) : ∃ es, Ensures g out g' es := by
  unfold ensureRoutable at h
  rcases hcheck : check false g with ⟨checked, g₁⟩
  have hafter : g' = g₁ ∧ (checked = .ok () → out = .ok ()) := by
    cases checked with
    | ok u =>
        rw [bind_of_ok (attempt_of_ok hcheck)] at h
        cases h
        exact ⟨rfl, fun _ => rfl⟩
    | stalled =>
        rw [bind_of_stalled (attempt_of_stalled hcheck)] at h
        cases h
        exact ⟨rfl, by rintro ⟨⟩⟩
    | error e =>
        rw [bind_of_ok (attempt_of_error hcheck)] at h
        refine ⟨?_, by rintro ⟨⟩⟩
        dsimp only at h
        rw [get_bind] at h
        split at h
        · cases h
          rfl
        · cases h
          rfl
  obtain ⟨rfl, hok⟩ := hafter
  rcases check_cases hcheck with ⟨hstate, hchecked, rfl⟩ | ⟨hstate, es, hdiscovers⟩
  · rw [hok hchecked]
    exact ⟨[], .known hstate⟩
  · exact ⟨es, .sought hstate hdiscovers⟩

theorem Ensures.does (h : Ensures g out g' es) : Does g es g' := by
  cases h with
  | known => exact .refl g
  | sought _ h => exact h.does

/-- The set is the one from before, unless one was found just now. -/
theorem Ensures.set (h : Ensures g out g' es) : g'.set = g.set ∨ g.state ≠ .resolved ∧
    ∃ set g₁, onDiscovery (Discovery.discover false) g = (.ok set, g₁) ∧ g'.set = set := by
  cases h with
  | known => exact .inl rfl
  | sought hstate h =>
      cases h with
      | found h => exact .inr ⟨hstate, _, _, h, rfl⟩
      | missed h => exact .inl ((Discovers.missed h).kept (by rintro ⟨⟩)).1
      | hung h => exact .inl ((Discovers.hung h).kept (by rintro ⟨⟩)).1

theorem current_ensures {node : Outcome Node} (h : current g = (node, g')) :
    ∃ out es, Ensures g out g' es := by
  rcases bind_cases h with ⟨u, g₁, hensure, h⟩ | ⟨stop, hensure, -⟩
  · obtain ⟨es, hensures⟩ := ensureRoutable_ensures hensure
    rw [get_bind] at h
    have hsame : g' = g₁ := by
      rcases hactive : g₁.set.current with _ | node
      · rw [hactive] at h
        cases h
        rfl
      · rw [hactive] at h
        cases h
        rfl
    rw [hsame]
    exact ⟨_, es, hensures⟩
  · obtain ⟨es, hensures⟩ := ensureRoutable_ensures hensure
    exact ⟨_, es, hensures⟩

/-! ## Switching -/

/-- What a switch comes to: it looks for the set at most once and draws words, and then a member
is active or all is as the search left it. -/
inductive Switches (g : ReplicaGroup τ) : Outcome Unit → ReplicaGroup τ → List Event → Prop
  | failed {ensured out : Outcome Unit} {g₁ : ReplicaGroup τ} {es : List Event}
      (words : WordSource) (h : Ensures g ensured g₁ es) (hout : out ≠ .ok ()) :
      Switches g out (Timed.setWords words g₁) es
  | done {g₁ : ReplicaGroup τ} {es : List Event} {node : Node} (words : WordSource)
      (h : Ensures g (.ok ()) g₁ es) (hnode : node ∈ g₁.set.members) :
      Switches g (.ok ())
        { Timed.setWords words g₁ with set := { g₁.set with current := some node } }
        (es ++ [.switched node])

/-- A switch makes sure of an active node first and then changes the set that is known. -/
theorem switches_of {choose : ReplicaSet → Except Failure ReplicaSet}
    (hchoose : ∀ {set set'}, choose set = .ok set' →
      ∃ member ∈ set.members, set' = { set with current := some member })
    (h : (do
      ensureRoutable
      let set ← view ReplicaGroup.set
      let set ← ofExcept (choose set)
      update fun g : ReplicaGroup τ => { g with set }) g = (out, g')) :
    ∃ es, Switches g out g' es := by
  rcases bind_cases h with ⟨u, g₁, hensure, h⟩ | ⟨stop, hensure, rfl⟩
  · obtain ⟨es, hensures⟩ := ensureRoutable_ensures hensure
    rw [view_bind] at h
    rcases hset : choose g₁.set with e | set
    · rw [hset] at h
      cases h
      exact ⟨es, .failed (Timed.words g') hensures (by rintro ⟨⟩)⟩
    · obtain ⟨member, hmember, rfl⟩ := hchoose hset
      rw [hset] at h
      cases h
      exact ⟨_, .done (Timed.words g₁) hensures hmember⟩
  · obtain ⟨es, hensures⟩ := ensureRoutable_ensures hensure
    exact ⟨es, .failed (Timed.words g') hensures stopped_ne_ok⟩

theorem switchToReplica_switches {chosen : Outcome Node} (h : switchToReplica g = (chosen, g')) :
    (∃ node es, chosen = .ok node ∧ Switches g (.ok ()) g' es) ∨
      ∃ stop es, chosen = stopped stop ∧ Switches g (stopped stop) g' es := by
  rcases bind_cases h with ⟨u, g₁, hensure, h⟩ | ⟨stop, hensure, rfl⟩
  · obtain ⟨es, hensures⟩ := ensureRoutable_ensures hensure
    rw [get_bind] at h
    rcases hset : g₁.set.switchToReplica (Timed.words g₁) with ⟨e | ⟨set, node⟩, words⟩
    · rw [hset] at h
      cases h
      exact .inr ⟨some e, es, rfl, .failed words hensures (by rintro ⟨⟩)⟩
    · obtain ⟨hnode, rfl⟩ := ReplicaSet.switchToReplica_eq_ok hset
      have hdone := Switches.done words hensures hnode
      rw [hset] at h
      cases h
      exact .inl ⟨node, _, rfl, hdone⟩
  · obtain ⟨es, hensures⟩ := ensureRoutable_ensures hensure
    exact .inr ⟨stop, es, rfl, .failed (Timed.words g') hensures stopped_ne_ok⟩

theorem Switches.does (h : Switches g out g' es) : Does g es g' := by
  cases h with
  | @failed ensured out g₁ es words h hout =>
      have hall := h.does.trans (.quiet g₁ (Timed.setWords words g₁.pool))
      rwa [List.append_nil] at hall
  | @done g₁ es node words h hnode =>
      have hall := (h.does.trans (.switched hnode)).trans
        (.quiet _ (Timed.setWords words g₁.pool))
      rwa [List.append_nil] at hall

/-- A switch that fails leaves the set as it was, or as it was found just before. -/
theorem Switches.kept (h : Switches g out g' es) (hout : out ≠ .ok ()) :
    g'.set = g.set ∨ g.state ≠ .resolved ∧
      ∃ set g₁, onDiscovery (Discovery.discover false) g = (.ok set, g₁) ∧ g'.set = set := by
  cases h with
  | failed words h => exact h.set
  | done => exact absurd rfl hout

/-! ## Sending commands -/

omit [Transport τ] in
theorem onPool_of {α : Type} {x : Action (Pool τ) α} {out : Outcome α} {p : Pool τ}
    (h : x g.pool = (out, p)) : onPool x g = (out, { g with pool := p }) :=
  within_of h

theorem executeOnce_does {c : Command} {reply : Outcome Frame}
    (h : executeOnce c g = (reply, g')) : ∃ es, Does g es g' := by
  rcases bind_cases h with ⟨node, g₁, hcurrent, h⟩ | ⟨stop, hcurrent, -⟩
  · obtain ⟨ensured, es, hensures⟩ := current_ensures hcurrent
    rcases hrequest : Pool.request node.toAddress c g₁.pool with ⟨answer, p⟩
    have hon := onPool_of hrequest
    have hasked : Does g (es ++ []) { g₁ with pool := p } := hensures.does.trans (.quiet g₁ p)
    cases answer with
    | ok reply =>
        rw [bind_of_ok (attempt_of_ok hon)] at h
        cases h
        exact ⟨_, hasked⟩
    | stalled =>
        rw [bind_of_stalled (attempt_of_stalled hon)] at h
        cases h
        exact ⟨_, hasked⟩
    | error e =>
        rw [bind_of_ok (attempt_of_error hon)] at h
        dsimp only at h
        split at h
        · cases h
          exact ⟨_, hasked.trans (.suspected _)⟩
        · cases h
          exact ⟨_, hasked⟩
  · obtain ⟨ensured, es, hensures⟩ := current_ensures hcurrent
    exact ⟨es, hensures.does⟩

/-- A command that is tried again and again is one run of events after another. -/
theorem execute_does {c : Command} {reply : Outcome Frame} (h : execute c g = (reply, g')) :
    ∃ es, Does g es g' := by
  have hcalls := RetryPolicy.callFrom_calls h
  -- only that there are events matters here, and not what they cost
  obtain ⟨-, -, hdoes⟩ := hcalls.costs (P := fun _ => True) (R := fun _ g g' => ∃ es, Does g es g')
    trivial (fun g => ⟨[], .refl g⟩)
    (fun h h' => by
      obtain ⟨es, hes⟩ := h
      obtain ⟨es', hes'⟩ := h'
      exact ⟨es ++ es', hes.trans hes'⟩)
    (fun _ htry => ⟨trivial, 0, Nat.le_refl 0, executeOnce_does htry⟩)
    (fun _ hpause => by
      obtain rfl := congrArg Prod.snd hpause
      exact ⟨trivial, [], .quiet _ _⟩)
  exact hdoes

/-! ## Operations -/

/-- What callers ask of a group. -/
inductive Operation where
  | check
  /-- The caller gives up at some moment, if ever. -/
  | checkUntil (cancelAt : Option Nat)
  | refresh
  | markStale
  | current
  | switchTo (node : Node)
  | switchToMaster
  | switchToReplica
  | execute (c : Command)

namespace Operation

/-- Does an operation. -/
def perform : Operation → Action (ReplicaGroup τ) Unit
  | .check => ReplicaGroup.check false
  | .checkUntil cancelAt => do
    update fun g => Timed.setClock { Timed.clock g with cancelAt } g
    ReplicaGroup.check true
  | .refresh => ReplicaGroup.refresh false
  | .markStale => update ReplicaGroup.markStale
  | .current => do
    let _ ← ReplicaGroup.current
    pure ()
  | .switchTo node => ReplicaGroup.switchTo node
  | .switchToMaster => ReplicaGroup.switchToMaster
  | .switchToReplica => do
    let _ ← ReplicaGroup.switchToReplica
    pure ()
  | .execute c => do
    let _ ← ReplicaGroup.execute c
    pure ()

/-- Does the operation look for the set and do nothing else? -/
def searches : Operation → Bool
  | .check | .checkUntil _ | .refresh => true
  | _ => false

/-- Does the operation switch to another active node? -/
def switches : Operation → Bool
  | .switchTo _ | .switchToMaster | .switchToReplica => true
  | _ => false

theorem switches_of_searches {op : Operation} (h : op.searches = true) : op.switches = false := by
  cases op <;> first | rfl | cases h

end Operation

/-- What an operation does to the set and the trust in it, by these events. -/
structure Performs (op : Operation) (g : ReplicaGroup τ) (out : Outcome Unit)
    (g' : ReplicaGroup τ) (es : List Event) : Prop where
  does : Does g es g'
  standing : g'.standing = es.foldl Event.after g.standing
  sound : Sound g'
  /-- Once a set was found there is one for good. -/
  lasting : g.state ≠ .unresolved ∨ (∃ set, .found set ∈ es) →
    g'.state ≠ .unresolved ∧ g'.set.master ≠ none
  /-- Only a set that is found brings another master or other replicas. -/
  pair : (∀ set, .found set ∉ es) →
    g'.set.master = g.set.master ∧ g'.set.replicas = g.set.replicas
  found : ∀ set, .found set ∈ es → ∃ master replicas, set = .ofMaster master replicas
  searched : op.searches = true → out ≠ .ok () →
    g'.set = g.set ∧ (g'.state = g.state ∨ g.state = .resolved ∧ g'.state = .stale)
  switched : op.switches = true → out ≠ .ok () → g'.set = g.set ∨ g.state ≠ .resolved ∧
    ∃ set g₁, onDiscovery (Discovery.discover false) g = (.ok set, g₁) ∧ g'.set = set

/-- An operation of a kind that is neither a search nor a switch. -/
theorem Operation.perform_other {op : Operation} (h : op.perform g = (out, g'))
    (hsearch : op.searches = false) (hswitch : op.switches = false) : ∃ es, Does g es g' := by
  cases op with
  | markStale =>
      cases h
      exact ⟨_, .suspected g⟩
  | current =>
      rcases bind_unit_eq h with ⟨node, hcurrent, -⟩ | ⟨stop, hcurrent, -⟩
      · obtain ⟨ensured, es, hensures⟩ := current_ensures hcurrent
        exact ⟨es, hensures.does⟩
      · obtain ⟨ensured, es, hensures⟩ := current_ensures hcurrent
        exact ⟨es, hensures.does⟩
  | execute c =>
      rcases bind_unit_eq h with ⟨reply, hexecute, -⟩ | ⟨stop, hexecute, -⟩
      · exact execute_does hexecute
      · exact execute_does hexecute
  | check => cases hsearch
  | checkUntil => cases hsearch
  | refresh => cases hsearch
  | switchTo => cases hswitch
  | switchToMaster => cases hswitch
  | switchToReplica => cases hswitch

theorem Operation.perform_search {op : Operation} (h : op.perform g = (out, g'))
    (hop : op.searches = true) : ∃ es, Does g es g' ∧ (out ≠ .ok () →
      g'.set = g.set ∧ (g'.state = g.state ∨ g.state = .resolved ∧ g'.state = .stale)) := by
  have hcheck : ∀ {heedful : Bool} {g : ReplicaGroup τ}, ReplicaGroup.check heedful g = (out, g') →
      ∃ es, Does g es g' ∧ (out ≠ .ok () →
        g'.set = g.set ∧ (g'.state = g.state ∨ g.state = .resolved ∧ g'.state = .stale)) := by
    intro heedful g h
    rcases check_cases h with ⟨-, rfl, rfl⟩ | ⟨-, es, hdiscovers⟩
    · exact ⟨[], .refl _, fun hout => absurd rfl hout⟩
    · exact ⟨es, hdiscovers.does, hdiscovers.kept⟩
  cases op with
  | check => exact hcheck h
  | checkUntil cancelAt =>
      obtain ⟨es, hdoes, hkept⟩ := hcheck h
      exact ⟨es, (Does.quiet g _).trans hdoes, hkept⟩
  | refresh =>
      obtain ⟨es, hdiscovers⟩ := refresh_discovers h
      exact ⟨es, hdiscovers.does, hdiscovers.kept⟩
  | markStale => cases hop
  | current => cases hop
  | switchTo => cases hop
  | switchToMaster => cases hop
  | switchToReplica => cases hop
  | execute => cases hop

theorem Operation.perform_switch {op : Operation} (h : op.perform g = (out, g'))
    (hop : op.switches = true) : ∃ es, Switches g out g' es := by
  cases op with
  | switchTo node => exact switches_of ReplicaSet.switchTo_eq_ok h
  | switchToMaster => exact switches_of ReplicaSet.switchToMaster_eq_ok h
  | switchToReplica =>
      rcases bind_unit_eq h with ⟨node, hswitch, rfl⟩ | ⟨stop, hswitch, rfl⟩
      · rcases switchToReplica_switches hswitch with ⟨-, es, -, h⟩ | ⟨stop, -, hstop, -⟩
        · exact ⟨es, h⟩
        · exact absurd hstop.symm stopped_ne_ok
      · rcases switchToReplica_switches hswitch with ⟨node, -, hnode, -⟩ | ⟨stop', es, hstop, h⟩
        · exact absurd hnode stopped_ne_ok
        · obtain rfl : stop = stop' := by cases stop <;> cases stop' <;> cases hstop <;> rfl
          exact ⟨es, h⟩
  | check => cases hop
  | checkUntil => cases hop
  | refresh => cases hop
  | markStale => cases hop
  | current => cases hop
  | execute => cases hop

theorem Operation.performs {op : Operation} (hg : Sound g) (h : op.perform g = (out, g')) :
    ∃ es, Performs op g out g' es := by
  have hall : ∃ es, Does g es g' ∧
      (op.searches = true → out ≠ .ok () →
        g'.set = g.set ∧ (g'.state = g.state ∨ g.state = .resolved ∧ g'.state = .stale)) ∧
      (op.switches = true → out ≠ .ok () → g'.set = g.set ∨ g.state ≠ .resolved ∧
        ∃ set g₁, onDiscovery (Discovery.discover false) g = (.ok set, g₁) ∧ g'.set = set) := by
    by_cases hsearch : op.searches = true
    · obtain ⟨es, hdoes, hkept⟩ := Operation.perform_search h hsearch
      refine ⟨es, hdoes, fun _ => hkept, fun hswitch => ?_⟩
      rw [Operation.switches_of_searches hsearch] at hswitch
      cases hswitch
    · by_cases hswitch : op.switches = true
      · obtain ⟨es, hswitches⟩ := Operation.perform_switch h hswitch
        exact ⟨es, hswitches.does, fun hop => absurd hop hsearch, fun _ => hswitches.kept⟩
      · obtain ⟨es, hdoes⟩ := Operation.perform_other h (Bool.eq_false_iff.mpr hsearch)
          (Bool.eq_false_iff.mpr hswitch)
        exact ⟨es, hdoes, fun hop => absurd hop hsearch, fun hop => absurd hop hswitch⟩
  obtain ⟨es, hdoes, hsearched, hswitched⟩ := hall
  have hsound := hdoes.sound hg
  refine ⟨es, hdoes, hdoes.standing, hsound, fun hset => ?_, hdoes.pair, ?_, hsearched, hswitched⟩
  · have hstate := hdoes.lasting hset
    exact ⟨hstate, fun hnone => hstate (hsound.known.mpr hnone)⟩
  · exact fun set hfound => hdoes.ofMaster_of_found hfound

/-! ## Runs -/

/-- A group that nothing was asked of yet, whatever its sentinels and its network are. -/
structure New (g : ReplicaGroup τ) : Prop where
  state : g.state = .unresolved
  set : g.set = {}

/-- Operations lead from one group to another, one after the other. -/
inductive Run (g₀ : ReplicaGroup τ) : List Operation → ReplicaGroup τ → Prop
  | start : Run g₀ [] g₀
  | step {ops : List Operation} {op : Operation} {g g' : ReplicaGroup τ} {out : Outcome Unit}
      (h : Run g₀ ops g) (hop : op.perform g = (out, g')) : Run g₀ (ops ++ [op]) g'

theorem Run.sound {ops : List Operation} (h : Run g ops g') (hg : Sound g) : Sound g' := by
  induction h with
  | start => exact hg
  | step _ hop ih =>
      obtain ⟨es, hperforms⟩ := Operation.performs ih hop
      exact hperforms.sound

theorem Run.lasting {ops : List Operation} (h : Run g ops g') (hg : Sound g)
    (hstate : g.state ≠ .unresolved) : g'.state ≠ .unresolved ∧ g'.set.master ≠ none := by
  induction h with
  | start => exact ⟨hstate, fun hnone => hstate (hg.known.mpr hnone)⟩
  | step h hop ih =>
      obtain ⟨es, hperforms⟩ := Operation.performs (h.sound hg) hop
      exact hperforms.lasting (.inl ih.1)

/-- **The life of a replica group.** In every state that a new group reaches, whatever its
sentinels and servers do and whatever words are drawn, the set is untrusted exactly as long as
it has no master, and the active node is one of its members. Each operation from there is a
run of events that keeps it so: only a discovery that succeeds changes master and replicas,
and it replaces the whole set and makes the master active; a discovery that fails costs no
more than the trust in the set; and a switch that fails leaves the set that there was, or the
one that was found just before. Once there is a set there is one for good. -/
theorem Run.lifecycle {g₀ : ReplicaGroup τ} {ops : List Operation} (hnew : New g₀)
    (h : Run g₀ ops g) :
    Sound g ∧ (∀ op : Operation, ∃ es, Performs op g (op.perform g).1 (op.perform g).2 es) ∧
      (g.state ≠ .unresolved → ∀ ops' g', Run g ops' g' →
        g'.state ≠ .unresolved ∧ g'.set.master ≠ none) := by
  have hsound₀ : Sound g₀ := by
    constructor
    · rw [hnew.state, hnew.set]
      exact ⟨fun _ => rfl, fun _ => rfl⟩
    · rw [hnew.set]
      exact fun hmaster => absurd rfl hmaster
  have hsound := h.sound hsound₀
  refine ⟨hsound, fun op => ?_, fun hstate ops' g' h' => h'.lasting hsound hstate⟩
  exact Operation.performs hsound rfl

/-- A group whose only sentinel knows a master without replicas. -/
def lonelyMaster : ReplicaGroup where
  discovery := { service := "s", candidates := [{ host := "a", port := 1 }] }
  pool.network.scripts :=
    [("a:1", [{ greeting := .accepts (Utf8.encode "*2\r\n$1\r\nm\r\n:1\r\n*0\r\n") .closed }])]

/-- A node that is no member of that group. -/
def stranger : Node :=
  { host := "x", port := 9 }

/-- A switch to a stranger fails, and yet there is a set afterwards. -/
theorem Run.lifecycle_stranger :
    New lonelyMaster ∧
      Run lonelyMaster [.switchTo stranger] ((Operation.switchTo stranger).perform lonelyMaster).2 ∧
      ((Operation.switchTo stranger).perform lonelyMaster).2.state ≠ .unresolved ∧
      ((Operation.switchTo stranger).perform lonelyMaster).2.set.master ≠ none := by
  have hnew : New lonelyMaster := ⟨rfl, rfl⟩
  have hrun : Run lonelyMaster [.switchTo stranger]
      ((Operation.switchTo stranger).perform lonelyMaster).2 := .step .start rfl
  have hstate : ((Operation.switchTo stranger).perform lonelyMaster).2.state ≠ .unresolved := by
    decide +kernel
  obtain ⟨-, -, hlasting⟩ := Run.lifecycle hnew hrun
  exact ⟨hnew, hrun, hlasting hstate [] _ .start⟩

/-- The set before that switch was empty, so a switch that fails may change the set. -/
theorem switchTo_stranger_changes :
    (switchTo stranger lonelyMaster).1 =
        .error (.invalidArgument "x:9 is not a member of the replica set") ∧
      (switchTo stranger lonelyMaster).2.set =
        .ofMaster { host := "m", port := 1, label := some "master" } [] ∧
      (switchTo stranger lonelyMaster).2.set ≠ lonelyMaster.set := by
  have hset : (switchTo stranger lonelyMaster).2.set =
      .ofMaster { host := "m", port := 1, label := some "master" } [] := by decide +kernel
  refine ⟨by decide +kernel, hset, ?_⟩
  rw [hset]
  rintro ⟨⟩

end ReplicaGroup

end RespClient
