import RespClient.Proofs.Replica.Search
import RespClient.Replica.Group

/-!
# What happens to a replica set

Whatever a client of a service does, only four things happen to the set that it knows and to
its trust in it: a discovery finds a set, a discovery finds none, the set is suspected to be
out of date, or a member is made the active node. Each is a function of the set and the trust
alone, so a run leaves the set where the fold of its events does. No event takes a set away.
-/

namespace RespClient

namespace ReplicaGroup

open RespClient.Action

/-- What happens to a replica set. -/
inductive Event where
  | found (set : ReplicaSet)
  | missed
  | suspected
  | switched (node : Node)

/-- The set and the trust in it after an event. -/
def Event.after : ReplicaSet × GroupState → Event → ReplicaSet × GroupState
  | _, .found set => (set, .resolved)
  | (set, state), .missed => (set, if state = .resolved then .stale else state)
  | (set, state), .suspected => (set, if state = .resolved then .stale else state)
  | (set, state), .switched node => ({ set with current := some node }, state)

variable {τ α : Type} {g g' : ReplicaGroup τ} {es : List Event}

/-- The set that a client knows, and its trust in it. -/
def standing (g : ReplicaGroup τ) : ReplicaSet × GroupState :=
  (g.set, g.state)

/-- The trust in a set fits the set, and the active node is one of its members. -/
structure Sound (g : ReplicaGroup τ) : Prop where
  known : g.state = .unresolved ↔ g.set.master = none
  active : g.set.master ≠ none → ∃ node ∈ g.set.members, g.set.current = some node

theorem Sound.of_eq (hg : Sound g) (hset : g'.set = g.set) (hstate : g'.state = g.state) :
    Sound g' := by
  constructor
  · rw [hset, hstate]
    exact hg.known
  · rw [hset]
    exact hg.active

theorem Sound.markStale (hg : Sound g) : Sound g.markStale := by
  unfold ReplicaGroup.markStale
  split
  · rename_i hstate
    have hmaster : g.set.master ≠ none := by
      intro hnone
      rw [hg.known.mpr hnone] at hstate
      cases hstate
    exact ⟨⟨by rintro ⟨⟩, fun hnone => absurd hnone hmaster⟩, hg.active⟩
  · exact hg

/-- A set with a master that is active is sound once it is trusted. -/
theorem Sound.resolve (master : Node) (replicas : List Node) (g : ReplicaGroup τ) :
    Sound (g.resolve (.ofMaster master replicas)) := by
  constructor
  · constructor
    · rintro ⟨⟩
    · rintro ⟨⟩
  · intro _
    exact ⟨master, List.mem_cons_self, rfl⟩

theorem Sound.switch {node : Node} (hg : Sound g) (hnode : node ∈ g.set.members) :
    Sound { g with set := { g.set with current := some node } } :=
  ⟨hg.known, fun _ => ⟨node, hnode, rfl⟩⟩

theorem onDiscovery_eq {x : Action (Discovery × Network τ) α} {out : Outcome α}
    (h : onDiscovery x g = (out, g')) :
    ∃ s, x (g.discovery, g.pool.network) = (out, s) ∧
      g' = { g with discovery := s.1, pool := { g.pool with network := s.2 } } :=
  within_eq h

theorem standing_onDiscovery {x : Action (Discovery × Network τ) α} {out : Outcome α}
    (h : onDiscovery x g = (out, g')) : g'.standing = g.standing := by
  obtain ⟨s, -, rfl⟩ := onDiscovery_eq h
  rfl

theorem standing_markStale (g : ReplicaGroup τ) :
    g.markStale.standing = (g.set, if g.state = .resolved then .stale else g.state) := by
  unfold markStale
  split
  · rfl
  · rfl

theorem set_markStale (g : ReplicaGroup τ) : g.markStale.set = g.set :=
  congrArg Prod.fst g.standing_markStale

theorem state_markStale (hg : g.state ≠ .unresolved) : g.markStale.state ≠ .unresolved := by
  unfold markStale
  split
  · rintro ⟨⟩
  · exact hg

variable [Transport τ]

/-- Events lead from one group to another. In between the client may use its pool, wait and
draw words. -/
inductive Does : ReplicaGroup τ → List Event → ReplicaGroup τ → Prop
  | quiet (g : ReplicaGroup τ) (pool : Pool τ) : Does g [] { g with pool }
  | found {heedful : Bool} {g g' : ReplicaGroup τ} {set : ReplicaSet}
      (h : onDiscovery (Discovery.discover heedful) g = (.ok set, g')) :
      Does g [.found set] (g'.resolve set)
  | missed {heedful : Bool} {g g' : ReplicaGroup τ} {e : Failure}
      (h : onDiscovery (Discovery.discover heedful) g = (.error e, g')) :
      Does g [.missed] g'.markStale
  /-- A discovery that never ends changes nothing that is known. -/
  | hung {heedful : Bool} {g g' : ReplicaGroup τ}
      (h : onDiscovery (Discovery.discover heedful) g = (.stalled, g')) : Does g [] g'
  | suspected (g : ReplicaGroup τ) : Does g [.suspected] g.markStale
  | switched {g : ReplicaGroup τ} {node : Node} (hnode : node ∈ g.set.members) :
      Does g [.switched node] { g with set := { g.set with current := some node } }
  | trans {g g' g'' : ReplicaGroup τ} {es es' : List Event} (h : Does g es g')
      (h' : Does g' es' g'') : Does g (es ++ es') g''

namespace Does

theorem refl (g : ReplicaGroup τ) : Does g [] g :=
  .quiet g g.pool

/-- What is known afterwards is the fold of the events. -/
theorem standing (h : Does g es g') : g'.standing = es.foldl Event.after g.standing := by
  induction h with
  | quiet => rfl
  | found => rfl
  | missed h =>
      rw [standing_markStale]
      have hsame := standing_onDiscovery h
      injection hsame with hset hstate
      rw [hset, hstate]
      rfl
  | hung h => exact standing_onDiscovery h
  | suspected g => exact standing_markStale g
  | switched => rfl
  | trans _ _ ih ih' => rw [List.foldl_append, ← ih, ih']

theorem ofMaster_of_found {set : ReplicaSet} (h : Does g es g') (hfound : .found set ∈ es) :
    ∃ master replicas, set = .ofMaster master replicas := by
  induction h with
  | found h =>
      obtain rfl : set = _ := by simpa using hfound
      obtain ⟨s, hdiscover, -⟩ := onDiscovery_eq h
      exact Discovery.ofMaster_of_discover hdiscover
  | trans _ _ ih ih' =>
      rcases List.mem_append.mp hfound with hfound | hfound
      · exact ih hfound
      · exact ih' hfound
  | quiet => cases hfound
  | hung => cases hfound
  | missed => simp at hfound
  | suspected => simp at hfound
  | switched => simp at hfound

/-- Every event keeps the trust and the active node in accord with the set. -/
theorem sound (h : Does g es g') (hg : Sound g) : Sound g' := by
  induction h with
  | quiet => exact hg.of_eq rfl rfl
  | found h =>
      obtain ⟨s, hdiscover, -⟩ := onDiscovery_eq h
      obtain ⟨master, replicas, rfl⟩ := Discovery.ofMaster_of_discover hdiscover
      exact .resolve master replicas _
  | missed h =>
      obtain ⟨s, -, rfl⟩ := onDiscovery_eq h
      apply Sound.markStale
      exact hg.of_eq rfl rfl
  | hung h =>
      obtain ⟨s, -, rfl⟩ := onDiscovery_eq h
      exact hg.of_eq rfl rfl
  | suspected => exact hg.markStale
  | switched hnode => exact hg.switch hnode
  | trans _ _ ih ih' => exact ih' (ih hg)

/-- Once a set was found there is always one. -/
theorem lasting (h : Does g es g') (hg : g.state ≠ .unresolved ∨ ∃ set, .found set ∈ es) :
    g'.state ≠ .unresolved := by
  induction h with
  | found => rintro ⟨⟩
  | quiet => simpa using hg
  | hung h =>
      obtain ⟨s, -, rfl⟩ := onDiscovery_eq h
      simpa using hg
  | missed h =>
      obtain ⟨s, -, rfl⟩ := onDiscovery_eq h
      apply state_markStale
      simpa using hg
  | suspected =>
      apply state_markStale
      simpa using hg
  | switched => simpa using hg
  | trans _ _ ih ih' =>
      rcases hg with hstate | ⟨set, hfound⟩
      · exact ih' (.inl (ih (.inl hstate)))
      · rcases List.mem_append.mp hfound with hfound | hfound
        · exact ih' (.inl (ih (.inr ⟨set, hfound⟩)))
        · exact ih' (.inr ⟨set, hfound⟩)

/-- Without a discovery that finds a set the master and the replicas are the same. -/
theorem pair (h : Does g es g') (hnone : ∀ set, .found set ∉ es) :
    g'.set.master = g.set.master ∧ g'.set.replicas = g.set.replicas := by
  induction h with
  | found => exact absurd List.mem_cons_self (hnone _)
  | quiet => exact ⟨rfl, rfl⟩
  | hung h =>
      obtain ⟨s, -, rfl⟩ := onDiscovery_eq h
      exact ⟨rfl, rfl⟩
  | missed h =>
      obtain ⟨s, -, rfl⟩ := onDiscovery_eq h
      rw [set_markStale]
      exact ⟨rfl, rfl⟩
  | suspected g =>
      rw [set_markStale]
      exact ⟨rfl, rfl⟩
  | switched => exact ⟨rfl, rfl⟩
  | trans _ _ ih ih' =>
      have hfirst := ih fun set hset => hnone set (List.mem_append_left _ hset)
      have hsecond := ih' fun set hset => hnone set (List.mem_append_right _ hset)
      exact ⟨hsecond.1.trans hfirst.1, hsecond.2.trans hfirst.2⟩

end Does

end ReplicaGroup

end RespClient
