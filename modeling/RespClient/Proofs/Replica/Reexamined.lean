import RespClient.Proofs.Replica.Record

/-!
# A node that failed is examined again

A command that finds its node out of reach costs the group its trust in the set, and only a
search that succeeds restores it. So before the next command, whether it is another try or
another call, there is a search. If nobody switches in between, the next command goes to the
master that was found last since the failure, or again to the node that failed if none was.

The invariant looks back from the end of the story: as long as no command was sent since such a
failure, a trusted set comes from a search since then, and the active node is the one to which
the next command should go. The deeds of the story account for all that the group did, so there
is no command between those that it tells of.
-/

namespace RespClient

namespace ReplicaGroup

open RespClient.Action

/-! ## Looking back -/

/-- Is it a command? -/
def Deed.isCommand : Deed → Bool
  | .asked _ _ _ => true
  | _ => false

/-- The last command found nobody at this node, and these are the deeds since. -/
structure LastFailed (ds : List Deed) (node : Node) (since : List Deed) : Prop where
  failed : ∃ before c e, ds = before ++ .asked node c (.error e) :: since ∧ e.isUnreachable = true
  last : ∀ d ∈ since, d.isCommand = false

/-- Is it a search that nobody cut short? -/
def Deed.IsSearch : Deed → Prop
  | .searched heedful found => heedful = false ∨ ∃ set, found = .ok set
  | _ => False

/-- The master that a search found. -/
def Deed.found? : Deed → Option Node
  | .searched _ (.ok set) => set.master
  | _ => none

/-- The master that was found last, or else this node. -/
def lastFound (node : Node) (since : List Deed) : Node :=
  (since.filterMap Deed.found?).getLast?.getD node

variable {ds since : List Deed} {d : Deed} {node : Node}

theorem lastFound_of_found {master : Node} (hd : d.found? = some master) :
    lastFound node (since ++ [d]) = master := by
  rw [lastFound, List.filterMap_append, List.filterMap_cons_some hd, List.filterMap_nil,
    List.getLast?_concat]
  rfl

theorem lastFound_of_none (hd : d.found? = none) :
    lastFound node (since ++ [d]) = lastFound node since := by
  rw [lastFound, List.filterMap_append, List.filterMap_cons_none hd, List.filterMap_nil,
    List.append_nil, lastFound]

/-- An element of a list with something behind it is an element of the list or what is behind. -/
theorem split_of_append_singleton {α : Type} {as front back : List α} {a b : α}
    (h : as ++ [b] = front ++ a :: back) :
    front = as ∧ a = b ∧ back = [] ∨ ∃ rest, as = front ++ a :: rest ∧ back = rest ++ [b] := by
  rcases List.eq_nil_or_concat back with rfl | ⟨rest, c, rfl⟩
  · obtain ⟨hfront, hlast⟩ := List.append_inj' h rfl
    cases hlast
    exact .inl ⟨hfront.symm, rfl, rfl⟩
  · rw [List.concat_eq_append] at h ⊢
    rw [← List.cons_append, ← List.append_assoc] at h
    obtain ⟨hrest, hlast⟩ := List.append_inj' h rfl
    cases hlast
    exact .inr ⟨rest, hrest, rfl⟩

/-- Deeds other than commands come after the last failure. -/
theorem LastFailed.of_append (h : LastFailed (ds ++ [d]) node since) (hd : d.isCommand = false) :
    ∃ since', since = since' ++ [d] ∧ LastFailed ds node since' := by
  obtain ⟨⟨before, c, e, hds, he⟩, hlast⟩ := h
  rcases split_of_append_singleton hds with ⟨-, rfl, -⟩ | ⟨rest, hrest, rfl⟩
  · cases hd
  · refine ⟨rest, rfl, ⟨before, c, e, hrest, he⟩, fun d' hmem => ?_⟩
    exact hlast d' (List.mem_append_left _ hmem)

/-- A command is the last one itself. -/
theorem LastFailed.of_asked {asked : Node} {c : Command} {fate : Outcome Unit}
    (h : LastFailed (ds ++ [.asked asked c fate]) node since) :
    since = [] ∧ node = asked ∧ ∃ e, fate = .error e ∧ e.isUnreachable = true := by
  obtain ⟨⟨before, c', e, hds, he⟩, hlast⟩ := h
  rcases split_of_append_singleton hds with ⟨-, hasked, rfl⟩ | ⟨rest, -, rfl⟩
  · cases hasked
    exact ⟨rfl, rfl, e, rfl, he⟩
  · cases hlast _ (List.mem_append_right _ List.mem_cons_self)

/-! ## What deeds keep -/

/-- Is there a search since the last failure, if no command was sent since? -/
def Examined (ds : List Deed) : Prop :=
  ∀ node since, LastFailed ds node since → ∃ d ∈ since, d.IsSearch

theorem Examined.of_search (hd : d.IsSearch) (hother : d.isCommand = false) :
    Examined (ds ++ [d]) := by
  intro node since h
  obtain ⟨since', rfl, -⟩ := h.of_append hother
  exact ⟨d, List.mem_append_right _ List.mem_cons_self, hd⟩

theorem Examined.append (h : Examined ds) (hother : d.isCommand = false) :
    Examined (ds ++ [d]) := by
  intro node since hlast
  obtain ⟨since', rfl, hlast'⟩ := hlast.of_append hother
  obtain ⟨search, hmem, hsearch⟩ := h node since' hlast'
  exact ⟨search, List.mem_append_left _ hmem, hsearch⟩

/-- May the next command go to this node? -/
def Ready (ds : List Deed) (next : Node) : Prop :=
  ∀ node since, LastFailed ds node since →
    (∃ d ∈ since, d.IsSearch) ∧ (.switched ∉ since → next = lastFound node since)

/-- Every command of a story goes where it may go. -/
def Reexamined (ds : List Deed) : Prop :=
  ∀ front node c fate back, ds = front ++ .asked node c fate :: back → Ready front node

theorem Reexamined.append (h : Reexamined ds)
    (hd : ∀ node c fate, d = .asked node c fate → Ready ds node) : Reexamined (ds ++ [d]) := by
  intro front node c fate back hds
  rcases split_of_append_singleton hds with ⟨rfl, rfl, -⟩ | ⟨rest, hrest, -⟩
  · exact hd node c fate rfl
  · exact h front node c fate rest hrest

variable {τ : Type} {g g' : ReplicaGroup τ}

theorem untrusted_markStale (g : ReplicaGroup τ) : g.markStale.state ≠ .resolved := by
  unfold markStale
  split
  · rintro ⟨⟩
  · assumption

/-- As long as no command was sent since the last failure, a trusted set was searched for since
then, and the active node is the one for the next command. -/
structure Watched (ds : List Deed) (g : ReplicaGroup τ) : Prop where
  reexamined : Reexamined ds
  trusted : g.state = .resolved → Examined ds
  active : ∀ node since, LastFailed ds node since → .switched ∉ since →
    g.set.current = some (lastFound node since)

namespace Watched

theorem nil (g : ReplicaGroup τ) : Watched [] g := by
  have hnone : ∀ node since, ¬LastFailed [] node since := by
    rintro node since ⟨⟨before, c, e, hds, -⟩, -⟩
    exact List.append_ne_nil_of_right_ne_nil before (List.cons_ne_nil _ _) hds.symm
  constructor
  · intro front node c fate back hds
    exact absurd hds.symm (List.append_ne_nil_of_right_ne_nil front (List.cons_ne_nil _ _))
  · exact fun _ node since h => absurd h (hnone node since)
  · exact fun node since h => absurd h (hnone node since)

theorem quietly (h : Watched ds g) (hset : g'.set = g.set)
    (hstate : g'.state = .resolved → g.state = .resolved) : Watched ds g' := by
  refine ⟨h.reexamined, fun htrust => h.trusted (hstate htrust), ?_⟩
  rw [hset]
  exact h.active

variable [Transport τ] {heedful : Bool} {found : Outcome ReplicaSet}

/-- A search makes its master the active node, or leaves everything as it is. -/
theorem searched (h : Watched ds g)
    (hfound : onDiscovery (Discovery.discover heedful) g = (found, g')) :
    Watched (ds ++ [.searched heedful found]) (settle found g') := by
  obtain ⟨s, hdiscover, rfl⟩ := onDiscovery_eq hfound
  refine ⟨h.reexamined.append (by rintro node c fate ⟨⟩), ?_, ?_⟩
  · intro htrust
    cases found with
    | ok set => exact .of_search (.inr ⟨set, rfl⟩) rfl
    | error e => exact absurd htrust (untrusted_markStale _)
    | stalled =>
        -- the search never came back, and the set is trusted as it was before
        exact (h.trusted htrust).append rfl
  · intro node since hlast hswitched
    obtain ⟨since', rfl, hlast'⟩ := hlast.of_append rfl
    have hactive := h.active node since' hlast' fun hmem =>
      hswitched (List.mem_append_left _ hmem)
    cases found with
    | ok set =>
        obtain ⟨master, replicas, rfl⟩ := Discovery.ofMaster_of_discover hdiscover
        have hmaster : (Deed.searched heedful (.ok (.ofMaster master replicas))).found? =
            some master := rfl
        rw [lastFound_of_found hmaster]
        rfl
    | error e =>
        have hnone : (Deed.searched heedful (.error e)).found? = none := rfl
        rw [lastFound_of_none hnone, settle, set_markStale]
        exact hactive
    | stalled =>
        have hnone : (Deed.searched heedful .stalled).found? = none := rfl
        rw [lastFound_of_none hnone]
        exact hactive

omit [Transport τ] in
theorem switched (h : Watched ds g) (set : ReplicaSet) :
    Watched (ds ++ [.switched]) { g with set } := by
  refine ⟨h.reexamined.append (by rintro node c fate ⟨⟩), ?_, ?_⟩
  · exact fun htrust => (h.trusted htrust).append rfl
  · intro node since hlast hswitched
    obtain ⟨since', rfl, -⟩ := hlast.of_append rfl
    exact absurd (List.mem_append_right _ List.mem_cons_self) hswitched

omit [Transport τ] in
/-- A command that finds nobody costs the trust in the set and leaves the active node. -/
theorem asked {asked : Node} {c : Command} {fate : Outcome Unit} (pool : Pool τ)
    (h : Watched ds g) (hexamined : Examined ds) (hcurrent : g.set.current = some asked) :
    Watched (ds ++ [.asked asked c fate]) (heed fate { g with pool }) := by
  have hready : Ready ds asked := by
    intro node since hlast
    refine ⟨hexamined node since hlast, fun hswitched => ?_⟩
    exact Option.some.inj (hcurrent.symm.trans (h.active node since hlast hswitched))
  refine ⟨h.reexamined.append ?_, fun htrust node since hlast => ?_, ?_⟩
  · rintro node c' fate' ⟨⟩
    exact hready
  · -- the last failure is that of this very command, after which nothing is trusted
    obtain ⟨rfl, rfl, e, rfl, he⟩ := hlast.of_asked
    rw [heed, if_pos he] at htrust
    exact absurd htrust (untrusted_markStale _)
  · rintro node since hlast -
    obtain ⟨rfl, rfl, e, rfl, he⟩ := hlast.of_asked
    rw [heed, if_pos he, set_markStale]
    exact hcurrent

omit [Transport τ] in
/-- A node that was looked for is examined. -/
theorem examined (h : Watched ds g) (hlooked : Looked ds g) : Examined ds := by
  rcases hlooked with hstate | ⟨before, found, rfl⟩
  · exact h.trusted hstate
  · exact .of_search (.inl rfl) rfl

end Watched

/-- What each deed keeps, all deeds keep. -/
theorem Accounts.watched [Transport τ] {g₀ : ReplicaGroup τ} (h : Accounts g₀ ds g) :
    Watched ds g := by
  induction h with
  | start => exact .nil g₀
  | waited clock words _ ih => exact ih.quietly rfl id
  | @suspected _ g _ ih =>
      exact ih.quietly g.set_markStale fun htrust => absurd htrust (untrusted_markStale g)
  | searched _ hfound ih => exact ih.searched hfound
  | switched _ _ ih => exact ih.switched _
  | asked _ hlooked hactive _ ih => exact ih.asked _ (ih.examined hlooked) hactive

/-- **A node that failed is examined again before it is used again.** Whatever is asked of a
group, however often its commands are tried again and whatever its sentinels and servers do:
if a command finds nobody at its node, the sentinels are searched before the next command. If
no switch happens in between, that command goes to the master that was found last since the
failure, and to the node that failed if none was. The deeds account for all that the group did,
and its record of what it dialled and sent falls into parts, one for each deed. -/
theorem Story.reexamined [Transport τ] {g₀ : ReplicaGroup τ} {ops : List Operation}
    {front back : List Deed} {next : Node} {c : Command} {fate : Outcome Unit}
    (h : Story g₀ ops (front ++ .asked next c fate :: back) g)
    (hfailed : LastFailed front node since) :
    Accounts g₀ (front ++ .asked next c fate :: back) g ∧
      Recorded g₀ (front ++ .asked next c fate :: back) g ∧
      (∃ d ∈ since, d.IsSearch) ∧ (.switched ∉ since → next = lastFound node since) := by
  have hwatched := h.accounts.watched
  refine ⟨h.accounts, h.accounts.recorded, ?_⟩
  exact hwatched.reexamined front next c fate back rfl node since hfailed

/-- A group whose sentinel knows another master when it is asked again. The first master is not
there, and a command that fails is tried once more. -/
def failingOver : ReplicaGroup where
  discovery := { service := "s", candidates := [{ host := "a", port := 1 }] }
  retry := { backoff := .none, maxRetries := 1 }
  pool.network.scripts :=
    [("a:1", [{ greeting := .accepts (Utf8.encode
        ("*2\r\n$1\r\nm\r\n:1\r\n*0\r\n" ++ "*2\r\n$1\r\nn\r\n:2\r\n*0\r\n")) .closed }]),
      ("n:2", [{ greeting := .accepts (Utf8.encode "+PONG\r\n") .closed }])]

/-- Its first master. -/
def formerMaster : Node :=
  { host := "m", port := 1, label := some "master" }

/-- Its second master. -/
def latterMaster : Node :=
  { host := "n", port := 2, label := some "master" }

/-- What this group does until it has failed to reach its first master and found the second. -/
def untilFound : List Deed :=
  [.searched false (.ok (.ofMaster formerMaster [])),
    .asked formerMaster .ping (.error (.connection "m:1" "connection refused")),
    .searched false (.ok (.ofMaster latterMaster []))]

/-- One command goes to the first master and then to the second. -/
theorem Story.reexamined_failingOver :
    Story failingOver [.execute .ping] (untilFound ++ .asked latterMaster .ping (.ok ()) :: [])
        ((Operation.execute .ping).perform failingOver).2 ∧
      LastFailed untilFound formerMaster [.searched false (.ok (.ofMaster latterMaster []))] ∧
      Recorded failingOver (untilFound ++ .asked latterMaster .ping (.ok ()) :: [])
        ((Operation.execute .ping).perform failingOver).2 ∧
      latterMaster =
        lastFound formerMaster [.searched false (.ok (.ofMaster latterMaster []))] := by
  have hdeeds : (Operation.execute .ping).deeds failingOver =
      untilFound ++ .asked latterMaster .ping (.ok ()) :: [] := by decide +kernel
  have hstory : Story failingOver [.execute .ping]
      (untilFound ++ .asked latterMaster .ping (.ok ()) :: [])
      ((Operation.execute .ping).perform failingOver).2 := by
    rw [← hdeeds]
    exact .step .start rfl
  have hfailed : LastFailed untilFound formerMaster
      [.searched false (.ok (.ofMaster latterMaster []))] := by
    refine ⟨⟨[.searched false (.ok (.ofMaster formerMaster []))], .ping, _, rfl, rfl⟩, ?_⟩
    intro d hmem
    rw [List.mem_singleton.mp hmem]
    rfl
  obtain ⟨-, hrecorded, -, hnext⟩ := hstory.reexamined hfailed
  exact ⟨hstory, hfailed, hrecorded, hnext (by decide)⟩

end ReplicaGroup

end RespClient
