import RespClient.Proofs.Slot.Listing

/-!
# Owners with a host

A node without a host cannot be reached. A slot map has no such owner if none was ever put in:
an assignment brings in its own node and nothing else, whatever ranges it cuts and joins. A
listing is taken at its word, so that the map that is read from it has owners without a host
exactly as the listing names them.
-/

namespace RespClient

namespace SlotRange

variable {r s u : SlotRange} {rs : List SlotRange} {a b : Nat}

theorem node_of_mem_cut (h : s ∈ cut a b r) : s.node = r.node := by
  unfold cut at h
  split at h
  · rw [List.mem_singleton.mp h]
  · rcases List.mem_append.mp h with h | h
    · split at h
      · rw [List.mem_singleton.mp h]
      · cases h
    · split at h
      · rw [List.mem_singleton.mp h]
      · cases h

theorem node_of_mem_attach (h : u ∈ r.attach rs) : u.node = r.node ∨ u ∈ rs := by
  cases rs with
  | nil => exact .inl (congrArg SlotRange.node (List.mem_singleton.mp h))
  | cons s rest =>
      rw [attach] at h
      split at h
      · rcases List.mem_cons.mp h with rfl | h
        · exact .inl rfl
        · exact .inr (List.mem_cons_of_mem s h)
      · exact (List.mem_cons.mp h).imp_left (congrArg SlotRange.node)

/-- A range that is put in its place brings in its own node alone. -/
theorem node_of_mem_place (h : u ∈ r.place rs) :
    u.node = r.node ∨ ∃ s ∈ rs, u.node = s.node := by
  have hbehind : ∀ {u}, u ∈ r.attach (rs.dropWhile (·.first < r.first)) →
      u.node = r.node ∨ ∃ s ∈ rs, u.node = s.node := by
    intro u h
    refine (node_of_mem_attach h).imp_right fun h => ⟨u, ?_, rfl⟩
    exact (List.dropWhile_suffix _).subset h
  unfold place at h
  dsimp only at h
  split at h
  · rename_i s hlast
    have hbefore : ∀ {v}, v ∈ rs.takeWhile (·.first < r.first) → v ∈ rs :=
      fun hv => (List.takeWhile_prefix _).subset hv
    rcases List.mem_append.mp h with h | h
    · exact .inr ⟨u, hbefore (List.dropLast_subset _ h), rfl⟩
    · rcases node_of_mem_attach h with hnode | h
      · exact .inr ⟨s, hbefore (List.mem_of_getLast? hlast), hnode⟩
      · exact hbehind h
  · exact hbehind h

end SlotRange

namespace SlotMap

/-- Every owner has a host. -/
def Hosted (m : SlotMap) : Prop :=
  ∀ range ∈ m.ranges, range.node.host ≠ ""

/-- Every master that the listing names has a host. -/
def ListsHosts (frame : Frame) : Prop :=
  ∀ entries, IsListing frame entries → ∀ entry ∈ entries, entry.owner.host ≠ ""

variable {m m' : SlotMap} {a b slot : Nat} {node : Node} {frame : Frame} {frames : List Frame}
  {entries : List ListingEntry}

theorem hosted_empty : empty.Hosted := fun _ h => absurd h List.not_mem_nil

theorem Hosted.lookup (h : m.Hosted) (hlookup : m.lookup slot = some node) : node.host ≠ "" := by
  unfold SlotMap.lookup at hlookup
  split at hlookup
  · rename_i range hlast
    split at hlookup
    · cases hlookup
      exact h range ((List.takeWhile_prefix _).subset (List.mem_of_getLast? hlast))
    · cases hlookup
  · cases hlookup

theorem Hosted.assign (h : m.Hosted) (hnode : node.host ≠ "") (hok : m.assign a b node = .ok m') :
    m'.Hosted := by
  obtain ⟨-, rfl⟩ := assign_eq_ok.mp hok
  intro range hrange
  rcases SlotRange.node_of_mem_place hrange with heq | ⟨piece, hpiece, heq⟩
  · rw [heq]
    exact hnode
  · obtain ⟨whole, hwhole, hcut⟩ := List.mem_flatMap.mp hpiece
    rw [heq, SlotRange.node_of_mem_cut hcut]
    exact h whole hwhole

/-- Entries bring in the masters that they name. -/
theorem Hosted.addEntries (h : m.Hosted) (hlists : List.Forall₂ Lists frames entries)
    (hentries : ∀ entry ∈ entries, entry.owner.host ≠ "") (hok : m.addEntries frames = .ok m') :
    m'.Hosted := by
  induction hlists generalizing m with
  | nil =>
      cases hok
      exact h
  | @cons frame entry frames entries hentry _ ih =>
      obtain ⟨hfirst, hrest⟩ := List.forall_mem_cons.mp hentries
      obtain ⟨node, m₁, hnode, hadd, hassign⟩ := hentry.addEntry m
      rw [SlotMap.addEntries, hadd] at hok
      exact ih (h.assign (hnode ▸ hfirst) hassign) hrest hok

/-- The map that is read from a listing has the owners that the listing names. -/
theorem ListsHosts.hosted (h : ListsHosts frame) (hok : readListing frame = .ok m) : m.Hosted := by
  unfold readListing at hok
  split at hok
  · obtain ⟨entries, hlists⟩ := exists_lists_of_addEntries hok
    exact hosted_empty.addEntries hlists (h entries (.array hlists)) hok
  · cases hok

/-! ## Telling it from the frame -/

/-- The host that an entry gives its master. -/
def masterHost? : Frame → Option String
  | .array (_ :: _ :: .array (host :: _) :: _) => host.asText
  | _ => none

/-- The hosts that a listing gives its masters. -/
def masterHosts : Frame → List String
  | .array frames => frames.filterMap masterHost?
  | _ => []

theorem masterHosts_of_isListing (h : IsListing frame entries) :
    masterHosts frame = entries.map (·.owner.host) := by
  obtain ⟨hlists⟩ := h
  rw [masterHosts]
  induction hlists with
  | nil => rfl
  | @cons frame entry frames entries hentry _ ih =>
      have hhost : masterHost? frame = some entry.owner.host := by
        obtain ⟨more, -, -, -, ⟨-, hhost, -⟩⟩ := hentry
        exact Frame.asText_eq_some.mpr hhost
      rw [List.filterMap_cons_some hhost, ih, List.map_cons]

theorem listsHosts_iff :
    ListsHosts frame ↔ ((readListing frame).isOk = true → ∀ host ∈ masterHosts frame, host ≠ "") := by
  constructor
  · intro h hok
    rcases hread : readListing frame with fault | m
    · rw [hread] at hok
      cases hok
    obtain ⟨entries, hentries⟩ := (ofListing_exact frame "").1.mp ⟨m, ofListing_eq_ok.mpr hread⟩
    rw [masterHosts_of_isListing hentries]
    intro host hhost
    obtain ⟨entry, hentry, rfl⟩ := List.mem_map.mp hhost
    exact h entries hentries entry hentry
  · intro h entries hentries entry hentry
    obtain ⟨m, hread, -⟩ := hentries.readListing
    refine h (by rw [hread]; rfl) _ ?_
    rw [masterHosts_of_isListing hentries]
    exact List.mem_map_of_mem hentry

instance : DecidablePred ListsHosts := fun _ => decidable_of_iff _ listsHosts_iff.symm

end SlotMap

end RespClient
