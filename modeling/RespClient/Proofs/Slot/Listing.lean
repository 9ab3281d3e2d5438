import RespClient.Proofs.Slot.NormalForm
import RespClient.Proofs.Frame.Text

/-!
# Which frames are slot listings

A frame is a slot listing if it is an array of entries, each of which names a range of slots
and a master with a host and a port; whatever stands behind them is not looked at. Exactly
these frames are read, and the map that is read holds what the entries say, where the last
entry that covers a slot decides. One entry of another shape spoils the whole listing.
-/

namespace RespClient

/-- What an entry of a listing says: some slots belong to an address. -/
structure ListingEntry where
  first : Nat
  last : Nat
  owner : Address

/-- Is the slot among those of the entry? -/
def ListingEntry.Covers (entry : ListingEntry) (slot : Nat) : Prop :=
  entry.first ≤ slot ∧ slot ≤ entry.last

instance (entry : ListingEntry) (slot : Nat) : Decidable (entry.Covers slot) :=
  inferInstanceAs (Decidable (_ ∧ _))

namespace SlotMap

/-- The frame is an array that begins with a host and a port. -/
inductive Names : Frame → Address → Prop
  | node {host : Frame} {name : String} {port : Int64} (more : List Frame)
      (hhost : host.Says name) (hport : 0 ≤ port.toInt ∧ port.toInt ≤ 65535) :
      Names (.array (host :: .integer port :: more)) ⟨name, UInt16.ofNat port.toInt.toNat⟩

/-- The frame is an array that begins with a first slot, a last slot and a master. -/
inductive Lists : Frame → ListingEntry → Prop
  | entry {start stop : Int64} {master : Frame} {owner : Address} (more : List Frame)
      (hstart : 0 ≤ start.toInt) (horder : start.toInt ≤ stop.toInt)
      (hstop : stop.toInt ≤ Slot.last) (hmaster : Names master owner) :
      Lists (.array (.integer start :: .integer stop :: master :: more))
        ⟨start.toInt.toNat, stop.toInt.toNat, owner⟩

/-- The frame is a listing of the entries. -/
inductive IsListing : Frame → List ListingEntry → Prop
  | array {frames : List Frame} {entries : List ListingEntry}
      (h : List.Forall₂ Lists frames entries) : IsListing (.array frames) entries

/-- The owner of a slot according to the last entry that covers it. -/
def lastOwner (entries : List ListingEntry) (slot : Nat) : Option Address :=
  (entries.filter fun entry => entry.Covers slot).getLast?.map ListingEntry.owner

variable {m m' : SlotMap} {frame : Frame} {frames : List Frame} {entry : ListingEntry}
  {entries : List ListingEntry} {slot a b : Nat} {node : Node} {owner : Address}

/-! ## The parts of an entry -/

theorem readSlot?_eq_some :
    readSlot? frame = some a ↔
      ∃ n : Int64, frame = .integer n ∧ (0 ≤ n.toInt ∧ n.toInt ≤ Slot.last) ∧
        n.toInt.toNat = a := by
  cases frame <;> simp [readSlot?, Frame.asInt, and_assoc]

theorem readPort?_eq_some {port : UInt16} :
    readPort? frame = some port ↔
      ∃ n : Int64, frame = .integer n ∧ (0 ≤ n.toInt ∧ n.toInt ≤ 65535) ∧
        UInt16.ofNat n.toInt.toNat = port := by
  cases frame <;> simp [readPort?, Frame.asInt, and_assoc]

/-- The node that is read is the one that the frame names, with some label. -/
theorem readNode?_address :
    (readNode? frame).map Node.toAddress = some owner ↔ Names frame owner := by
  rw [Option.map_eq_some_iff]
  constructor
  · rintro ⟨node, hread, rfl⟩
    unfold readNode? at hread
    split at hread
    · split at hread
      · rename_i hhost hport
        cases hread
        obtain ⟨n, rfl, hrange, rfl⟩ := readPort?_eq_some.mp hport
        exact .node _ (Frame.asText_eq_some.mp hhost) hrange
      · cases hread
    · cases hread
  · rintro ⟨more, hhost, hport⟩
    have hname := Frame.asText_eq_some.mpr hhost
    have hnumber := readPort?_eq_some.mpr ⟨_, rfl, hport, rfl⟩
    simp [readNode?, hname, hnumber]

/-! ## One entry -/

/-- After an assignment the slots belong to the node, and the others to whom they belonged. -/
theorem lookup_assign (h : m.Canonical) (hok : m.assign a b node = .ok m') (slot : Nat) :
    (m'.lookup slot).map Node.toAddress =
      if a ≤ slot ∧ slot ≤ b then some node.toAddress else (m.lookup slot).map Node.toAddress := by
  obtain ⟨hcanonical, howns⟩ := h.assign hok
  refine Option.ext fun d => ?_
  rw [lookup_address hcanonical, howns]
  split
  · rename_i hin
    simp [hin]
  · rename_i hout
    rw [lookup_address h]
    simp [hout]

/-- What is an entry can be added to any map, as an assignment to a node that it names. -/
theorem Lists.addEntry (h : Lists frame entry) (m : SlotMap) :
    ∃ node m', node.toAddress = entry.owner ∧ m.addEntry frame = .ok m' ∧
      m.assign entry.first entry.last node = .ok m' := by
  obtain ⟨more, hstart, horder, hstop, hmaster⟩ := h
  obtain ⟨node, hnode, rfl⟩ := Option.map_eq_some_iff.mp (readNode?_address.mpr hmaster)
  have hfirst := readSlot?_eq_some.mpr ⟨_, rfl, ⟨hstart, Int.le_trans horder hstop⟩, rfl⟩
  have hlast := readSlot?_eq_some.mpr ⟨_, rfl, ⟨Int.le_trans hstart horder, hstop⟩, rfl⟩
  obtain ⟨m', hassign⟩ : ∃ m', m.assign _ _ node = .ok m' :=
    ⟨_, assign_eq_ok.mpr ⟨⟨Int.toNat_le_toNat horder, Int.toNat_le.mpr hstop⟩, rfl⟩⟩
  refine ⟨node, m', rfl, ?_, hassign⟩
  simp only [SlotMap.addEntry, hfirst, hlast, hnode, hassign]

theorem exists_lists_of_addEntry (h : m.addEntry frame = .ok m') : ∃ entry, Lists frame entry := by
  unfold SlotMap.addEntry at h
  split at h
  · split at h
    · cases h
    · rename_i hfirst
      split at h
      · cases h
      · rename_i hlast
        split at h
        · cases h
        · rename_i hnode
          split at h
          · rename_i hassign
            obtain ⟨start, rfl, hstart, rfl⟩ := readSlot?_eq_some.mp hfirst
            obtain ⟨stop, rfl, hstop, rfl⟩ := readSlot?_eq_some.mp hlast
            have hmaster := readNode?_address.mp (congrArg (Option.map Node.toAddress) hnode)
            have horder := (assign_eq_ok.mp hassign).1.1
            exact ⟨_, .entry _ hstart.1 (by omega) hstop.2 hmaster⟩
          · cases h
  · cases h

/-! ## All entries -/

theorem lastOwner_cons :
    lastOwner (entry :: entries) slot =
      (lastOwner entries slot).or (if entry.Covers slot then some entry.owner else none) := by
  unfold lastOwner
  by_cases hcovers : entry.Covers slot
  · rw [List.filter_cons_of_pos (by simpa using hcovers), if_pos hcovers]
    cases hrest : (entries.filter fun entry => entry.Covers slot) with
    | nil => rfl
    | cons first rest => simp [List.getLast?_cons]
  · rw [List.filter_cons_of_neg (by simpa using hcovers), if_neg hcovers, Option.or_none]

/-- Entries that are added one after the other overrule what was there and each other. -/
theorem addEntries_of_lists (hlists : List.Forall₂ Lists frames entries) (h : m.Canonical) :
    ∃ m', m.addEntries frames = .ok m' ∧ ∀ slot, (m'.lookup slot).map Node.toAddress =
      (lastOwner entries slot).or ((m.lookup slot).map Node.toAddress) := by
  induction hlists generalizing m with
  | nil => exact ⟨m, rfl, fun slot => by simp [lastOwner]⟩
  | @cons frame entry frames entries hentry _ ih =>
      obtain ⟨node, m₁, hnode, hadd, hassign⟩ := hentry.addEntry m
      obtain ⟨m₂, hrest, hlookup⟩ := ih (h.assign hassign).1
      refine ⟨m₂, by simp only [SlotMap.addEntries, hadd, hrest], fun slot => ?_⟩
      rw [hlookup, lookup_assign h hassign, lastOwner_cons, Option.or_assoc, hnode]
      congr 1
      by_cases hin : entry.first ≤ slot ∧ slot ≤ entry.last
      · have hcovers : entry.Covers slot := hin
        rw [if_pos hin, if_pos hcovers, Option.some_or]
      · have hmisses : ¬entry.Covers slot := hin
        rw [if_neg hin, if_neg hmisses, Option.none_or]

theorem exists_lists_of_addEntries (h : m.addEntries frames = .ok m') :
    ∃ entries, List.Forall₂ Lists frames entries := by
  induction frames generalizing m with
  | nil => exact ⟨[], .nil⟩
  | cons frame frames ih =>
      rw [SlotMap.addEntries] at h
      split at h
      · rename_i hentry
        obtain ⟨entry, hlists⟩ := exists_lists_of_addEntry hentry
        obtain ⟨entries, hrest⟩ := ih h
        exact ⟨entry :: entries, .cons hlists hrest⟩
      · cases h

/-- A listing is read, and the map holds what its entries say. -/
theorem IsListing.readListing (h : IsListing frame entries) :
    ∃ m, readListing frame = .ok m ∧
      ∀ slot, (m.lookup slot).map Node.toAddress = lastOwner entries slot := by
  obtain ⟨hlists⟩ := h
  obtain ⟨m, hadd, hlookup⟩ := addEntries_of_lists hlists canonical_empty
  refine ⟨m, hadd, fun slot => ?_⟩
  have hnone : empty.lookup slot = none := rfl
  rw [hlookup, hnone, Option.map_none, Option.or_none]

theorem ofListing_eq_ok {endpoint : String} :
    ofListing frame endpoint = .ok m ↔ readListing frame = .ok m := by
  unfold ofListing
  cases SlotMap.readListing frame <;> simp

/-- **Reading a slot listing is exact.** A frame is read exactly if it is an array of entries
of the right shape. Then a slot belongs to whom the last entry that covers it says, and to
nobody if none does. Otherwise the failure is one of the protocol and names the endpoint. -/
theorem ofListing_exact (frame : Frame) (endpoint : String) :
    ((∃ m, ofListing frame endpoint = .ok m) ↔ ∃ entries, IsListing frame entries) ∧
      (∀ m entries, ofListing frame endpoint = .ok m → IsListing frame entries →
        ∀ slot, (m.lookup slot).map Node.toAddress = lastOwner entries slot) ∧
      ∀ e, ofListing frame endpoint = .error e → ∃ fault : ListingFault,
        e = .protocol ("malformed CLUSTER SLOTS reply: " ++ fault.message) frame.debugText
          endpoint := by
  refine ⟨⟨?_, ?_⟩, ?_, ?_⟩
  · rintro ⟨m, hok⟩
    have hread := ofListing_eq_ok.mp hok
    unfold readListing at hread
    split at hread
    · obtain ⟨entries, hlists⟩ := exists_lists_of_addEntries hread
      exact ⟨entries, .array hlists⟩
    · cases hread
  · rintro ⟨entries, hlisting⟩
    obtain ⟨m, hread, -⟩ := hlisting.readListing
    exact ⟨m, ofListing_eq_ok.mpr hread⟩
  · intro m entries hok hlisting
    obtain ⟨m', hread, hlookup⟩ := hlisting.readListing
    have hsame := (ofListing_eq_ok.mp hok).symm.trans hread
    cases hsame
    exact hlookup
  · intro e herror
    unfold ofListing at herror
    split at herror
    · cases herror
    · rename_i fault _
      cases herror
      exact ⟨fault, rfl⟩

/-- Later entries overrule earlier ones; a bare integer is no entry. -/
example :
    let node (host : Frame) (port : Int64) : Frame := .array [host, .integer port]
    let entry (start stop : Int64) (master : Frame) : Frame :=
      .array [.integer start, .integer stop, master, .null]
    let a := node (.bulk [97]) 7000
    let b := node (.verbatim [116, 120, 116] [98]) 7001
    let read := readListing (.array [entry 50 60 b, entry 0 54 a, entry 100 16383 b])
    read = .ok ⟨[⟨0, 54, { host := "a", port := 7000 }⟩, ⟨55, 60, { host := "b", port := 7001 }⟩,
      ⟨100, 16383, { host := "b", port := 7001 }⟩]⟩ ∧
      readListing (.array [entry 0 54 a, .integer 7]) = .error .shortEntry ∧
      readListing (.array [entry 55 54 a]) = .error .badRange := by
  decide

end SlotMap

end RespClient
