import Mathlib
import RespClient.Proofs.Slot.NormalForm
import RespClient.Proofs.Node.Unknown

/-!
# What the summaries of a slot map say

A slot map is summed up by passes over its ranges that never look at a single slot: whether
it is full, how many slots it assigns, who its owners are. Ranges in ascending order that
share no slot make each of them say what looking all slots up would say.
-/

namespace RespClient

/-- Every key has a slot that exists. -/
theorem Slot.ofKey_le_last (key : Bytes) : Slot.ofKey key ≤ Slot.last := by
  have hlt : Slot.ofKey key < Slot.count := Nat.mod_lt _ (by decide)
  exact Nat.le_of_lt_succ hlt

namespace SlotRange

variable {r s : SlotRange} {rs : List SlotRange} {slot next : Nat} {node : Node}
  {nodes : List Node}

/-! ## Slots that some range holds -/

/-- Some range holds the slot. -/
def Holds (rs : List SlotRange) (slot : Nat) : Prop :=
  ∃ r ∈ rs, r.first ≤ slot ∧ slot ≤ r.last

instance (rs : List SlotRange) (slot : Nat) : Decidable (Holds rs slot) :=
  inferInstanceAs (Decidable (∃ r ∈ rs, r.first ≤ slot ∧ slot ≤ r.last))

theorem holds_cons : Holds (r :: rs) slot ↔ (r.first ≤ slot ∧ slot ≤ r.last) ∨ Holds rs slot := by
  simp [Holds]

/-- Behind the first range nothing is held before its end. -/
theorem Canonical.last_lt_of_holds (h : Canonical (r :: rs)) (hslot : Holds rs slot) :
    r.last < slot := by
  obtain ⟨s, hs, hslot⟩ := hslot
  have hlt := ((List.pairwise_cons.mp h.apart).1 s hs).1
  omega

/-- Going through the ranges finds no gap exactly when there is none. -/
theorem Canonical.coversFrom_iff (h : Canonical rs) (hnext : next ≤ Slot.count)
    (hfront : ∀ r ∈ rs, next ≤ r.first) :
    SlotMap.coversFrom next rs = true ↔
      ∀ slot, next ≤ slot → slot ≤ Slot.last → Holds rs slot := by
  have hcount : Slot.count = Slot.last + 1 := rfl
  induction rs generalizing next with
  | nil =>
      have hnone : ∀ slot, ¬Holds [] slot := by simp [Holds]
      rw [SlotMap.coversFrom, beq_iff_eq]
      constructor
      · intro hend slot hslot hlast
        omega
      · intro hall
        by_contra hend
        exact hnone next (hall next le_rfl (by omega))
  | cons r rs ih =>
      have hr := h.bounded r List.mem_cons_self
      have hle := hfront r List.mem_cons_self
      have hbehind : ∀ s ∈ rs, r.last + 1 ≤ s.first := fun s hs =>
        ((List.pairwise_cons.mp h.apart).1 s hs).1
      have hbeyond : SlotMap.coversFrom (r.last + 1) rs = true ↔
          ∀ slot, r.last + 1 ≤ slot → slot ≤ Slot.last → Holds rs slot :=
        ih h.tail (by omega) hbehind
      rw [SlotMap.coversFrom, Bool.and_eq_true, beq_iff_eq, hbeyond]
      constructor
      · rintro ⟨rfl, hall⟩ slot hslot hlast
        rw [holds_cons]
        by_cases hin : slot ≤ r.last
        · exact .inl ⟨hslot, hin⟩
        · exact .inr (hall slot (by omega) hlast)
      · intro hall
        constructor
        · -- only the first range can hold the slot where the gap would be
          rcases holds_cons.mp (hall next le_rfl (by omega)) with hin | hrest
          · omega
          · have := h.last_lt_of_holds hrest
            omega
        · intro slot hslot hlast
          rcases holds_cons.mp (hall slot (by omega) hlast) with hin | hrest
          · omega
          · exact hrest

/-- The sizes of the ranges add up to the number of slots that they hold. -/
theorem Canonical.sum_size (h : Canonical rs) :
    (rs.map size).sum = ((Finset.range Slot.count).filter (Holds rs)).card := by
  induction rs with
  | nil =>
      have hnone : ∀ slot, ¬Holds [] slot := by simp [Holds]
      rw [Finset.filter_false_of_mem fun slot _ => hnone slot]
      rfl
  | cons r rs ih =>
      obtain ⟨hr, hlast⟩ := h.bounded r List.mem_cons_self
      have hcount : Slot.count = Slot.last + 1 := rfl
      have hsplit : (Finset.range Slot.count).filter (Holds (r :: rs)) =
          Finset.Icc r.first r.last ∪ (Finset.range Slot.count).filter (Holds rs) := by
        ext slot
        simp only [Finset.mem_union, Finset.mem_filter, Finset.mem_range, Finset.mem_Icc,
          holds_cons]
        constructor
        · rintro ⟨hslot, hin | hrest⟩
          · exact .inl hin
          · exact .inr ⟨hslot, hrest⟩
        · rintro (hin | ⟨hslot, hrest⟩)
          · exact ⟨by omega, .inl hin⟩
          · exact ⟨hslot, .inr hrest⟩
      have hdisjoint : Disjoint (Finset.Icc r.first r.last)
          ((Finset.range Slot.count).filter (Holds rs)) := by
        refine Finset.disjoint_left.mpr fun slot hin hrest => ?_
        have hlt := h.last_lt_of_holds (Finset.mem_filter.mp hrest).2
        have hle := (Finset.mem_Icc.mp hin).2
        omega
      rw [List.map_cons, List.sum_cons, ih h.tail, hsplit, Finset.card_union_of_disjoint hdisjoint,
        Nat.card_Icc, size]
      omega

/-! ## Owners in order -/

/-- The node owns the range that begins at the slot, and its address owns none before. -/
def Leads (rs : List SlotRange) (slot : Nat) (node : Node) : Prop :=
  (∃ r ∈ rs, r.first = slot ∧ r.node = node) ∧
    ∀ r ∈ rs, r.node.toAddress = node.toAddress → slot ≤ r.first

/-- The nodes are the owners of the ranges, in the order of the first ranges that they own. -/
structure InOrder (rs : List SlotRange) (nodes : List Node) : Prop where
  complete : ∀ r ∈ rs, ∃ node ∈ nodes, node.toAddress = r.node.toAddress
  leads : ∀ node ∈ nodes, ∃ slot, Leads rs slot node
  ascending : nodes.Pairwise fun a b => ∃ s t, s < t ∧ Leads rs s a ∧ Leads rs t b

/-- A range behind all others changes nobody's first range. -/
theorem Leads.append (h : Leads rs slot node) (hbehind : ∀ s ∈ rs, s.first < r.first) :
    slot < r.first ∧ Leads (rs ++ [r]) slot node := by
  obtain ⟨⟨s, hs, rfl, rfl⟩, hleast⟩ := h
  have hlt := hbehind s hs
  refine ⟨hlt, ⟨s, List.mem_append_left _ hs, rfl, rfl⟩, fun u hu haddress => ?_⟩
  rcases List.mem_append.mp hu with hu | hu
  · exact hleast u hu haddress
  · rw [List.mem_singleton.mp hu]
    exact Nat.le_of_lt hlt

theorem InOrder.addOnce (h : InOrder rs nodes) (hbehind : ∀ s ∈ rs, s.first < r.first) :
    InOrder (rs ++ [r]) (SlotMap.addOnce nodes r.node) := by
  have hleads : ∀ node ∈ nodes, ∃ slot < r.first, Leads (rs ++ [r]) slot node := by
    intro node hnode
    obtain ⟨slot, hslot⟩ := h.leads node hnode
    exact ⟨slot, hslot.append hbehind⟩
  have hascending : nodes.Pairwise fun a b =>
      ∃ s t, s < t ∧ Leads (rs ++ [r]) s a ∧ Leads (rs ++ [r]) t b :=
    h.ascending.imp fun ⟨s, t, hlt, ha, hb⟩ =>
      ⟨s, t, hlt, (ha.append hbehind).2, (hb.append hbehind).2⟩
  unfold SlotMap.addOnce
  split
  · rename_i hknown
    obtain ⟨known, hmem, hsame⟩ := List.any_eq_true.mp hknown
    refine ⟨fun s hs => ?_, fun node hnode => ?_, hascending⟩
    · rcases List.mem_append.mp hs with hs | hs
      · exact h.complete s hs
      · rw [List.mem_singleton.mp hs]
        exact ⟨known, hmem, beq_iff_eq.mp hsame⟩
    · obtain ⟨slot, -, hslot⟩ := hleads node hnode
      exact ⟨slot, hslot⟩
  · rename_i hunknown
    have hother : ∀ node ∈ nodes, node.toAddress ≠ r.node.toAddress := by
      intro node hnode haddress
      exact hunknown (List.any_eq_true.mpr ⟨node, hnode, beq_iff_eq.mpr haddress⟩)
    have hlast : Leads (rs ++ [r]) r.first r.node := by
      refine ⟨⟨r, by simp, rfl, rfl⟩, fun s hs haddress => ?_⟩
      rcases List.mem_append.mp hs with hs | hs
      · -- its address would be known already
        obtain ⟨node, hnode, hsame⟩ := h.complete s hs
        exact absurd (hsame.trans haddress) (hother node hnode)
      · rw [List.mem_singleton.mp hs]
    refine ⟨fun s hs => ?_, fun node hnode => ?_, List.pairwise_append.mpr
      ⟨hascending, List.pairwise_singleton _ _, fun a ha b hb => ?_⟩⟩
    · rcases List.mem_append.mp hs with hs | hs
      · obtain ⟨node, hnode, hsame⟩ := h.complete s hs
        exact ⟨node, List.mem_append_left _ hnode, hsame⟩
      · rw [List.mem_singleton.mp hs]
        exact ⟨r.node, by simp, rfl⟩
    · rcases List.mem_append.mp hnode with hnode | hnode
      · obtain ⟨slot, -, hslot⟩ := hleads node hnode
        exact ⟨slot, hslot⟩
      · rw [List.mem_singleton.mp hnode]
        exact ⟨r.first, hlast⟩
    · obtain ⟨slot, hlt, hslot⟩ := hleads a ha
      rw [List.mem_singleton.mp hb]
      exact ⟨slot, r.first, hlt, hslot, hlast⟩

theorem Canonical.inOrder (h : Canonical rs) :
    InOrder rs (rs.foldl (fun nodes r => SlotMap.addOnce nodes r.node) []) := by
  induction rs using List.reverseRecOn with
  | nil => exact ⟨by simp, by simp, .nil⟩
  | append_singleton rs r ih =>
      have hbehind : ∀ s ∈ rs, s.first < r.first := by
        intro s hs
        have hle := (h.bounded s (List.mem_append_left _ hs)).1
        have hlt := ((List.pairwise_append.mp h.apart).2.2 s hs r (List.mem_singleton_self r)).1
        omega
      rw [List.foldl_append]
      exact (ih (h.sublist (List.sublist_append_left rs [r]))).addOnce hbehind

end SlotRange

namespace SlotMap

open SlotRange

variable {m : SlotMap} {slot : Nat} {node : Node}

theorem lookup_isSome (h : m.Canonical) :
    (m.lookup slot).isSome = true ↔ Holds m.ranges slot := by
  rw [Option.isSome_iff_exists]
  constructor
  · rintro ⟨node, hlookup⟩
    obtain ⟨r, hr, hslot, -⟩ := (lookup_eq_some h).mp hlookup
    exact ⟨r, hr, hslot⟩
  · rintro ⟨r, hr, hslot⟩
    exact ⟨r.node, (lookup_eq_some h).mpr ⟨r, hr, hslot, rfl⟩⟩

/-- The slot belongs to the node, and no lower slot belongs to its address. -/
structure IsLowest (m : SlotMap) (slot : Nat) (node : Node) : Prop where
  owned : m.lookup slot = some node
  least : ∀ lower < slot, (m.lookup lower).map Node.toAddress ≠ some node.toAddress

theorem isLowest_of_leads (h : m.Canonical) (hleads : Leads m.ranges slot node) :
    m.IsLowest slot node := by
  obtain ⟨⟨r, hr, rfl, rfl⟩, hleast⟩ := hleads
  have hle := (SlotRange.Canonical.bounded h r hr).1
  refine ⟨(lookup_eq_some h).mpr ⟨r, hr, ⟨le_rfl, hle⟩, rfl⟩, fun lower hlower howner => ?_⟩
  obtain ⟨s, hs, hin, haddress⟩ := (lookup_address h).mp howner
  have := hleast s hs haddress
  omega

/-- The summaries of a map say what looking its slots up says. -/
structure Summarised (m : SlotMap) : Prop where
  full : m.isFullyCovered = true ↔ ∀ slot ≤ Slot.last, (m.lookup slot).isSome = true
  serves : m.isFullyCovered = true → ∀ key, ∃ node, m.nodeFor key = .ok node
  assigned : m.assignedSlots =
    ((Finset.range Slot.count).filter fun slot => (m.lookup slot).isSome = true).card
  empty : m.isEmpty = true ↔ ∀ slot, m.lookup slot = none
  /-- The owners are those of some slot. -/
  owners : ∀ a, a ∈ m.nodes.map Node.toAddress ↔
    ∃ slot, (m.lookup slot).map Node.toAddress = some a
  once : (m.nodes.map Node.toAddress).Nodup
  /-- Each of them is the node at the lowest slot that its address has. -/
  lowest : ∀ node ∈ m.nodes, ∃ slot, m.IsLowest slot node
  ascending : m.nodes.Pairwise fun a b => ∃ s t, s < t ∧ m.IsLowest s a ∧ m.IsLowest t b
  routed : ∀ key node, m.nodeFor key = .ok node ↔ m.lookup (Slot.ofKey key) = some node
  unrouted : ∀ key e, m.nodeFor key = .error e ↔
    e = .noRoute (Slot.ofKey key) ∧ m.lookup (Slot.ofKey key) = none

theorem isFullyCovered_iff (h : m.Canonical) :
    m.isFullyCovered = true ↔ ∀ slot ≤ Slot.last, (m.lookup slot).isSome = true := by
  rw [isFullyCovered, SlotRange.Canonical.coversFrom_iff h (Nat.zero_le _) fun _ _ => Nat.zero_le _]
  simp only [lookup_isSome h, Nat.zero_le, forall_const]

theorem assignedSlots_eq (h : m.Canonical) :
    m.assignedSlots =
      ((Finset.range Slot.count).filter fun slot => (m.lookup slot).isSome = true).card := by
  have hsum : m.assignedSlots = (m.ranges.map size).sum := by
    rw [assignedSlots, List.sum_eq_foldl, List.foldl_map]
  rw [hsum, SlotRange.Canonical.sum_size h]
  simp only [lookup_isSome h]

theorem isEmpty_iff (h : m.Canonical) :
    m.isEmpty = true ↔ ∀ slot, m.lookup slot = none := by
  rw [isEmpty, List.isEmpty_iff]
  constructor
  · intro hnil slot
    rw [lookup, hnil]
    rfl
  · intro hnone
    refine List.eq_nil_iff_forall_not_mem.mpr fun r hr => ?_
    -- a range would hold the slot where it begins
    have hholds : Holds m.ranges r.first :=
      ⟨r, hr, le_rfl, (SlotRange.Canonical.bounded h r hr).1⟩
    have hsome := (lookup_isSome h).mpr hholds
    rw [hnone] at hsome
    cases hsome

theorem mem_nodes_iff (h : m.Canonical) (a : Address) :
    a ∈ m.nodes.map Node.toAddress ↔ ∃ slot, (m.lookup slot).map Node.toAddress = some a := by
  have horder : InOrder m.ranges m.nodes := SlotRange.Canonical.inOrder h
  rw [List.mem_map]
  constructor
  · rintro ⟨node, hnode, rfl⟩
    obtain ⟨slot, hleads⟩ := horder.leads node hnode
    exact ⟨slot, by rw [(isLowest_of_leads h hleads).owned]; rfl⟩
  · rintro ⟨slot, howner⟩
    obtain ⟨r, hr, -, rfl⟩ := (lookup_address h).mp howner
    exact horder.complete r hr

theorem nodeFor_eq_ok {key : Bytes} :
    m.nodeFor key = .ok node ↔ m.lookup (Slot.ofKey key) = some node := by
  unfold nodeFor
  cases m.lookup (Slot.ofKey key) <;> simp

theorem nodeFor_eq_error {key : Bytes} {e : Failure} :
    m.nodeFor key = .error e ↔
      e = .noRoute (Slot.ofKey key) ∧ m.lookup (Slot.ofKey key) = none := by
  unfold nodeFor
  cases m.lookup (Slot.ofKey key) <;> simp [eq_comm]

/-- **The summaries of a slot map agree with its look-ups**, however the map was built: it is
full if every slot has an owner, and then it serves every key; it counts the slots that have
one; it is empty if none has; its owners are listed once each, by their lowest slots; and the
keys without a route are those whose slots have no owner. -/
theorem build_summarised (steps : List BuildStep) : Summarised (build steps) := by
  have h := canonical_build steps
  have horder : InOrder (build steps).ranges (build steps).nodes := SlotRange.Canonical.inOrder h
  constructor
  · exact isFullyCovered_iff h
  · intro hfull key
    have hsome := (isFullyCovered_iff h).mp hfull _ (Slot.ofKey_le_last key)
    obtain ⟨node, hlookup⟩ := Option.isSome_iff_exists.mp hsome
    exact ⟨node, nodeFor_eq_ok.mpr hlookup⟩
  · exact assignedSlots_eq h
  · exact isEmpty_iff h
  · exact mem_nodes_iff h
  · refine List.pairwise_map.mpr ((pairwise_nodes _).imp fun hother haddress => ?_)
    simp [Node.same, haddress] at hother
  · intro node hnode
    obtain ⟨slot, hleads⟩ := horder.leads node hnode
    exact ⟨slot, isLowest_of_leads h hleads⟩
  · refine horder.ascending.imp ?_
    rintro a b ⟨s, t, hlt, ha, hb⟩
    exact ⟨s, t, hlt, isLowest_of_leads h ha, isLowest_of_leads h hb⟩
  · exact fun key node => nodeFor_eq_ok
  · exact fun key e => nodeFor_eq_error

/-- The owner of two ranges is listed once, in front, and a gap leaves the map short. -/
example :
    let a : Node := { host := "a", port := 1 }
    let b : Node := { host := "b", port := 1 }
    let m := build [.update (.assign 0 Slot.last a), .update (.assign 10 19 b),
      .update (.remove 5 6)]
    m.nodes = [a, b] ∧ m.assignedSlots = 16382 ∧ m.isFullyCovered = false ∧
      m.isEmpty = false := by
  decide

end SlotMap

end RespClient
