import RespClient.Slot.Map
import Mathlib.Data.List.Pairwise
import Mathlib.Data.List.TakeWhile

/-!
# Canonical slot maps

The ranges of a slot map are in ascending order and apart from each other, none of them
is empty or reaches beyond the last slot, and ranges that touch have different owners.
Cutting slots out keeps this, and so does putting a new range where nothing is. What a
list of ranges says about a slot is stated without its order: some range holds the slot.
-/

namespace RespClient

namespace SlotRange

/-- Some range holds the slot for a node with the address. -/
def Owns (rs : List SlotRange) (slot : Nat) (d : Address) : Prop :=
  ∃ r ∈ rs, (r.first ≤ slot ∧ slot ≤ r.last) ∧ r.node.toAddress = d

/-- One range ends before another one begins, and if they touch their owners differ. -/
def Apart (r s : SlotRange) : Prop :=
  r.last < s.first ∧ (r.last + 1 = s.first → r.node.toAddress ≠ s.node.toAddress)

/-- Ranges as a slot map keeps them. -/
structure Canonical (rs : List SlotRange) : Prop where
  bounded : ∀ r ∈ rs, r.first ≤ r.last ∧ r.last ≤ Slot.last
  apart : rs.Pairwise Apart

variable {r s u : SlotRange} {rs : List SlotRange} {slot a b : Nat} {d : Address}

theorem contains_iff : r.contains slot = true ↔ r.first ≤ slot ∧ slot ≤ r.last := by
  simp [contains]

theorem meets_iff :
    r.meets s = true ↔ r.last + 1 = s.first ∧ r.node.toAddress = s.node.toAddress := by
  simp [meets, Node.same]

theorem owns_cons :
    Owns (r :: rs) slot d ↔
      (r.first ≤ slot ∧ slot ≤ r.last) ∧ r.node.toAddress = d ∨ Owns rs slot d := by
  simp [Owns]

theorem owns_append {ss : List SlotRange} :
    Owns (rs ++ ss) slot d ↔ Owns rs slot d ∨ Owns ss slot d := by
  simp [Owns, or_and_right, exists_or]

/-! ## Cutting slots out -/

/-- A piece that is left of a range lies within it. -/
theorem of_mem_cut (hr : r.first ≤ r.last) (hs : s ∈ cut a b r) :
    (r.first ≤ s.first ∧ s.first ≤ s.last ∧ s.last ≤ r.last) ∧ s.node = r.node := by
  unfold cut at hs
  split at hs
  · rw [List.mem_singleton] at hs
    subst hs
    exact ⟨⟨le_rfl, hr, le_rfl⟩, rfl⟩
  · rename_i hmeet
    rcases List.mem_append.mp hs with hs | hs
    · split at hs
      · rw [List.mem_singleton] at hs
        subst hs
        refine ⟨⟨le_rfl, ?_, ?_⟩, rfl⟩ <;> simp only <;> omega
      · cases hs
    · split at hs
      · rw [List.mem_singleton] at hs
        subst hs
        refine ⟨⟨?_, ?_, le_rfl⟩, rfl⟩ <;> simp only <;> omega
      · cases hs

/-- The pieces that are left hold what the range held, without what was cut out. -/
theorem owns_cut :
    Owns (cut a b r) slot d ↔
      ((r.first ≤ slot ∧ slot ≤ r.last) ∧ r.node.toAddress = d) ∧ ¬(a ≤ slot ∧ slot ≤ b) := by
  unfold cut
  split
  · rename_i hmiss
    simp only [Owns, List.mem_singleton, exists_eq_left]
    constructor
    · exact fun h => ⟨h, by omega⟩
    · exact And.left
  · rename_i hmeet
    rw [owns_append]
    constructor
    · rintro (⟨s, hs, hslot, hd⟩ | ⟨s, hs, hslot, hd⟩)
      · split at hs
        · rw [List.mem_singleton] at hs
          subst hs
          simp only at hslot hd
          exact ⟨⟨by omega, hd⟩, by omega⟩
        · cases hs
      · split at hs
        · rw [List.mem_singleton] at hs
          subst hs
          simp only at hslot hd
          exact ⟨⟨by omega, hd⟩, by omega⟩
        · cases hs
    · rintro ⟨⟨hslot, hd⟩, hout⟩
      by_cases hleft : slot < a
      · refine .inl ⟨{ r with last := a - 1 }, ?_, ⟨hslot.1, ?_⟩, hd⟩
        · rw [if_pos (by omega)]
          exact List.mem_singleton_self _
        · simp only
          omega
      · refine .inr ⟨{ r with first := b + 1 }, ?_, ⟨?_, hslot.2⟩, hd⟩
        · rw [if_pos (by omega)]
          exact List.mem_singleton_self _
        · simp only
          omega

theorem owns_flatMap_cut :
    Owns (rs.flatMap (cut a b)) slot d ↔ Owns rs slot d ∧ ¬(a ≤ slot ∧ slot ≤ b) := by
  induction rs with
  | nil => simp [Owns]
  | cons r rs ih =>
      rw [List.flatMap_cons, owns_append, owns_cut, ih, owns_cons, or_and_right]

/-- What is left of two ranges that are apart is apart. -/
theorem Apart.cut {r' s' : SlotRange} (h : Apart r s) (hr : r.first ≤ r.last)
    (hs : s.first ≤ s.last) (hr' : r' ∈ cut a b r) (hs' : s' ∈ cut a b s) : Apart r' s' := by
  obtain ⟨⟨-, -, hlast⟩, hnode⟩ := of_mem_cut hr hr'
  obtain ⟨⟨hfirst, -, -⟩, hnode'⟩ := of_mem_cut hs hs'
  have hlt := h.1
  refine ⟨by omega, fun htouch => ?_⟩
  rw [hnode, hnode']
  -- pieces that touch are the inner ends of ranges that touch
  exact h.2 (by omega)

/-- The two pieces of a split range do not touch. -/
theorem pairwise_cut (hab : a ≤ b) : (cut a b r).Pairwise Apart := by
  unfold SlotRange.cut
  split
  · exact List.pairwise_singleton _ _
  · split <;> split
    · rename_i hleft hright
      refine List.pairwise_pair.mpr ⟨?_, fun htouch => ?_⟩
      · simp only
        omega
      · simp only at htouch
        omega
    all_goals simp

theorem Canonical.cut (h : Canonical rs) (hab : a ≤ b) : Canonical (rs.flatMap (cut a b)) where
  bounded s hs := by
    obtain ⟨r, hr, hs⟩ := List.mem_flatMap.mp hs
    obtain ⟨⟨-, hle, hlast⟩, -⟩ := of_mem_cut (h.bounded r hr).1 hs
    exact ⟨hle, hlast.trans (h.bounded r hr).2⟩
  apart := by
    refine List.pairwise_flatMap.mpr ⟨fun r _ => pairwise_cut hab, ?_⟩
    refine h.apart.imp_of_mem ?_
    intro r s hr hs hapart r' hr' s' hs'
    exact hapart.cut (h.bounded r hr).1 (h.bounded s hs).1 hr' hs'

/-! ## Putting a range in its place -/

/-- Growing together changes no owner. -/
theorem owns_attach (hr : r.first ≤ r.last) (hrs : ∀ s ∈ rs, s.first ≤ s.last) :
    Owns (r.attach rs) slot d ↔ Owns (r :: rs) slot d := by
  unfold attach
  split
  · exact Iff.rfl
  · rename_i s rest
    split
    · rename_i hmeets
      obtain ⟨htouch, hnode⟩ := meets_iff.mp hmeets
      have hs := hrs s List.mem_cons_self
      rw [owns_cons, owns_cons, owns_cons, ← or_assoc, ← hnode, ← or_and_right]
      have hunion : r.first ≤ slot ∧ slot ≤ s.last ↔
          r.first ≤ slot ∧ slot ≤ r.last ∨ s.first ≤ slot ∧ slot ≤ s.last := by omega
      rw [← hunion]
    · exact Iff.rfl

/-- A range that lies in front of others begins the list, grown or not. -/
theorem attach_eq_cons (r : SlotRange) (rs : List SlotRange) :
    ∃ last rest, r.attach rs = { r with last } :: rest ∧ ∀ s ∈ rest, s ∈ rs := by
  unfold attach
  split
  · exact ⟨r.last, [], rfl, fun _ h => h⟩
  · rename_i s rest
    split
    · exact ⟨s.last, rest, rfl, fun _ => List.mem_cons_of_mem s⟩
    · exact ⟨r.last, s :: rest, rfl, fun _ h => h⟩

/-- A range in front of others, together with them. -/
theorem Canonical.attach (h : Canonical rs) (hr : r.first ≤ r.last ∧ r.last ≤ Slot.last)
    (hfront : ∀ s ∈ rs, r.last < s.first) : Canonical (r.attach rs) := by
  cases rs with
  | nil => exact ⟨by simpa [SlotRange.attach] using hr, List.pairwise_singleton _ _⟩
  | cons s rest =>
      obtain ⟨hs, hrest⟩ := List.pairwise_cons.mp h.apart
      have hbounded := h.bounded s List.mem_cons_self
      have hlt := hfront s List.mem_cons_self
      simp only [SlotRange.attach]
      split
      · rename_i hmeets
        obtain ⟨htouch, hnode⟩ := meets_iff.mp hmeets
        refine ⟨?_, List.pairwise_cons.mpr ⟨fun u hu => ?_, hrest⟩⟩
        · intro u hu
          rcases List.mem_cons.mp hu with rfl | hu
          · exact ⟨by simp only; omega, hbounded.2⟩
          · exact h.bounded u (List.mem_cons_of_mem s hu)
        · refine ⟨(hs u hu).1, fun hnext => ?_⟩
          rw [show ({ r with last := s.last } : SlotRange).node = r.node from rfl, hnode]
          exact (hs u hu).2 hnext
      · rename_i hmeets
        refine ⟨?_, List.pairwise_cons.mpr ⟨fun u hu => ⟨hfront u hu, fun hnext heq => ?_⟩,
          h.apart⟩⟩
        · intro u hu
          rcases List.mem_cons.mp hu with rfl | hu
          · exact hr
          · exact h.bounded u hu
        · rcases List.mem_cons.mp hu with rfl | hu
          · exact hmeets (meets_iff.mpr ⟨hnext, heq⟩)
          · -- nothing behind the first range touches what lies in front of it
            have := (hs u hu).1
            omega

/-- The last of some ranges grows together with what lies behind it. -/
theorem Canonical.append_attach {pre : List SlotRange} (h : Canonical (pre ++ [s]))
    (hrs : Canonical rs) (hfront : ∀ u ∈ rs, s.last < u.first) :
    Canonical (pre ++ s.attach rs) := by
  obtain ⟨hpre, -, hpres⟩ := List.pairwise_append.mp h.apart
  have hs := h.bounded s (List.mem_append_right pre (List.mem_singleton_self s))
  have hattach := hrs.attach hs hfront
  refine ⟨fun u hu => ?_, List.pairwise_append.mpr ⟨hpre, hattach.apart, fun u hu v hv => ?_⟩⟩
  · rcases List.mem_append.mp hu with hu | hu
    · exact h.bounded u (List.mem_append_left _ hu)
    · exact hattach.bounded u hu
  · have hus : Apart u s := hpres u hu s (List.mem_singleton_self s)
    obtain ⟨last, rest, heq, hrest⟩ := attach_eq_cons s rs
    rw [heq] at hv
    rcases List.mem_cons.mp hv with rfl | hv
    · exact hus
    · have hlt := hus.1
      have hle := hfront v (hrest v hv)
      exact ⟨by omega, fun htouch => by omega⟩

/-- Behind the place for a range nothing begins before it. -/
theorem Canonical.le_first (h : Canonical rs) {bound : Nat}
    (hs : s ∈ rs.dropWhile (·.first < bound)) : bound ≤ s.first := by
  cases hq : rs.dropWhile (·.first < bound) with
  | nil =>
      rw [hq] at hs
      cases hs
  | cons q rest =>
      have hmem : q ∈ rs := (List.dropWhile_sublist _).subset (hq ▸ List.mem_cons_self)
      have hhead : ¬q.first < bound := by
        have := List.head?_dropWhile_not (fun r : SlotRange => decide (r.first < bound)) rs
        simpa [hq] using this
      have hapart : (q :: rest).Pairwise Apart :=
        hq ▸ h.apart.sublist (List.dropWhile_sublist _)
      rw [hq] at hs
      rcases List.mem_cons.mp hs with rfl | hs
      · omega
      · have hlt := ((List.pairwise_cons.mp hapart).1 s hs).1
        have hle := (h.bounded q hmem).1
        omega

theorem Canonical.sublist {ss : List SlotRange} (h : Canonical rs) (hsub : ss.Sublist rs) :
    Canonical ss :=
  ⟨fun r hr => h.bounded r (hsub.subset hr), h.apart.sublist hsub⟩

/-- The ranges before a place and what stands behind them when a range was put there. -/
theorem place_eq (r : SlotRange) (rs : List SlotRange) :
    rs.takeWhile (·.first < r.first) = [] ∧
        r.place rs = r.attach (rs.dropWhile (·.first < r.first)) ∨
      ∃ pre s, rs.takeWhile (·.first < r.first) = pre ++ [s] ∧
        r.place rs = pre ++ s.attach (r.attach (rs.dropWhile (·.first < r.first))) := by
  cases hlast : (rs.takeWhile (·.first < r.first)).getLast? with
  | none => exact .inl ⟨List.getLast?_eq_none_iff.mp hlast, by simp only [place, hlast]⟩
  | some s =>
      obtain ⟨pre, hpre⟩ := List.getLast?_eq_some_iff.mp hlast
      refine .inr ⟨pre, s, hpre, ?_⟩
      simp only [place, hlast]
      rw [hpre, List.dropLast_concat]

/-- A range where nothing is may be put in its place: the ranges stay canonical, and
they hold what they held and the new slots. -/
theorem Canonical.place (h : Canonical rs) (hr : r.first ≤ r.last ∧ r.last ≤ Slot.last)
    (hfree : ∀ s ∈ rs, s.last < r.first ∨ r.last < s.first) :
    Canonical (r.place rs) ∧ ∀ slot d, Owns (r.place rs) slot d ↔ Owns (r :: rs) slot d := by
  have hbehind : Canonical (rs.dropWhile (·.first < r.first)) :=
    h.sublist (List.dropWhile_sublist _)
  have hfront : ∀ s ∈ rs.dropWhile (·.first < r.first), r.last < s.first := by
    intro s hs
    have hle := h.le_first hs
    have hmem := (List.dropWhile_sublist _).subset hs
    have hs := (h.bounded s hmem).1
    rcases hfree s hmem with hlt | hlt <;> omega
  have hright := hbehind.attach hr hfront
  have howns : ∀ slot d, Owns (r.attach (rs.dropWhile (·.first < r.first))) slot d ↔
      Owns (r :: rs.dropWhile (·.first < r.first)) slot d :=
    fun slot d => owns_attach hr.1 fun s hs => (hbehind.bounded s hs).1
  have hsplit := List.takeWhile_append_dropWhile (p := fun s : SlotRange => s.first < r.first)
    (l := rs)
  rcases place_eq r rs with ⟨hnil, heq⟩ | ⟨pre, s, hpre, heq⟩
  · rw [hnil, List.nil_append] at hsplit
    rw [heq]
    exact ⟨hright, by rwa [hsplit] at howns ⊢⟩
  · have hleft : Canonical (pre ++ [s]) := hpre ▸ h.sublist (List.takeWhile_sublist _)
    have hmem : s ∈ rs.takeWhile (·.first < r.first) := by
      rw [hpre]
      exact List.mem_append_right pre (List.mem_singleton_self s)
    have hlt : s.last < r.first := by
      have hbegin : s.first < r.first := by simpa using List.mem_takeWhile_imp hmem
      rcases hfree s ((List.takeWhile_sublist _).subset hmem) with hlt | hlt <;> omega
    have hright' : ∀ u ∈ r.attach (rs.dropWhile (·.first < r.first)), s.last < u.first := by
      intro u hu
      obtain ⟨last, rest, hcons, hrest⟩ := attach_eq_cons r (rs.dropWhile (·.first < r.first))
      rw [hcons] at hu
      rcases List.mem_cons.mp hu with rfl | hu
      · exact hlt
      · have := hfront u (hrest u hu)
        omega
    rw [heq]
    refine ⟨hleft.append_attach hright hright', fun slot d => ?_⟩
    have hs := (hleft.bounded s (List.mem_append_right pre (List.mem_singleton_self s))).1
    have hall : Owns rs slot d ↔
        Owns (pre ++ [s]) slot d ∨ Owns (rs.dropWhile (·.first < r.first)) slot d := by
      rw [← hpre, ← owns_append, hsplit]
    have hone : Owns [s] slot d ↔ (s.first ≤ slot ∧ slot ≤ s.last) ∧ s.node.toAddress = d := by
      simp [Owns]
    rw [owns_append, owns_attach hs fun u hu => (hright.bounded u hu).1, owns_cons, howns,
      owns_cons, owns_cons, hall, owns_append, hone]
    exact or_assoc.symm.trans or_left_comm

/-! ## What the ranges hold -/

/-- No two ranges share a slot. -/
theorem Canonical.eq_of_slot (h : Canonical rs) (hr : r ∈ rs) (hs : s ∈ rs)
    (hslot : r.first ≤ slot ∧ slot ≤ r.last) (hslot' : s.first ≤ slot ∧ slot ≤ s.last) :
    r = s := by
  have hsymm : Std.Symm fun r s : SlotRange => r.last < s.first ∨ s.last < r.first :=
    ⟨fun _ _ => Or.symm⟩
  have hdisjoint : rs.Pairwise fun r s => r.last < s.first ∨ s.last < r.first :=
    h.apart.imp fun hapart => .inl hapart.1
  by_contra hne
  rcases hdisjoint.forall hr hs hne with hlt | hlt <;> omega

/-- A slot has one owner. -/
theorem Canonical.owns_unique (h : Canonical rs) {d' : Address} (hd : Owns rs slot d)
    (hd' : Owns rs slot d') : d = d' := by
  obtain ⟨r, hr, hslot, rfl⟩ := hd
  obtain ⟨s, hs, hslot', rfl⟩ := hd'
  rw [h.eq_of_slot hr hs hslot hslot']

/-- A range that holds a slot is the last one that begins at or before it. -/
theorem Canonical.getLast?_takeWhile (h : Canonical rs) (hr : r ∈ rs)
    (hslot : r.first ≤ slot ∧ slot ≤ r.last) :
    (rs.takeWhile (·.first ≤ slot)).getLast? = some r := by
  have hbound : (fun r : SlotRange => decide (r.first ≤ slot)) =
      fun r => decide (r.first < slot + 1) := by
    funext r
    simp only [Nat.lt_succ_iff]
  have hmem : r ∈ rs.takeWhile (·.first ≤ slot) := by
    rw [← List.takeWhile_append_dropWhile (p := fun r : SlotRange => r.first ≤ slot) (l := rs)]
      at hr
    rcases List.mem_append.mp hr with hr | hr
    · exact hr
    · rw [hbound] at hr
      have := h.le_first hr
      omega
  cases hlast : (rs.takeWhile (·.first ≤ slot)).getLast? with
  | none =>
      rw [List.getLast?_eq_none_iff.mp hlast] at hmem
      cases hmem
  | some s =>
      obtain ⟨pre, hpre⟩ := List.getLast?_eq_some_iff.mp hlast
      have hapart := (h.sublist (List.takeWhile_sublist (·.first ≤ slot))).apart
      rw [hpre] at hmem hapart
      rcases List.mem_append.mp hmem with hmem | hmem
      · -- whatever ends at or behind the slot has nothing behind it that begins before
        have hlt := ((List.pairwise_append.mp hapart).2.2 r hmem s (List.mem_singleton_self s)).1
        have hbegin : s.first ≤ slot := by
          have hs : s ∈ rs.takeWhile (·.first ≤ slot) := by
            rw [hpre]
            exact List.mem_append_right pre (List.mem_singleton_self s)
          simpa using List.mem_takeWhile_imp hs
        omega
      · rw [List.mem_singleton.mp hmem]

end SlotRange

namespace SlotMap

open SlotRange

variable {m : SlotMap} {slot a b : Nat} {node : Node} {d : Address}

/-- A slot map is canonical if its ranges are. -/
def Canonical (m : SlotMap) : Prop :=
  SlotRange.Canonical m.ranges

theorem canonical_empty : empty.Canonical :=
  ⟨fun _ h => absurd h List.not_mem_nil, .nil⟩

/-- Looking a slot up finds the range that holds it. -/
theorem lookup_eq_some (h : m.Canonical) :
    m.lookup slot = some node ↔
      ∃ r ∈ m.ranges, (r.first ≤ slot ∧ slot ≤ r.last) ∧ r.node = node := by
  unfold lookup
  constructor
  · intro hlookup
    split at hlookup
    · rename_i r hr
      split at hlookup
      · rename_i hcontains
        have hmem := List.mem_of_getLast? hr
        exact ⟨r, (List.takeWhile_sublist _).subset hmem, contains_iff.mp hcontains,
          Option.some.inj hlookup⟩
      · cases hlookup
    · cases hlookup
  · rintro ⟨r, hr, hslot, rfl⟩
    rw [SlotRange.Canonical.getLast?_takeWhile h hr hslot]
    simp only
    rw [if_pos (contains_iff.mpr hslot)]

theorem lookup_address (h : m.Canonical) :
    (m.lookup slot).map Node.toAddress = some d ↔ Owns m.ranges slot d := by
  rw [Option.map_eq_some_iff]
  constructor
  · rintro ⟨node, hnode, rfl⟩
    obtain ⟨r, hr, hslot, rfl⟩ := (lookup_eq_some h).mp hnode
    exact ⟨r, hr, hslot, rfl⟩
  · rintro ⟨r, hr, hslot, rfl⟩
    exact ⟨r.node, (lookup_eq_some h).mpr ⟨r, hr, hslot, rfl⟩, rfl⟩

theorem lookup_beyond (h : m.Canonical) (hslot : Slot.last < slot) : m.lookup slot = none := by
  cases hlookup : m.lookup slot with
  | none => rfl
  | some node =>
      obtain ⟨r, hr, hin, -⟩ := (lookup_eq_some h).mp hlookup
      have := (SlotRange.Canonical.bounded h r hr).2
      omega

/-! ## Changing a map -/

theorem checkRange_eq_ok : checkRange a b = .ok () ↔ a ≤ b ∧ b ≤ Slot.last := by
  unfold checkRange
  split <;> simp_all

theorem assign_eq_ok {m' : SlotMap} :
    m.assign a b node = .ok m' ↔
      (a ≤ b ∧ b ≤ Slot.last) ∧ m' = ⟨SlotRange.place ⟨a, b, node⟩ (m.carve a b).ranges⟩ := by
  rw [← checkRange_eq_ok]
  unfold assign
  cases hcheck : checkRange a b with
  | ok u => simp [eq_comm]
  | error e => simp

theorem remove_eq_ok {m' : SlotMap} :
    m.remove a b = .ok m' ↔ (a ≤ b ∧ b ≤ Slot.last) ∧ m' = m.carve a b := by
  rw [← checkRange_eq_ok]
  unfold remove
  cases hcheck : checkRange a b with
  | ok u => simp [eq_comm]
  | error e => simp

theorem Canonical.carve (h : m.Canonical) (hab : a ≤ b) :
    (m.carve a b).Canonical ∧
      ∀ slot d, Owns (m.carve a b).ranges slot d ↔ Owns m.ranges slot d ∧ ¬(a ≤ slot ∧ slot ≤ b) :=
  ⟨SlotRange.Canonical.cut h hab, fun _ _ => owns_flatMap_cut⟩

/-- After an assignment the slots belong to the node, and the others to whom they belonged. -/
theorem Canonical.assign {m' : SlotMap} (h : m.Canonical) (hassign : m.assign a b node = .ok m') :
    m'.Canonical ∧ ∀ slot d, Owns m'.ranges slot d ↔
      (a ≤ slot ∧ slot ≤ b) ∧ node.toAddress = d ∨
        Owns m.ranges slot d ∧ ¬(a ≤ slot ∧ slot ≤ b) := by
  obtain ⟨⟨hab, hb⟩, rfl⟩ := assign_eq_ok.mp hassign
  obtain ⟨hcarve, howns⟩ := h.carve hab
  have hfree : ∀ s ∈ (m.carve a b).ranges, s.last < a ∨ b < s.first := by
    intro s hs
    by_contra hmeet
    have hle := (SlotRange.Canonical.bounded hcarve s hs).1
    -- a slot that `s` shares with the new range was cut out
    have hcut := (howns (max s.first a) s.node.toAddress).mp ⟨s, hs, by omega, rfl⟩
    exact hcut.2 (by omega)
  obtain ⟨hplace, hall⟩ :=
    SlotRange.Canonical.place (r := ⟨a, b, node⟩) hcarve ⟨hab, hb⟩ hfree
  refine ⟨hplace, fun slot d => ?_⟩
  rw [hall, owns_cons, howns]

end SlotMap

end RespClient
