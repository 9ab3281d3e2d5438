import RespClient.Proofs.Slot.History
import RespClient.Slot.Listing
import Mathlib.Data.List.Forall2

/-!
# Slot maps that answer alike are the same

Canonical ranges are determined by what they hold. So two maps that answer every look-up
alike have the same ranges, whatever changes and listings they were built from.
-/

namespace RespClient

namespace SlotRange

variable {r s : SlotRange} {rs ss : List SlotRange} {slot : Nat} {d : Address}

theorem same_iff :
    r.same s = true ↔
      r.first = s.first ∧ r.last = s.last ∧ r.node.toAddress = s.node.toAddress := by
  simp [same, Node.same, and_assoc]

theorem Canonical.tail (h : Canonical (r :: rs)) : Canonical rs :=
  h.sublist (List.sublist_cons_self r rs)

theorem owns_self (h : r.first ≤ r.last) : Owns (r :: rs) r.first r.node.toAddress :=
  ⟨r, List.mem_cons_self, ⟨le_rfl, h⟩, rfl⟩

/-- Behind the first range nothing begins before its end, and what begins right there has
another owner. -/
theorem Canonical.of_owns_tail (h : Canonical (r :: rs)) (howns : Owns rs slot d) :
    r.last < slot ∧ (r.last + 1 = slot → r.node.toAddress ≠ d) := by
  obtain ⟨s, hs, hslot, rfl⟩ := howns
  have hapart := (List.pairwise_cons.mp h.apart).1 s hs
  have hlt := hapart.1
  exact ⟨by omega, fun htouch => hapart.2 (by omega)⟩

/-- A range begins no later than what is held first. -/
theorem Canonical.first_le (h : Canonical (r :: rs)) (howns : Owns (r :: rs) slot d) :
    r.first ≤ slot := by
  rcases owns_cons.mp howns with ⟨hslot, -⟩ | howns
  · exact hslot.1
  · have hle := (h.bounded r List.mem_cons_self).1
    have hlt := (h.of_owns_tail howns).1
    omega

/-- The first of two lists that hold the same does not end before that of the other. -/
theorem Canonical.last_le (hr : Canonical (r :: rs))
    (howns : ∀ slot d, Owns (r :: rs) slot d ↔ Owns (s :: ss) slot d) (hfirst : r.first = s.first)
    (hnode : r.node.toAddress = s.node.toAddress) : s.last ≤ r.last := by
  by_contra hlt
  have hr' := (hr.bounded r List.mem_cons_self).1
  -- the other one still holds the slot behind the end
  have hnext : Owns (r :: rs) (r.last + 1) s.node.toAddress :=
    (howns _ _).mpr ⟨s, List.mem_cons_self, ⟨by omega, by omega⟩, rfl⟩
  rcases owns_cons.mp hnext with ⟨hslot, -⟩ | hnext
  · omega
  · exact (hr.of_owns_tail hnext).2 rfl hnode

/-- Lists that hold the same begin with the same range. -/
theorem Canonical.same_head (hr : Canonical (r :: rs)) (hs : Canonical (s :: ss))
    (howns : ∀ slot d, Owns (r :: rs) slot d ↔ Owns (s :: ss) slot d) : r.same s = true := by
  have hr' : Owns (r :: rs) _ _ := owns_self (hr.bounded r List.mem_cons_self).1
  have hs' : Owns (s :: ss) _ _ := owns_self (hs.bounded s List.mem_cons_self).1
  have hfirst : r.first = s.first :=
    le_antisymm (hr.first_le ((howns _ _).mpr hs')) (hs.first_le ((howns _ _).mp hr'))
  have hnode : r.node.toAddress = s.node.toAddress := by
    rw [← hfirst] at hs'
    exact hr.owns_unique hr' ((howns _ _).mpr hs')
  have hsymm : ∀ slot d, Owns (s :: ss) slot d ↔ Owns (r :: rs) slot d :=
    fun slot d => (howns slot d).symm
  exact same_iff.mpr ⟨hfirst, le_antisymm (hs.last_le hsymm hfirst.symm hnode.symm)
    (hr.last_le howns hfirst hnode), hnode⟩

/-- What lies behind the first range is what is held beyond its end. -/
theorem Canonical.owns_tail (h : Canonical (r :: rs)) :
    Owns rs slot d ↔ Owns (r :: rs) slot d ∧ r.last < slot := by
  rw [owns_cons]
  constructor
  · exact fun howns => ⟨.inr howns, (h.of_owns_tail howns).1⟩
  · rintro ⟨⟨hslot, -⟩ | howns, hlt⟩
    · omega
    · exact howns

/-- Ranges that are the same hold the same. -/
theorem owns_of_same (h : List.Forall₂ (fun r s => r.same s = true) rs ss) :
    Owns rs slot d ↔ Owns ss slot d := by
  induction h with
  | nil => rfl
  | cons hsame _ ih =>
      obtain ⟨hfirst, hlast, hnode⟩ := same_iff.mp hsame
      rw [owns_cons, owns_cons, ih, hfirst, hlast, hnode]

/-- **Canonical ranges are determined by what they hold.** -/
theorem Canonical.forall₂_same (hr : Canonical rs) (hs : Canonical ss)
    (howns : ∀ slot d, Owns rs slot d ↔ Owns ss slot d) :
    List.Forall₂ (fun r s => r.same s = true) rs ss := by
  have hnil : ∀ slot d, ¬Owns [] slot d := by simp [Owns]
  induction rs generalizing ss with
  | nil =>
      cases ss with
      | nil => exact .nil
      | cons s ss =>
          have hself : Owns (s :: ss) _ _ := owns_self (hs.bounded s List.mem_cons_self).1
          exact absurd ((howns _ _).mpr hself) (hnil _ _)
  | cons r rs ih =>
      cases ss with
      | nil =>
          have hself : Owns (r :: rs) _ _ := owns_self (hr.bounded r List.mem_cons_self).1
          exact absurd ((howns _ _).mp hself) (hnil _ _)
      | cons s ss =>
          have hsame := hr.same_head hs howns
          refine .cons hsame (ih hr.tail hs.tail fun slot d => ?_)
          rw [hr.owns_tail, hs.owns_tail, howns, (same_iff.mp hsame).2.1]

end SlotRange

namespace SlotMap

variable {m m' n : SlotMap} {entry : Frame} {entries : List Frame}

theorem same_iff_forall₂ :
    m.same n = true ↔ List.Forall₂ (fun r s => r.same s = true) m.ranges n.ranges := by
  simp [same, List.forall₂_iff_zip]

/-! ## Maps that were read from a listing -/

theorem Canonical.addEntry (h : m.Canonical) (hok : m.addEntry entry = .ok m') :
    m'.Canonical := by
  unfold SlotMap.addEntry at hok
  split at hok
  · split at hok
    · cases hok
    · split at hok
      · cases hok
      · split at hok
        · cases hok
        · split at hok
          · rename_i hassign
            cases hok
            exact (h.assign hassign).1
          · cases hok
  · cases hok

theorem Canonical.addEntries (h : m.Canonical) (hok : m.addEntries entries = .ok m') :
    m'.Canonical := by
  induction entries generalizing m with
  | nil =>
      cases hok
      exact h
  | cons entry entries ih =>
      rw [SlotMap.addEntries] at hok
      split at hok
      · rename_i hentry
        exact ih (h.addEntry hentry) hok
      · cases hok

theorem canonical_ofListing {frame : Frame} {endpoint : String}
    (hok : ofListing frame endpoint = .ok m) : m.Canonical := by
  unfold ofListing readListing at hok
  split at hok
  · rename_i hread
    cases hok
    split at hread
    · exact canonical_empty.addEntries hread
    · cases hread
  · cases hok

/-! ## Maps that were built -/

/-- One step in building a slot map: a change, or a listing that replaces the whole map. -/
inductive BuildStep
  | update (u : Update)
  | load (frame : Frame) (endpoint : String)

/-- The map after a step, which is the map before if a change was refused or a listing
was bad. -/
def take (m : SlotMap) : BuildStep → SlotMap
  | .update u => m.enter u
  | .load frame endpoint =>
    match ofListing frame endpoint with
    | .ok m => m
    | .error _ => m

/-- The map that some steps build, which begin with the empty one. -/
def build (steps : List BuildStep) : SlotMap :=
  steps.foldl take empty

theorem Canonical.take (h : m.Canonical) (step : BuildStep) : (m.take step).Canonical := by
  cases step with
  | update u => exact h.enter u
  | load frame endpoint =>
      simp only [SlotMap.take]
      cases hok : ofListing frame endpoint with
      | ok m' => exact canonical_ofListing hok
      | error e => exact h

theorem canonical_build (steps : List BuildStep) : (build steps).Canonical := by
  induction steps using List.reverseRecOn with
  | nil => exact canonical_empty
  | append_singleton steps step ih =>
      rw [build, List.foldl_append]
      exact ih.take step

/-- Canonical maps are the same if they answer alike. -/
theorem Canonical.same_iff_lookup (hm : m.Canonical) (hn : n.Canonical) :
    m.same n = true ↔ ∀ slot ≤ Slot.last,
      (m.lookup slot).map Node.toAddress = (n.lookup slot).map Node.toAddress := by
  rw [same_iff_forall₂]
  constructor
  · intro hsame slot _
    refine Option.ext fun d => ?_
    rw [lookup_address hm, lookup_address hn]
    exact SlotRange.owns_of_same hsame
  · intro halike
    refine SlotRange.Canonical.forall₂_same hm hn fun slot d => ?_
    rw [← lookup_address hm, ← lookup_address hn]
    by_cases hslot : slot ≤ Slot.last
    · rw [halike slot hslot]
    · rw [lookup_beyond hm (by omega), lookup_beyond hn (by omega)]

/-- **Slot maps have a normal form.** However a map was built, its ranges are in ascending
order and disjoint, none is empty or reaches beyond the last slot, and two that touch have
different owners. So two maps are the same exactly when they answer alike for every slot. -/
theorem build_normalForm (steps : List BuildStep) :
    ((∀ r ∈ (build steps).ranges, r.first ≤ r.last ∧ r.last ≤ Slot.last) ∧
      (build steps).ranges.Pairwise fun r s => r.last < s.first ∧
        (r.last + 1 = s.first → r.node.toAddress ≠ s.node.toAddress)) ∧
      ∀ others : List BuildStep,
        (build steps).same (build others) = true ↔ ∀ slot ≤ Slot.last,
          ((build steps).lookup slot).map Node.toAddress =
            ((build others).lookup slot).map Node.toAddress := by
  have hcanonical := canonical_build steps
  refine ⟨⟨hcanonical.bounded, hcanonical.apart⟩, fun others => ?_⟩
  exact hcanonical.same_iff_lookup (canonical_build others)

/-- Two ways to the same owners. -/
example :
    let a : Node := { host := "a", port := 1 }
    let b : Node := { host := "b", port := 1 }
    (build [.update (.assign 0 9 a), .update (.assignSlot 4 b)]).same
      (build [.update (.assign 5 9 a), .update (.assign 0 4 b), .update (.assign 0 3 a)]) =
        true := by
  decide

end SlotMap

end RespClient
