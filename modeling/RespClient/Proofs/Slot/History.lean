import RespClient.Proofs.Slot.Canonical
import Mathlib.Data.List.Induction

/-!
# Slot maps and what was entered into them

A slot map answers like a plain table with one entry for each slot into which every
change was written slot by slot: of all changes that were accepted the last one that
covers a slot decides. A change is refused exactly when it is about no range of slots.
-/

namespace RespClient

namespace SlotMap

/-- A change that is asked of a slot map. -/
inductive Update
  | assign (a b : Nat) (node : Node)
  | assignSlot (slot : Nat) (node : Node)
  | remove (a b : Nat)

namespace Update

/-- The first slot that a change is about. -/
def first : Update → Nat
  | .assign a _ _ | .assignSlot a _ | .remove a _ => a

/-- The last slot that a change is about. -/
def last : Update → Nat
  | .assign _ b _ | .assignSlot b _ | .remove _ b => b

/-- Whom the slots belong to afterwards. -/
def owner : Update → Option Address
  | .assign _ _ node | .assignSlot _ node => some node.toAddress
  | .remove _ _ => none

/-- Is a change about slots that exist, and about one at least? -/
def IsRange (u : Update) : Prop :=
  u.first ≤ u.last ∧ u.last ≤ Slot.last

/-- Is a slot among those that a change is about? -/
def Covers (u : Update) (slot : Nat) : Prop :=
  u.first ≤ slot ∧ slot ≤ u.last

instance (u : Update) : Decidable u.IsRange :=
  inferInstanceAs (Decidable (_ ∧ _))

instance (u : Update) (slot : Nat) : Decidable (u.Covers slot) :=
  inferInstanceAs (Decidable (_ ∧ _))

end Update

/-- Asks a slot map for a change. -/
def update (m : SlotMap) : Update → Except Failure SlotMap
  | .assign a b node => m.assign a b node
  | .assignSlot slot node => m.assignSlot slot node
  | .remove a b => m.remove a b

/-- The map after a change, which is the map before if the change was refused. -/
def enter (m : SlotMap) (u : Update) : SlotMap :=
  match m.update u with
  | .ok m => m
  | .error _ => m

/-- The map after a history of changes that began with the empty one. -/
def ofHistory (us : List Update) : SlotMap :=
  us.foldl enter empty

/-- The entry of a slot in a plain table: what the last accepted change that covers the
slot says. -/
def tableEntry (us : List Update) (slot : Nat) : Option Address :=
  (us.filter fun u => u.IsRange ∧ u.Covers slot).getLast?.bind Update.owner

variable {m m' : SlotMap} {u : Update} {us : List Update} {slot : Nat} {d : Address}

/-- A change is accepted exactly when it is about a range of slots. -/
theorem exists_update_eq_ok : (∃ m', m.update u = .ok m') ↔ u.IsRange := by
  cases u with
  | assign a b node =>
      exact ⟨fun ⟨_, h⟩ => (assign_eq_ok.mp h).1, fun h => ⟨_, assign_eq_ok.mpr ⟨h, rfl⟩⟩⟩
  | assignSlot slot node =>
      exact ⟨fun ⟨_, h⟩ => (assign_eq_ok.mp h).1, fun h => ⟨_, assign_eq_ok.mpr ⟨h, rfl⟩⟩⟩
  | remove a b =>
      exact ⟨fun ⟨_, h⟩ => (remove_eq_ok.mp h).1, fun h => ⟨_, remove_eq_ok.mpr ⟨h, rfl⟩⟩⟩

theorem enter_of_ok (h : m.update u = .ok m') : m.enter u = m' := by
  simp only [enter, h]

/-- A change that is refused leaves the map as it is. -/
theorem enter_of_not_isRange (h : ¬u.IsRange) : m.enter u = m := by
  unfold enter
  split
  · rename_i m' hok
    exact absurd (exists_update_eq_ok.mp ⟨m', hok⟩) h
  · rfl

/-- One change: the slots that it is about get its owner and the others keep theirs. -/
theorem Canonical.update (h : m.Canonical) (hok : m.update u = .ok m') :
    m'.Canonical ∧ ∀ slot d, SlotRange.Owns m'.ranges slot d ↔
      u.Covers slot ∧ u.owner = some d ∨ SlotRange.Owns m.ranges slot d ∧ ¬u.Covers slot := by
  cases u with
  | assign a b node =>
      obtain ⟨hcanonical, howns⟩ := h.assign hok
      refine ⟨hcanonical, fun slot d => (howns slot d).trans ?_⟩
      simp [Update.Covers, Update.first, Update.last, Update.owner]
  | assignSlot s node =>
      obtain ⟨hcanonical, howns⟩ := h.assign hok
      refine ⟨hcanonical, fun slot d => (howns slot d).trans ?_⟩
      simp [Update.Covers, Update.first, Update.last, Update.owner]
  | remove a b =>
      obtain ⟨⟨hab, -⟩, rfl⟩ := remove_eq_ok.mp hok
      obtain ⟨hcanonical, howns⟩ := h.carve hab
      refine ⟨hcanonical, fun slot d => (howns slot d).trans ?_⟩
      simp [Update.Covers, Update.first, Update.last, Update.owner]

theorem Canonical.enter (h : m.Canonical) (u : Update) : (m.enter u).Canonical := by
  by_cases hrange : u.IsRange
  · obtain ⟨m', hok⟩ := exists_update_eq_ok.mpr hrange
    rw [enter_of_ok hok]
    exact (h.update hok).1
  · rwa [enter_of_not_isRange hrange]

theorem ofHistory_append : ofHistory (us ++ [u]) = (ofHistory us).enter u := by
  rw [ofHistory, List.foldl_append]
  rfl

theorem canonical_ofHistory (us : List Update) : (ofHistory us).Canonical := by
  induction us using List.reverseRecOn with
  | nil => exact canonical_empty
  | append_singleton us u ih =>
      rw [ofHistory_append]
      exact ih.enter u

/-! ## The plain table -/

theorem tableEntry_append_of_covers (hrange : u.IsRange) (hcovers : u.Covers slot) :
    tableEntry (us ++ [u]) slot = u.owner := by
  simp [tableEntry, List.filter_append, hrange, hcovers]

theorem tableEntry_append_of_not (h : ¬(u.IsRange ∧ u.Covers slot)) :
    tableEntry (us ++ [u]) slot = tableEntry us slot := by
  simp [tableEntry, List.filter_append, h]

/-- The ranges hold what the table says. -/
theorem owns_ofHistory (us : List Update) (slot : Nat) (d : Address) :
    SlotRange.Owns (ofHistory us).ranges slot d ↔ tableEntry us slot = some d := by
  induction us using List.reverseRecOn with
  | nil => simp [ofHistory, empty, tableEntry, SlotRange.Owns]
  | append_singleton us u ih =>
      rw [ofHistory_append]
      by_cases hrange : u.IsRange
      · obtain ⟨m', hok⟩ := exists_update_eq_ok.mpr hrange
        rw [enter_of_ok hok, ((canonical_ofHistory us).update hok).2 slot d, ih]
        by_cases hcovers : u.Covers slot
        · simp [tableEntry_append_of_covers hrange hcovers, hcovers]
        · have hsame : tableEntry (us ++ [u]) slot = tableEntry us slot :=
            tableEntry_append_of_not fun h => hcovers h.2
          simp [hsame, hcovers]
      · rw [enter_of_not_isRange hrange, ih, tableEntry_append_of_not fun h => hrange h.1]

/-- **A slot map is a plain table.** After any history of changes a slot belongs to the
node that the last accepted change to cover it gave it to, whatever its label, and to
nobody if that change took it away or there was none; no slot beyond the last one belongs
to anybody. A change is accepted exactly when it is about a range of slots, and a change
that is refused leaves the map as it was. -/
theorem ofHistory_refines_table (us : List Update) :
    (∀ slot, ((ofHistory us).lookup slot).map Node.toAddress = tableEntry us slot) ∧
      (∀ slot, Slot.last < slot → (ofHistory us).lookup slot = none) ∧
      ∀ u : Update,
        ((∃ m', (ofHistory us).update u = .ok m') ↔ u.first ≤ u.last ∧ u.last ≤ Slot.last) ∧
          ((∃ e, (ofHistory us).update u = .error e) → ofHistory (us ++ [u]) = ofHistory us) := by
  have hcanonical := canonical_ofHistory us
  refine ⟨fun slot => ?_, fun slot => lookup_beyond hcanonical, fun u => ⟨?_, ?_⟩⟩
  · refine Option.ext fun d => ?_
    rw [lookup_address hcanonical, owns_ofHistory]
  · exact exists_update_eq_ok
  · rintro ⟨e, herror⟩
    rw [ofHistory_append]
    simp only [enter, herror]

/-- A change in the middle of a range splits it, and a gap between equal owners closes. -/
example :
    let a : Node := { host := "a", port := 1 }
    let b : Node := { host := "b", port := 1, label := some "second" }
    let split := ofHistory [.assign 0 9 a, .assignSlot 4 b]
    split.ranges = [⟨0, 3, a⟩, ⟨4, 4, b⟩, ⟨5, 9, a⟩] ∧ split.lookup 4 = some b ∧
      (ofHistory [.assign 0 9 a, .assignSlot 4 b, .remove 4 4, .assignSlot 4 a]).ranges =
        [⟨0, 9, a⟩] := by
  decide

end SlotMap

end RespClient
