import RespClient.Proofs.Ring.History
import RespClient.Proofs.Ring.Layout

/-!
# Membership through changes

A ring that is laid out stays laid out. A member stays one until it is removed itself, and the
owner of a key is always a member.
-/

namespace RespClient.Ring

variable {r r' : Ring} {node x : Node} {weight : Nat} {key : Bytes}

theorem exists_mem_reweigh {members : List (Node × Nat)} {m : Node × Nat} (hm : m ∈ members) :
    ∃ m' ∈ reweigh node weight members, m'.1 = m.1 := by
  induction members with
  | nil => cases hm
  | cons first rest ih =>
      obtain ⟨member, w⟩ := first
      rw [reweigh]
      rcases List.mem_cons.mp hm with rfl | hm
      · split
        · exact ⟨_, List.mem_cons_self, rfl⟩
        · exact ⟨_, List.mem_cons_self, rfl⟩
      · split
        · exact ⟨m, List.mem_cons_of_mem _ hm, rfl⟩
        · obtain ⟨m', hm', hsame⟩ := ih hm
          exact ⟨m', List.mem_cons_of_mem _ hm', hsame⟩

theorem add_eq_ok (h : r.add node weight = .ok r') :
    r' = r.withMembers (reweigh node weight r.members) := by
  unfold add at h
  split at h
  · cases h
  · cases h
    rfl

theorem add_laid (h : r.add node weight = .ok r') : r'.owned = layout r'.base r'.members := by
  obtain rfl := add_eq_ok h
  rfl

/-- Adding a member removes none. -/
theorem hasMember_add (h : r.add node weight = .ok r') (hx : r.hasMember x = true) :
    r'.hasMember x = true := by
  obtain rfl := add_eq_ok h
  obtain ⟨m, hm, haddress⟩ := hasMember_iff.mp hx
  obtain ⟨m', hm', hsame⟩ := exists_mem_reweigh hm
  exact hasMember_iff.mpr ⟨m', hm', by rw [hsame, haddress]⟩

theorem remove_laid (hlaid : r.owned = layout r.base r.members) :
    (r.remove node).owned = layout (r.remove node).base (r.remove node).members := by
  obtain ⟨hbase, howned⟩ := enter_laid (.remove node) hlaid
  have hremove : r.enter (.remove node) = r.remove node := rfl
  rw [hremove] at hbase howned
  rw [howned, hbase]

/-- Of the members one is gone after its removal. -/
theorem hasMember_remove :
    (r.remove node).hasMember x = true ↔ r.hasMember x = true ∧ x.toAddress ≠ node.toAddress := by
  rw [hasMember_iff, hasMember_iff, members_remove]
  have hsame : ∀ m : Node × Nat, (!m.1.same node) = true ↔ m.1.toAddress ≠ node.toAddress := by
    intro m
    rw [Bool.not_eq_true', ← Bool.not_eq_true, same_iff]
  constructor
  · rintro ⟨m, hm, haddress⟩
    obtain ⟨hm, hne⟩ := List.mem_filter.mp hm
    exact ⟨⟨m, hm, haddress⟩, haddress ▸ (hsame m).mp hne⟩
  · rintro ⟨⟨m, hm, haddress⟩, hne⟩
    exact ⟨m, List.mem_filter.mpr ⟨hm, (hsame m).mpr (haddress ▸ hne)⟩, haddress⟩

theorem get_eq_error {e : Failure} (h : r.get key = .error e) : e = .emptyRing := by
  unfold get ownerOf at h
  split at h <;> cases h
  rfl

/-- The owner of a key is a member. -/
theorem hasMember_of_get (hlaid : r.owned = layout r.base r.members)
    (h : r.get key = .ok node) : r.hasMember node = true := by
  obtain ⟨m, hm, rfl⟩ := mem_of_ownerOf hlaid h
  exact hasMember_iff.mpr ⟨m, hm, rfl⟩

end RespClient.Ring
