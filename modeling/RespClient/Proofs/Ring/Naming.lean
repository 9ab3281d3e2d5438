import RespClient.Proofs.Node.Address
import RespClient.Ring.Points

/-!
# Names of virtual nodes

The points of a virtual node are the digest of its name: the address of a node, a dash and an
index. A host may hold dashes, digits, colons and brackets as it pleases, so neither separator
need be the only one of its kind. What stands behind it tells it apart: an index has no dash in
it and a port no colon. So whatever brings two virtual nodes to one point, it is not their names.
-/

namespace RespClient

namespace Text

variable {α : Type} {separator : α} {front front' last last' : List α}

/-- A text is cut in one way into what stands before a separator and a last part without one. -/
theorem append_cons_inj_of_last (hlast : separator ∉ last) (hlast' : separator ∉ last') :
    front ++ separator :: last = front' ++ separator :: last' ↔ front = front' ∧ last = last' := by
  -- the longer of the two fronts would bring a separator into the other last part
  have hcut : ∀ {last : List α} (more last' : List α), separator ∉ last →
      separator :: last = more ++ separator :: last' → more = [] ∧ last = last' := by
    intro last more last' hlast h
    cases more with
    | nil => exact ⟨rfl, (List.cons.inj h).2⟩
    | cons x more =>
        refine absurd ?_ hlast
        rw [(List.cons.inj h).2]
        simp
  constructor
  · intro h
    rcases List.append_eq_append_iff.mp h with ⟨more, rfl, hmore⟩ | ⟨more, rfl, hmore⟩
    · obtain ⟨rfl, rfl⟩ := hcut more last' hlast hmore
      exact ⟨(List.append_nil front).symm, rfl⟩
    · obtain ⟨rfl, rfl⟩ := hcut more last hlast' hmore
      exact ⟨List.append_nil front', rfl⟩
  · rintro ⟨rfl, rfl⟩
    rfl

end Text

namespace Ring

variable {name name' : String} {i j : Nat}

theorem toList_virtualName (name : String) (i : Nat) :
    (virtualName name i).toList = name.toList ++ '-' :: Numeral.natChars i := by
  simp [virtualName, Numeral.natText]

/-- Whatever the names, the last dash is the one in front of the index. -/
theorem virtualName_inj : virtualName name i = virtualName name' j ↔ name = name' ∧ i = j := by
  have hdash : ∀ n, '-' ∉ Numeral.natChars n := Numeral.notMem_natChars (by decide)
  rw [← String.toList_inj, toList_virtualName, toList_virtualName,
    Text.append_cons_inj_of_last (hdash i) (hdash j), String.toList_inj]
  refine and_congr_right fun _ => ⟨fun h => ?_, fun h => by rw [h]⟩
  exact Numeral.natBytes_injective (congrArg (List.map Numeral.byteOf) h)

/-- **Names of virtual nodes never collide.** Nodes are the same exactly where their addresses
read the same, and two names are digested from the same bytes exactly where they are those of
the same node with the same index. -/
theorem virtualNames_apart (a b : Node) (i j : Nat) :
    (a.text = b.text ↔ a.same b = true) ∧
      (Utf8.encode (virtualName a.text i) = Utf8.encode (virtualName b.text j) ↔
        a.same b = true ∧ i = j) := by
  have haddress : a.text = b.text ↔ a.same b = true := by
    rw [Node.same, beq_iff_eq]
    exact ⟨Address.text_injective, fun h => by rw [h]⟩
  exact ⟨haddress, by rw [Utf8.encode_inj, virtualName_inj, haddress]⟩

end Ring

end RespClient
