import Mathlib
import RespClient.Power
import RespClient.Proofs.Ring.Placement

/-!
# What moves when a member leaves or joins

While all members have one weight, each has the same share however many they are, so a member
contributes the same points before and after another one leaves. Only the points of the one who
leaves are lost: what belonged to another member had its nearest point from it, which stays the
nearest and stays first among equal ones. Joining is leaving read backwards.
-/

namespace RespClient.Ring

variable {base weight : Nat} {members : List (Node × Nat)} {m : Node × Nat} {node : Node}
  {h p : UInt32} {r r' : Ring} {cs : List Change} {keep : Node → Bool}

/-- The members who stay. -/
def staying (keep : Node → Bool) (members : List (Node × Nat)) : List (Node × Nat) :=
  members.filter fun m => keep m.1

theorem mem_staying : m ∈ staying keep members ↔ m ∈ members ∧ keep m.1 = true :=
  List.mem_filter

/-- The members have one weight, and the products that give their shares fit into 64 bits. -/
structure Even (base weight : Nat) (members : List (Node × Nat)) : Prop where
  weight_eq : ∀ m ∈ members, m.2 = weight
  product_lt : weight * members.length * base < 2 ^ 64

namespace Even

theorem fits (heven : Even base weight members) : Fits base members := by
  intro m hm
  rw [heven.weight_eq m hm]
  exact heven.product_lt

/-- Those who stay are even members as well. -/
theorem of_staying (heven : Even base weight members) (keep : Node → Bool) :
    Even base weight (staying keep members) where
  weight_eq m hm := heven.weight_eq m (mem_staying.mp hm).1
  product_lt := by
    have hlen : (staying keep members).length ≤ members.length := List.length_filter_le _ _
    have hproduct := Nat.mul_le_mul_right base (Nat.mul_le_mul_left weight hlen)
    exact Nat.lt_of_le_of_lt hproduct heven.product_lt

/-- The share of a member does not depend on how many there are. -/
theorem share_eq (heven : Even base weight members) (hm : m ∈ members) (hpositive : 0 < m.2) :
    share base members m.2 = base / 4 := by
  have hweights : ∀ w ∈ members.map (·.2), w = weight := by
    intro w hw
    obtain ⟨m', hm', rfl⟩ := List.mem_map.mp hw
    exact heven.weight_eq m' hm'
  have hsum : (members.map (·.2)).sum = weight * members.length := by
    rw [List.sum_eq_card_nsmul _ weight hweights, List.length_map, smul_eq_mul, Nat.mul_comm]
  have hsome : 0 < members.length := List.length_pos_of_mem hm
  rw [heven.weight_eq m hm] at hpositive ⊢
  rw [share, hsum, Nat.mul_comm 4, Nat.mul_div_mul_left _ _ (Nat.mul_pos hpositive hsome)]

/-- Who stays contributes what it did. -/
theorem contributes_staying (heven : Even base weight members) (hpositive : ∀ m ∈ members, 0 < m.2)
    (hm : m ∈ staying keep members) :
    Contributes base (staying keep members) m p ↔ Contributes base members m p := by
  have hmember := (mem_staying.mp hm).1
  unfold Contributes
  rw [(heven.of_staying keep).share_eq hm (hpositive m hmember),
    heven.share_eq hmember (hpositive m hmember)]

theorem isNearest_staying (heven : Even base weight members) (hpositive : ∀ m ∈ members, 0 < m.2)
    (hnearest : IsNearest base members h p) (hm : m ∈ staying keep members)
    (hcontributes : Contributes base members m p) : IsNearest base (staying keep members) h p where
  contributed := ⟨m, hm, (heven.contributes_staying hpositive hm).mpr hcontributes⟩
  least m' hm' q hq :=
    hnearest.least m' (mem_staying.mp hm').1 q
      ((heven.contributes_staying hpositive hm').mp hq)

/-- Who was the first to contribute a point is the first of those who stay. -/
theorem isFirst_staying (heven : Even base weight members) (hpositive : ∀ m ∈ members, 0 < m.2)
    (hfirst : IsFirst base members p node) (hstays : keep node = true) :
    IsFirst base (staying keep members) p node := by
  obtain ⟨before, w, after, hsplit, hcontributes, hbefore⟩ := hfirst
  have hsplit' : staying keep members =
      staying keep before ++ (node, w) :: staying keep after := by
    rw [hsplit, staying, List.filter_append, List.filter_cons_of_pos (by exact hstays)]
    rfl
  have hfirst' : (node, w) ∈ staying keep members :=
    mem_staying.mpr ⟨by rw [hsplit]; simp, hstays⟩
  have hcontributes' := (heven.contributes_staying hpositive hfirst').mpr hcontributes
  refine ⟨_, w, _, hsplit', hcontributes', fun m hm hearlier => ?_⟩
  have hm' : m ∈ staying keep members := by
    rw [hsplit']
    exact List.mem_append_left _ hm
  exact hbefore m (mem_staying.mp hm).1 ((heven.contributes_staying hpositive hm').mp hearlier)

/-- **What belonged to one who stays still belongs to it**, and what belonged to nobody still
does. -/
theorem ownerOf_staying (heven : Even r.base weight r.members)
    (hpositive : ∀ m ∈ r.members, 0 < m.2) (hbase : r'.base = r.base)
    (hmembers : r'.members = staying keep r.members)
    (hlaid : r.owned = layout r.base r.members)
    (hlaid' : r'.owned = layout r'.base r'.members) (h : UInt32) :
    r'.ownerOf h = r.ownerOf h ∨
      ∃ m ∈ r.members, keep m.1 = false ∧ r.ownerOf h = .ok m.1 := by
  have hfits' : Fits r'.base r'.members := by
    rw [hbase, hmembers]
    exact (heven.of_staying keep).fits
  rcases howner : r.ownerOf h with e | node
  · -- nobody contributes a point, so neither does one of those who stay
    obtain ⟨rfl, hnone⟩ := (ownerOf_eq_error heven.fits hlaid).mp howner
    refine .inl ((ownerOf_eq_error hfits' hlaid').mpr ⟨rfl, fun m hm p hcontributes => ?_⟩)
    rw [hmembers] at hm
    rw [hbase, hmembers, heven.contributes_staying hpositive hm] at hcontributes
    exact hnone m (mem_staying.mp hm).1 p hcontributes
  · obtain ⟨p, hnearest, hfirst⟩ := (ownerOf_eq_ok heven.fits hlaid).mp howner
    obtain ⟨m, hm, rfl, hcontributes⟩ := hfirst.contributes
    by_cases hstays : keep m.1 = true
    · refine .inl ((ownerOf_eq_ok hfits' hlaid').mpr ⟨p, ?_, ?_⟩)
      · rw [hbase, hmembers]
        exact heven.isNearest_staying hpositive hnearest (mem_staying.mpr ⟨hm, hstays⟩) hcontributes
      · rw [hbase, hmembers]
        exact heven.isFirst_staying hpositive hfirst hstays
    · exact .inr ⟨m, hm, by simpa using hstays, rfl⟩

end Even

/-! ## Leaving and joining -/

/-- A ring gives a member up, or takes a new one of some weight, and moves no more than it must.
What belonged to the one who leaves goes to others and all else stays; what moves when one joins
goes to the new member. -/
structure MovesLeast (r : Ring) (weight : Nat) : Prop where
  leave : ∀ x h, r.hasMember x = true →
    ((r.remove x).ownerOf h = r.ownerOf h ↔
      ∀ owner, r.ownerOf h = .ok owner → owner.toAddress ≠ x.toAddress)
  join : ∀ y h, r.hasMember y = false → 0 < weight →
    weight * (r.members.length + 1) * r.base < 2 ^ 64 →
      ∃ r', r.add y weight = .ok r' ∧ r'.members = r.members ++ [(y, weight)] ∧
        (r'.ownerOf h = r.ownerOf h ∨ r'.ownerOf h = .ok y)

/-- A point that is contributed belongs to the first member to contribute it. -/
theorem ownerOf_of_isFirst (hfits : Fits r.base r.members)
    (hlaid : r.owned = layout r.base r.members) (hfirst : IsFirst r.base r.members p node) :
    r.ownerOf p = .ok node := by
  obtain ⟨m, hm, -, hcontributes⟩ := hfirst.contributes
  refine (ownerOf_eq_ok hfits hlaid).mpr ⟨p, ⟨⟨m, hm, hcontributes⟩, fun m' _ q _ => ?_⟩, hfirst⟩
  rw [UInt32.sub_self]
  exact UInt32.zero_le

theorem ownerOf_remove (heven : Even r.base weight r.members)
    (hpositive : ∀ m ∈ r.members, 0 < m.2) (hlaid : r.owned = layout r.base r.members)
    (x : Node) (h : UInt32) :
    (r.remove x).ownerOf h = r.ownerOf h ↔
      ∀ owner, r.ownerOf h = .ok owner → owner.toAddress ≠ x.toAddress := by
  obtain ⟨hbase, hlaid'⟩ := enter_laid (.remove x) hlaid
  have hbase : (r.remove x).base = r.base := hbase
  have hmembers : (r.remove x).members = staying (fun node => !node.same x) r.members :=
    members_remove r x
  have hlaid' : (r.remove x).owned = layout (r.remove x).base (r.remove x).members := by
    rw [hbase]
    exact hlaid'
  constructor
  · -- who left owns nothing any more
    intro hsame owner howner hx
    have hfits' : Fits (r.remove x).base (r.remove x).members := by
      rw [hbase, hmembers]
      exact (heven.of_staying _).fits
    obtain ⟨m, hm, rfl⟩ := mem_of_ownerOf hlaid' (hsame.trans howner)
    rw [hmembers, mem_staying] at hm
    have hleft : m.1.same x = true := same_iff.mpr hx
    rw [hleft] at hm
    cases hm.2
  · intro hother
    rcases heven.ownerOf_staying hpositive hbase hmembers hlaid hlaid' h with
      hsame | ⟨m, -, hm, howner⟩
    · exact hsame
    · exact absurd (same_iff.mp (by simpa using hm)) (hother m.1 howner)

theorem ownerOf_add {y : Node} (heven : Even r.base weight r.members)
    (hlaid : r.owned = layout r.base r.members) (hnew : r.hasMember y = false) (hweight : 0 < weight)
    (hproduct : weight * (r.members.length + 1) * r.base < 2 ^ 64) (h : UInt32) :
    ∃ r', r.add y weight = .ok r' ∧ r'.members = r.members ++ [(y, weight)] ∧
      (r'.ownerOf h = r.ownerOf h ∨ r'.ownerOf h = .ok y) := by
  have hothers : ∀ m ∈ r.members, m.1.same y = false := by
    intro m hm
    rw [Bool.eq_false_iff]
    intro hsame
    rw [hasMember_iff.mpr ⟨m, hm, same_iff.mp hsame⟩] at hnew
    cases hnew
  have hmembers : reweigh y weight r.members = r.members ++ [(y, weight)] :=
    reweigh_of_new fun m hm hsame => by
      rw [← same_iff, hothers m hm] at hsame
      cases hsame
  have heven' : Even r.base weight (r.members ++ [(y, weight)]) := by
    refine ⟨fun m hm => ?_, by rwa [List.length_append, List.length_singleton]⟩
    rcases List.mem_append.mp hm with hm | hm
    · exact heven.weight_eq m hm
    · rw [List.mem_singleton.mp hm]
  have hpositive' : ∀ m ∈ r.members ++ [(y, weight)], 0 < m.2 := fun m hm => by
    rw [heven'.weight_eq m hm]
    exact hweight
  -- the old ring is what the new one would be without the new member
  have hstaying : r.members = staying (fun node => !node.same y) (r.members ++ [(y, weight)]) := by
    rw [staying, List.filter_append, List.filter_eq_self.mpr fun m hm => by simp [hothers m hm]]
    simp [same_iff]
  refine ⟨r.withMembers (r.members ++ [(y, weight)]), ?_, rfl, ?_⟩
  · rw [add_of_pos r y hweight, hmembers]
  · have hbase : r.base = (r.withMembers (r.members ++ [(y, weight)])).base := rfl
    rcases Even.ownerOf_staying (r := r.withMembers (r.members ++ [(y, weight)])) heven'
      hpositive' hbase hstaying rfl hlaid h with hsame | ⟨m, hm, hleft, howner⟩
    · exact .inl hsame.symm
    · rcases List.mem_append.mp hm with hm | hm
      · rw [hothers m hm] at hleft
        cases hleft
      · rw [List.mem_singleton.mp hm] at howner
        exact .inr howner

/-- **Leaving and joining move no more than they must.** While the members of a ring have one
weight, whatever its history was and whether points coincide or not, one who leaves hands on
what it had and nothing else moves, and what moves to make room for one who joins moves to it. -/
theorem ofHistory_movesLeast (base : Nat) (cs : List Change) (weight : Nat)
    (heven : Even base weight (ofHistory base cs).members) :
    MovesLeast (ofHistory base cs) weight := by
  obtain ⟨hbase, hlaid⟩ := ofHistory_laid base cs
  have heven' : Even (ofHistory base cs).base weight (ofHistory base cs).members := by
    rwa [hbase]
  have hlaid' : (ofHistory base cs).owned =
      layout (ofHistory base cs).base (ofHistory base cs).members := by rw [hbase, hlaid]
  have hpositive := (ofHistory_enrolled base cs).positive
  constructor
  · exact fun x h _ => ownerOf_remove heven' hpositive hlaid' x h
  · exact fun y h hnew hweight hproduct =>
      ownerOf_add heven' hlaid' hnew hweight hproduct h

/-- Two members that contribute the point `1420862699` both. -/
def coinciding : List Change :=
  [.add { host := "n42857", port := 1 } 1, .add { host := "n31978", port := 1 } 1]

/-- The point belongs to the first of them. It stays there when the second leaves, and goes to
the second when the first leaves. -/
theorem ofHistory_movesLeast_coinciding :
    Even 4 1 (ofHistory 4 coinciding).members ∧ MovesLeast (ofHistory 4 coinciding) 1 ∧
      ((ofHistory 4 coinciding).remove { host := "n31978", port := 1 }).ownerOf 1420862699 =
        .ok { host := "n42857", port := 1 } ∧
      ((ofHistory 4 coinciding).remove { host := "n42857", port := 1 }).ownerOf 1420862699 =
        .ok { host := "n31978", port := 1 } := by
  have hmembers : (ofHistory 4 coinciding).members =
      [({ host := "n42857", port := 1 }, 1), ({ host := "n31978", port := 1 }, 1)] := by decide
  have heven : Even 4 1 (ofHistory 4 coinciding).members := by
    rw [hmembers]
    exact ⟨by decide, by decide⟩
  have hmoves := ofHistory_movesLeast 4 coinciding 1 heven
  have howner : ∀ {cs : List Change} {first : Node} {rest : List (Node × Nat)},
      (ofHistory 4 cs).members = (first, 1) :: rest → Even 4 1 (ofHistory 4 cs).members →
      Contributes 4 ((first, 1) :: rest) (first, 1) 1420862699 →
        (ofHistory 4 cs).ownerOf 1420862699 = .ok first := by
    intro cs first rest hmembers heven hcontributes
    obtain ⟨hbase, hlaid⟩ := ofHistory_laid 4 cs
    have hfits : Fits (ofHistory 4 cs).base (ofHistory 4 cs).members := by
      rw [hbase]
      exact heven.fits
    refine ownerOf_of_isFirst hfits (by rw [hbase, hlaid]) ?_
    rw [hbase, hmembers]
    exact ⟨[], 1, rest, rfl, hcontributes, by rintro m ⟨⟩⟩
  refine ⟨heven, hmoves, ?_, ?_⟩
  · have hfirst := howner hmembers heven ⟨0, by decide, by decide +kernel⟩
    rw [(hmoves.leave _ _ (by decide)).mpr ?_]
    · exact hfirst
    · intro owner h
      rw [hfirst] at h
      cases h
      decide
  · have hleft : (ofHistory 4 (coinciding ++ [.remove { host := "n42857", port := 1 }])).members =
        [({ host := "n31978", port := 1 }, 1)] := by decide
    have hsecond := howner hleft (by rw [hleft]; exact ⟨by decide, by decide⟩)
      ⟨0, by decide, by decide +kernel⟩
    rwa [ofHistory_append] at hsecond

end RespClient.Ring
