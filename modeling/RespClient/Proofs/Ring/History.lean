import RespClient.Ring.Basic
import Mathlib.Data.List.Induction

/-!
# Members of a ring and how they joined

The members of a ring are what a history of changes left: of all accepted changes that name
an address the last one says whether it is a member and with which weight. They stand in the
order in which they joined. Another weight is no new start, but who was removed and comes
back stands behind all others.
-/

namespace RespClient.Ring

/-- A change that is asked of a ring. -/
inductive Change
  | add (node : Node) (weight : Nat)
  | remove (node : Node)

namespace Change

/-- The address that a change names. -/
def address : Change → Address
  | .add node _ | .remove node => node.toAddress

/-- The weight that the address has afterwards, if it is a member. -/
def weight? : Change → Option Nat
  | .add _ weight => some weight
  | .remove _ => none

/-- Members have positive weights. -/
def IsAccepted : Change → Prop
  | .add _ weight => 0 < weight
  | .remove _ => True

instance : (c : Change) → Decidable c.IsAccepted
  | .add _ weight => inferInstanceAs (Decidable (0 < weight))
  | .remove _ => inferInstanceAs (Decidable True)

end Change

/-- Asks a ring for a change. -/
def change (r : Ring) : Change → Except Failure Ring
  | .add node weight => r.add node weight
  | .remove node => .ok (r.remove node)

/-- The ring after a change, which is the ring before if the change was refused. -/
def enter (r : Ring) (c : Change) : Ring :=
  match r.change c with
  | .ok r => r
  | .error _ => r

/-- The ring after a history of changes that began with the empty one. -/
def ofHistory (base : Nat) (cs : List Change) : Ring :=
  cs.foldl enter (empty base)

/-- The weight of an address: what the last accepted change that names it says. -/
def weightOf (cs : List Change) (a : Address) : Option Nat :=
  (cs.filter fun c => c.IsAccepted ∧ c.address = a).getLast?.bind Change.weight?

/-- The node became a member by the change at a place: its address was none before, and it
was not removed since. -/
structure Joins (cs : List Change) (place : Nat) (node : Node) : Prop where
  added : ∃ weight, cs[place]? = some (.add node weight) ∧ 0 < weight
  new : weightOf (cs.take place) node.toAddress = none
  stays : ∀ later other, place < later → cs[later]? = some (.remove other) →
    other.toAddress ≠ node.toAddress

variable {base : Nat} {cs : List Change} {c : Change} {a : Address} {node : Node}
  {weight place : Nat} {r : Ring} {members : List (Node × Nat)}

theorem ofHistory_append : ofHistory base (cs ++ [c]) = (ofHistory base cs).enter c := by
  rw [ofHistory, List.foldl_append]
  rfl

/-! ## The last word on an address -/

theorem weightOf_append (haccepted : c.IsAccepted) :
    weightOf (cs ++ [c]) c.address = c.weight? := by
  simp [weightOf, List.filter_append, haccepted]

theorem weightOf_append_of_ne (c : Change) (hother : c.address ≠ a) :
    weightOf (cs ++ [c]) a = weightOf cs a := by
  simp [weightOf, List.filter_append, hother]

theorem weightOf_append_of_refused (hrefused : ¬c.IsAccepted) :
    weightOf (cs ++ [c]) a = weightOf cs a := by
  simp [weightOf, List.filter_append, hrefused]

theorem weightOf_append_add (hweight : 0 < weight) :
    weightOf (cs ++ [.add node weight]) node.toAddress = some weight :=
  weightOf_append (c := .add node weight) hweight

theorem weightOf_append_remove : weightOf (cs ++ [.remove node]) node.toAddress = none :=
  weightOf_append (c := .remove node) trivial

theorem weightOf_pos (h : weightOf cs a = some weight) : 0 < weight := by
  obtain ⟨c, hlast, hweight⟩ := Option.bind_eq_some_iff.mp h
  have hc := (List.mem_filter.mp (List.mem_of_getLast? hlast)).2
  have haccepted : c.IsAccepted := (of_decide_eq_true hc).1
  cases c with
  | add node w =>
      cases hweight
      exact haccepted
  | remove node => cases hweight

/-! ## Joining -/

theorem Joins.lt (h : Joins cs place node) : place < cs.length := by
  obtain ⟨w, hadd, -⟩ := h.added
  exact (List.getElem?_eq_some_iff.mp hadd).1

/-- Who joined stays where it is unless it is removed. -/
theorem Joins.append (h : Joins cs place node)
    (hkeeps : ∀ other, c = .remove other → other.toAddress ≠ node.toAddress) :
    Joins (cs ++ [c]) place node := by
  have hplace := h.lt
  constructor
  · rw [List.getElem?_append_left hplace]
    exact h.added
  · rw [List.take_append_of_le_length (Nat.le_of_lt hplace)]
    exact h.new
  · -- of the changes behind its place only the last one is new
    intro later other hlater hremove
    by_cases hinside : later < cs.length
    · rw [List.getElem?_append_left hinside] at hremove
      exact h.stays later other hlater hremove
    · rw [List.getElem?_append_right (Nat.not_lt.mp hinside)] at hremove
      exact hkeeps other (List.mem_singleton.mp (List.mem_of_getElem? hremove)).symm

theorem joins_last (hnew : weightOf cs node.toAddress = none) (hweight : 0 < weight) :
    Joins (cs ++ [.add node weight]) cs.length node := by
  constructor
  · exact ⟨weight, by simp, hweight⟩
  · rw [List.take_left]
    exact hnew
  · intro later other hlater hremove
    have hend := (List.getElem?_eq_some_iff.mp hremove).1
    rw [List.length_append, List.length_singleton] at hend
    omega

/-! ## What a change does to the members -/

theorem same_iff {other : Node} : node.same other = true ↔ node.toAddress = other.toAddress :=
  beq_iff_eq

theorem hasMember_iff :
    r.hasMember node = true ↔ ∃ m ∈ r.members, m.1.toAddress = node.toAddress := by
  unfold hasMember
  simp only [List.any_eq_true, same_iff]

theorem reweigh_of_new (hnew : ∀ m ∈ members, m.1.toAddress ≠ node.toAddress) :
    reweigh node weight members = members ++ [(node, weight)] := by
  induction members with
  | nil => rfl
  | cons m rest ih =>
      obtain ⟨other, w⟩ := m
      have hother : other.same node ≠ true := fun hsame =>
        hnew (other, w) List.mem_cons_self (same_iff.mp hsame)
      rw [reweigh, if_neg hother, ih fun m hm => hnew m (List.mem_cons_of_mem _ hm)]
      rfl

/-- A member keeps its place and its label when its weight changes. -/
theorem reweigh_of_member (hdistinct : members.Pairwise fun m m' => m.1.toAddress ≠ m'.1.toAddress)
    (hmember : ∃ m ∈ members, m.1.toAddress = node.toAddress) :
    reweigh node weight members =
      members.map fun m => (m.1, if m.1.toAddress = node.toAddress then weight else m.2) := by
  induction members with
  | nil =>
      obtain ⟨m, hm, -⟩ := hmember
      cases hm
  | cons m rest ih =>
      obtain ⟨other, w⟩ := m
      obtain ⟨hfirst, hrest⟩ := List.pairwise_cons.mp hdistinct
      rw [reweigh, List.map_cons]
      by_cases hsame : other.toAddress = node.toAddress
      · -- no member behind this one has its address
        have hkept : ∀ m ∈ rest,
            (m.1, if m.1.toAddress = node.toAddress then weight else m.2) = m := by
          intro m hm
          rw [if_neg fun heq => hfirst m hm (hsame.trans heq.symm)]
        rw [if_pos (same_iff.mpr hsame), List.map_congr_left hkept, List.map_id', if_pos hsame]
      · rw [if_neg fun h => hsame (same_iff.mp h), if_neg hsame, ih hrest ?_]
        obtain ⟨m, hm, hnode⟩ := hmember
        rcases List.mem_cons.mp hm with rfl | hm
        · exact absurd hnode hsame
        · exact ⟨m, hm, hnode⟩

theorem members_remove (r : Ring) (node : Node) :
    (r.remove node).members = r.members.filter fun m => !m.1.same node := by
  unfold remove
  split
  · rfl
  · rename_i hnone
    refine (List.filter_eq_self.mpr fun m hm => ?_).symm
    have hnot := List.any_eq_false.mp (Bool.eq_false_iff.mpr hnone) m hm
    simpa using hnot

theorem add_zero (r : Ring) (node : Node) : r.add node 0 =
    .error (.invalidArgument ("ring weight for " ++ node.text ++ " must be positive")) := rfl

theorem add_of_pos (r : Ring) (node : Node) (hweight : 0 < weight) :
    r.add node weight = .ok (r.withMembers (reweigh node weight r.members)) :=
  if_neg (Nat.ne_of_gt hweight)

theorem enter_add (hweight : 0 < weight) :
    r.enter (.add node weight) = r.withMembers (reweigh node weight r.members) := by
  have hadd : r.change (.add node weight) = .ok (r.withMembers (reweigh node weight r.members)) :=
    add_of_pos r node hweight
  rw [enter, hadd]

/-- A change keeps the ring laid out for its members. -/
theorem enter_laid (c : Change) (hlaid : r.owned = layout r.base r.members) :
    (r.enter c).base = r.base ∧ (r.enter c).owned = layout r.base (r.enter c).members := by
  cases c with
  | add node weight =>
      by_cases hweight : 0 < weight
      · rw [enter_add hweight]
        exact ⟨rfl, rfl⟩
      · obtain rfl := Nat.eq_zero_of_not_pos hweight
        exact ⟨rfl, hlaid⟩
  | remove node =>
      show (r.remove node).base = r.base ∧
        (r.remove node).owned = layout r.base (r.remove node).members
      unfold remove
      split
      · exact ⟨rfl, rfl⟩
      · exact ⟨rfl, hlaid⟩

theorem layout_nil (base : Nat) : layout base [] = [] := by
  simp [layout, allContributed, firstOfEach]

/-- After every history the ring is laid out for the members that it has. -/
theorem ofHistory_laid (base : Nat) (cs : List Change) :
    (ofHistory base cs).base = base ∧
      (ofHistory base cs).owned = layout base (ofHistory base cs).members := by
  induction cs using List.reverseRecOn with
  | nil => exact ⟨rfl, (layout_nil base).symm⟩
  | append_singleton cs c ih =>
      obtain ⟨hbase, hlaid⟩ := ih
      rw [ofHistory_append]
      have hlaid : (ofHistory base cs).owned =
          layout (ofHistory base cs).base (ofHistory base cs).members := by rw [hbase, hlaid]
      obtain ⟨hbase', hlaid'⟩ := enter_laid c hlaid
      rw [hbase', hlaid', hbase]
      exact ⟨rfl, rfl⟩

/-! ## The members after a history -/

/-- The members are those that the history says, each once, in the order in which they
joined. -/
structure Enrolled (cs : List Change) (members : List (Node × Nat)) : Prop where
  weights : ∀ a weight,
    weightOf cs a = some weight ↔ ∃ m ∈ members, m.1.toAddress = a ∧ m.2 = weight
  distinct : members.Pairwise fun m m' => m.1.toAddress ≠ m'.1.toAddress
  positive : ∀ m ∈ members, 0 < m.2
  joined : ∀ m ∈ members, ∃ place, Joins cs place m.1
  order : members.Pairwise fun m m' =>
    ∃ place place', place < place' ∧ Joins cs place m.1 ∧ Joins cs place' m'.1

namespace Enrolled

theorem of_parts
    (hweights : ∀ a weight,
      weightOf cs a = some weight ↔ ∃ m ∈ members, m.1.toAddress = a ∧ m.2 = weight)
    (hdistinct : members.Pairwise fun m m' => m.1.toAddress ≠ m'.1.toAddress)
    (hjoined : ∀ m ∈ members, ∃ place, Joins cs place m.1)
    (horder : members.Pairwise fun m m' =>
      ∃ place place', place < place' ∧ Joins cs place m.1 ∧ Joins cs place' m'.1) :
    Enrolled cs members :=
  ⟨hweights, hdistinct, fun m hm => weightOf_pos ((hweights _ _).mpr ⟨m, hm, rfl, rfl⟩), hjoined,
    horder⟩

theorem weightOf_eq_none (h : Enrolled cs members) :
    weightOf cs a = none ↔ ∀ m ∈ members, m.1.toAddress ≠ a := by
  rw [Option.eq_none_iff_forall_not_mem]
  constructor
  · exact fun hnone m hm ha => hnone m.2 ((h.weights a m.2).mpr ⟨m, hm, ha, rfl⟩)
  · intro hnone weight hweight
    obtain ⟨m, hm, ha, -⟩ := (h.weights a weight).mp hweight
    exact hnone m hm ha

/-- A change that removes none of these members leaves the order in which they joined. -/
theorem order_append (h : Enrolled cs members)
    (hkeeps : ∀ m ∈ members, ∀ other, c = .remove other → other.toAddress ≠ m.1.toAddress) :
    (∀ m ∈ members, ∃ place, Joins (cs ++ [c]) place m.1) ∧
      members.Pairwise fun m m' => ∃ place place', place < place' ∧
        Joins (cs ++ [c]) place m.1 ∧ Joins (cs ++ [c]) place' m'.1 := by
  constructor
  · intro m hm
    obtain ⟨place, hjoins⟩ := h.joined m hm
    exact ⟨place, hjoins.append (hkeeps m hm)⟩
  · refine h.order.imp_of_mem fun {m m'} hm hm' hplaces => ?_
    obtain ⟨place, place', hlt, hjoins, hjoins'⟩ := hplaces
    exact ⟨place, place', hlt, hjoins.append (hkeeps m hm), hjoins'.append (hkeeps m' hm')⟩

/-- A change that is refused is no part of the history. -/
theorem refuse (h : Enrolled cs members) : Enrolled (cs ++ [.add node 0]) members := by
  obtain ⟨hjoined, horder⟩ := h.order_append (c := .add node 0) (by rintro m - other ⟨⟩)
  refine of_parts (fun a weight => ?_) h.distinct hjoined horder
  rw [weightOf_append_of_refused (c := .add node 0) (Nat.lt_irrefl 0)]
  exact h.weights a weight

/-- A new member goes behind the others. -/
theorem join (h : Enrolled cs members) (hweight : 0 < weight)
    (hnew : ∀ m ∈ members, m.1.toAddress ≠ node.toAddress) :
    Enrolled (cs ++ [.add node weight]) (members ++ [(node, weight)]) := by
  obtain ⟨hjoined, horder⟩ := h.order_append (c := .add node weight) (by rintro m - other ⟨⟩)
  have hlast := joins_last (h.weightOf_eq_none.mpr hnew) hweight
  -- the new member is the only one whose joining the new change is
  refine of_parts (fun a w => ?_) ?_ (fun m hm => ?_) ?_
  · by_cases ha : node.toAddress = a
    · subst ha
      rw [weightOf_append_add hweight]
      constructor
      · rintro ⟨⟩
        exact ⟨(node, weight), by simp, rfl, rfl⟩
      · rintro ⟨m, hm, hsame, rfl⟩
        rcases List.mem_append.mp hm with hm | hm
        · exact absurd hsame (hnew m hm)
        · rw [List.mem_singleton.mp hm]
    · rw [weightOf_append_of_ne (.add node weight) ha, h.weights a w]
      constructor
      · rintro ⟨m, hm, hsame⟩
        exact ⟨m, List.mem_append_left _ hm, hsame⟩
      · rintro ⟨m, hm, hsame, hw⟩
        rcases List.mem_append.mp hm with hm | hm
        · exact ⟨m, hm, hsame, hw⟩
        · rw [List.mem_singleton.mp hm] at hsame
          exact absurd hsame ha
  · refine List.pairwise_append.mpr ⟨h.distinct, List.pairwise_singleton _ _, ?_⟩
    intro m hm m' hm'
    rw [List.mem_singleton.mp hm']
    exact hnew m hm
  · rcases List.mem_append.mp hm with hm | hm
    · exact hjoined m hm
    · rw [List.mem_singleton.mp hm]
      exact ⟨_, hlast⟩
  · refine List.pairwise_append.mpr ⟨horder, List.pairwise_singleton _ _, ?_⟩
    intro m hm m' hm'
    obtain ⟨place, hjoins⟩ := h.joined m hm
    rw [List.mem_singleton.mp hm']
    exact ⟨place, cs.length, hjoins.lt, hjoins.append (by rintro other ⟨⟩), hlast⟩

/-- Another weight moves no member. -/
theorem reweigh (h : Enrolled cs members) (hweight : 0 < weight)
    (hmember : ∃ m ∈ members, m.1.toAddress = node.toAddress) :
    Enrolled (cs ++ [.add node weight])
      (members.map fun m => (m.1, if m.1.toAddress = node.toAddress then weight else m.2)) := by
  obtain ⟨hjoined, horder⟩ := h.order_append (c := .add node weight) (by rintro m - other ⟨⟩)
  refine of_parts (fun a w => ?_) ?_ (fun m' hm' => ?_) ?_
  · by_cases ha : node.toAddress = a
    · subst ha
      rw [weightOf_append_add hweight]
      constructor
      · rintro ⟨⟩
        obtain ⟨m, hm, hsame⟩ := hmember
        exact ⟨_, List.mem_map_of_mem hm, hsame, if_pos hsame⟩
      · rintro ⟨m', hm', hsame, rfl⟩
        obtain ⟨m, -, rfl⟩ := List.mem_map.mp hm'
        dsimp only at hsame
        rw [if_pos hsame]
    · rw [weightOf_append_of_ne (.add node weight) ha, h.weights a w]
      -- members with another address are as they were
      have hother : ∀ m : Node × Nat, m.1.toAddress = a → m.1.toAddress ≠ node.toAddress :=
        fun m hm heq => ha (heq.symm.trans hm)
      constructor
      · rintro ⟨m, hm, hsame, hw⟩
        exact ⟨_, List.mem_map_of_mem hm, hsame, (if_neg (hother m hsame)).trans hw⟩
      · rintro ⟨m', hm', hsame, hw⟩
        obtain ⟨m, hm, rfl⟩ := List.mem_map.mp hm'
        exact ⟨m, hm, hsame, (if_neg (hother m hsame)).symm.trans hw⟩
  · exact List.pairwise_map.mpr h.distinct
  · obtain ⟨m, hm, rfl⟩ := List.mem_map.mp hm'
    exact hjoined m hm
  · exact List.pairwise_map.mpr horder

theorem leave (h : Enrolled cs members) :
    Enrolled (cs ++ [.remove node]) (members.filter fun m => !m.1.same node) := by
  have hmem : ∀ {m}, m ∈ members.filter (fun m => !m.1.same node) ↔
      m ∈ members ∧ m.1.toAddress ≠ node.toAddress := by
    intro m
    rw [List.mem_filter, Bool.not_eq_true', ← Bool.not_eq_true, same_iff]
  have hkeeps : ∀ {m}, m ∈ members.filter (fun m => !m.1.same node) →
      ∀ other, Change.remove node = .remove other → other.toAddress ≠ m.1.toAddress := by
    rintro m hm other ⟨⟩
    exact (hmem.mp hm).2.symm
  refine of_parts (fun a w => ?_) (h.distinct.filter _) (fun m hm => ?_) ?_
  · by_cases ha : node.toAddress = a
    · subst ha
      rw [weightOf_append_remove]
      constructor
      · rintro ⟨⟩
      · rintro ⟨m, hm, hsame, -⟩
        exact absurd hsame (hmem.mp hm).2
    · rw [weightOf_append_of_ne (.remove node) ha, h.weights a w]
      constructor
      · rintro ⟨m, hm, hsame, hw⟩
        exact ⟨m, hmem.mpr ⟨hm, fun heq => ha (heq.symm.trans hsame)⟩, hsame, hw⟩
      · rintro ⟨m, hm, hsame, hw⟩
        exact ⟨m, (hmem.mp hm).1, hsame, hw⟩
  · obtain ⟨place, hjoins⟩ := h.joined m (hmem.mp hm).1
    exact ⟨place, hjoins.append (hkeeps hm)⟩
  · refine (h.order.filter _).imp_of_mem fun {m m'} hm hm' hplaces => ?_
    obtain ⟨place, place', hlt, hjoins, hjoins'⟩ := hplaces
    exact ⟨place, place', hlt, hjoins.append (hkeeps hm), hjoins'.append (hkeeps hm')⟩

/-- Every change keeps the members in accord with the history. -/
theorem enter (h : Enrolled cs r.members) (c : Change) :
    Enrolled (cs ++ [c]) (r.enter c).members := by
  cases c with
  | remove node =>
      show Enrolled _ (r.remove node).members
      rw [members_remove]
      exact h.leave
  | add node weight =>
      by_cases hweight : 0 < weight
      · rw [enter_add hweight]
        show Enrolled _ (Ring.reweigh node weight r.members)
        by_cases hmember : ∃ m ∈ r.members, m.1.toAddress = node.toAddress
        · rw [reweigh_of_member h.distinct hmember]
          exact h.reweigh hweight hmember
        · have hnew : ∀ m ∈ r.members, m.1.toAddress ≠ node.toAddress :=
            fun m hm hsame => hmember ⟨m, hm, hsame⟩
          rw [reweigh_of_new hnew]
          exact h.join hweight hnew
      · obtain rfl := Nat.eq_zero_of_not_pos hweight
        exact h.refuse

end Enrolled

theorem ofHistory_enrolled (base : Nat) (cs : List Change) :
    Enrolled cs (ofHistory base cs).members := by
  induction cs using List.reverseRecOn with
  | nil =>
      refine .of_parts (fun a weight => ?_) List.Pairwise.nil (by rintro m ⟨⟩) List.Pairwise.nil
      simp [weightOf, ofHistory, empty]
  | append_singleton cs c ih =>
      rw [ofHistory_append]
      exact ih.enter c

end RespClient.Ring
