import Mathlib
import RespClient.Power
import RespClient.Ring.Basic

/-!
# Who owns the points of a ring

A ring is laid out by sorting all points that its members contribute and keeping the first
of equal ones. Sorting is stable, so each point that is contributed stands there once, with
the first member to contribute it. The point at or after another one, going round, is the one
at the smallest distance, counted modulo the number of points.
-/

namespace RespClient.Ring

variable {base count : Nat} {members : List (Node × Nat)} {m : Node × Nat} {node : Node}
  {h p q : UInt32} {entries : List (UInt32 × Node)} {entry : UInt32 × Node}

/-! ## Equal points -/

theorem point_trans (a b c : UInt32 × Node) (hab : decide (a.1 ≤ b.1) = true)
    (hbc : decide (b.1 ≤ c.1) = true) : decide (a.1 ≤ c.1) = true :=
  decide_eq_true (UInt32.le_trans (of_decide_eq_true hab) (of_decide_eq_true hbc))

theorem point_total (a b : UInt32 × Node) : (decide (a.1 ≤ b.1) || decide (b.1 ≤ a.1)) = true := by
  simpa using UInt32.le_total a.1 b.1

/-- Sorting keeps the entries of each point in order. -/
theorem filter_mergeSort (p : UInt32) (entries : List (UInt32 × Node)) :
    (entries.mergeSort fun a b => a.1 ≤ b.1).filter (·.1 == p) = entries.filter (·.1 == p) := by
  have hequal : (entries.filter (·.1 == p)).Pairwise fun a b => decide (a.1 ≤ b.1) = true := by
    refine List.pairwise_of_forall_mem_list fun a ha b hb => ?_
    have ha : a.1 = p := by simpa using (List.mem_filter.mp ha).2
    have hb : b.1 = p := by simpa using (List.mem_filter.mp hb).2
    rw [ha, hb]
    exact decide_eq_true (UInt32.le_refl p)
  -- the entries of one point are a sorted part of the list, so they come out in one piece
  have hsorted := List.sublist_mergeSort point_trans point_total hequal List.filter_sublist
  have hsub := hsorted.filter (·.1 == p)
  rw [List.filter_filter] at hsub
  simp only [Bool.and_self] at hsub
  refine (hsub.eq_of_length ?_).symm
  exact ((List.mergeSort_perm entries _).filter _).length_eq.symm

theorem find?_laterPoints (hpq : p ≠ q) :
    (laterPoints p entries).find? (·.1 == q) = entries.find? (·.1 == q) := by
  induction entries generalizing p with
  | nil => rfl
  | cons entry rest ih =>
      rw [laterPoints]
      by_cases hdrop : entry.1 = p
      · have hother : (entry.1 == q) = false := by simpa [hdrop] using hpq
        rw [if_pos hdrop, ih hpq, List.find?_cons_of_neg (by simp [hother])]
      · rw [if_neg hdrop]
        by_cases hfound : entry.1 = q
        · rw [List.find?_cons_of_pos (by simp [hfound]), List.find?_cons_of_pos (by simp [hfound])]
        · rw [List.find?_cons_of_neg (by simp [hfound]), List.find?_cons_of_neg (by simp [hfound]),
            ih hfound]

/-- The first entry with a point is kept. -/
theorem find?_firstOfEach :
    (firstOfEach entries).find? (·.1 == q) = entries.find? (·.1 == q) := by
  cases entries with
  | nil => rfl
  | cons entry rest =>
      rw [firstOfEach]
      by_cases hfound : entry.1 = q
      · rw [List.find?_cons_of_pos (by simp [hfound]), List.find?_cons_of_pos (by simp [hfound])]
      · rw [List.find?_cons_of_neg (by simp [hfound]), List.find?_cons_of_neg (by simp [hfound]),
          find?_laterPoints hfound]

theorem pairwise_laterPoints (hsorted : entries.Pairwise fun a b => a.1 ≤ b.1)
    (hp : ∀ entry ∈ entries, p ≤ entry.1) :
    (∀ entry ∈ laterPoints p entries, p < entry.1) ∧
      (laterPoints p entries).Pairwise fun a b => a.1 < b.1 := by
  induction entries generalizing p with
  | nil => exact ⟨by simp [laterPoints], List.Pairwise.nil⟩
  | cons entry rest ih =>
      obtain ⟨hfirst, hrest⟩ := List.pairwise_cons.mp hsorted
      rw [laterPoints]
      by_cases hdrop : entry.1 = p
      · rw [if_pos hdrop]
        exact ih hrest fun later hlater => hp later (List.mem_cons_of_mem _ hlater)
      · obtain ⟨habove, hpairwise⟩ := ih hrest hfirst
        have hbelow : p < entry.1 :=
          UInt32.lt_of_le_of_ne (hp entry List.mem_cons_self) fun heq => hdrop heq.symm
        rw [if_neg hdrop]
        refine ⟨fun later hlater => ?_, List.pairwise_cons.mpr ⟨habove, hpairwise⟩⟩
        rcases List.mem_cons.mp hlater with rfl | hlater
        · exact hbelow
        · exact UInt32.lt_trans hbelow (habove later hlater)

theorem pairwise_firstOfEach (hsorted : entries.Pairwise fun a b => a.1 ≤ b.1) :
    (firstOfEach entries).Pairwise fun a b => a.1 < b.1 := by
  cases entries with
  | nil => exact List.Pairwise.nil
  | cons entry rest =>
      obtain ⟨hfirst, hrest⟩ := List.pairwise_cons.mp hsorted
      exact List.pairwise_cons.mpr (pairwise_laterPoints hrest hfirst)

/-! ## The layout -/

/-- In the layout a point has the entry that it had first. -/
theorem find?_layout (base : Nat) (members : List (Node × Nat)) (p : UInt32) :
    (layout base members).find? (·.1 == p) = (allContributed base members).find? (·.1 == p) := by
  rw [layout, find?_firstOfEach, ← List.head?_filter, filter_mergeSort, List.head?_filter]

/-- The points of the layout go up. -/
theorem pairwise_layout (base : Nat) (members : List (Node × Nat)) :
    (layout base members).Pairwise fun a b => a.1 < b.1 := by
  apply pairwise_firstOfEach
  have hsorted := List.pairwise_mergeSort point_trans point_total (allContributed base members)
  exact hsorted.imp fun hle => of_decide_eq_true hle

theorem find?_of_mem (hsorted : entries.Pairwise fun a b => a.1 < b.1) (hentry : entry ∈ entries) :
    entries.find? (·.1 == entry.1) = some entry := by
  induction entries with
  | nil => cases hentry
  | cons first rest ih =>
      obtain ⟨hfirst, hrest⟩ := List.pairwise_cons.mp hsorted
      rcases List.mem_cons.mp hentry with rfl | hentry
      · exact List.find?_cons_of_pos (by simp)
      · have hne : first.1 ≠ entry.1 := UInt32.ne_of_lt (hfirst entry hentry)
        rw [List.find?_cons_of_neg (by simp [hne]), ih hrest hentry]

/-! ## Shares -/

/-- How many virtual nodes a member with some weight has. -/
def share (base : Nat) (members : List (Node × Nat)) (weight : Nat) : Nat :=
  weight * members.length * base / (4 * (members.map (·.2)).sum)

/-- Is it one of the four words of the digest of a text? -/
def IsDigestWord (text : String) (p : UInt32) : Prop :=
  let digest := Md5.digest (Utf8.encode text)
  p = digest.a ∨ p = digest.b ∨ p = digest.c ∨ p = digest.d

instance (text : String) (p : UInt32) : Decidable (IsDigestWord text p) :=
  inferInstanceAs (Decidable (_ ∨ _))

/-- Does a member contribute a point? Its virtual nodes are numbered from zero, and each one
contributes the words of the digest of `address-number`. -/
def Contributes (base : Nat) (members : List (Node × Nat)) (m : Node × Nat) (p : UInt32) : Prop :=
  ∃ i < share base members m.2, IsDigestWord (m.1.text ++ "-" ++ toString i) p

/-- The points of a virtual node are the words of its digest. -/
theorem mem_points {name : String} {i : Nat} :
    p ∈ points name i ↔ IsDigestWord (name ++ "-" ++ toString i) p := by
  have hname : virtualName name i = name ++ "-" ++ toString i := rfl
  rw [points, IsDigestWord, hname]
  simp only [List.mem_cons, List.not_mem_nil, or_false]

example : points "127.0.0.1:6379" 0 = [2344048390, 135292586, 1821951742, 687840887] := by
  decide +kernel

/-- The products that give the shares fit into 64 bits. -/
def Fits (base : Nat) (members : List (Node × Nat)) : Prop :=
  ∀ m ∈ members, m.2 * members.length * base < 2 ^ 64

theorem totalWeight_eq_sum (members : List (Node × Nat)) :
    totalWeight members = (members.map (·.2)).sum := by
  rw [totalWeight, List.sum_eq_foldl, List.foldl_map]

theorem virtualCount_eq_share (hfits : Fits base members) (hm : m ∈ members) :
    virtualCount base members m.2 = share base members m.2 := by
  rw [virtualCount, share, Nat.mod_eq_of_lt (hfits m hm), totalWeight_eq_sum, Nat.mul_comm 4]

theorem mem_contributed :
    entry ∈ contributed count node ↔
      entry.2 = node ∧
        ∃ i < count, IsDigestWord (node.text ++ "-" ++ toString i) entry.1 := by
  obtain ⟨p, owner⟩ := entry
  unfold contributed
  simp only [List.mem_flatMap, List.mem_range, List.mem_map, Prod.mk.injEq, mem_points]
  constructor
  · rintro ⟨i, hi, q, hq, rfl, rfl⟩
    exact ⟨rfl, i, hi, hq⟩
  · rintro ⟨rfl, i, hi, hp⟩
    exact ⟨i, hi, p, hp, rfl, rfl⟩

theorem find?_contributed :
    (contributed count node).find? (·.1 == p) = some entry ↔
      entry = (p, node) ∧ ∃ i < count, IsDigestWord (node.text ++ "-" ++ toString i) p := by
  have hfound : ∀ {entry}, (contributed count node).find? (·.1 == p) = some entry →
      entry = (p, node) ∧ ∃ i < count, IsDigestWord (node.text ++ "-" ++ toString i) p := by
    intro entry hfind
    obtain ⟨hnode, hcontributes⟩ := mem_contributed.mp (List.mem_of_find?_eq_some hfind)
    have hpoint : entry.1 = p := by simpa using List.find?_some hfind
    rw [hpoint] at hcontributes
    exact ⟨Prod.ext hpoint hnode, hcontributes⟩
  constructor
  · exact hfound
  · rintro ⟨rfl, hcontributes⟩
    have hmem : (p, node) ∈ contributed count node := mem_contributed.mpr ⟨rfl, hcontributes⟩
    rcases hfind : (contributed count node).find? (·.1 == p) with _ | entry
    · exact absurd (by simp) (List.find?_eq_none.mp hfind _ hmem)
    · obtain ⟨rfl, -⟩ := hfound hfind
      exact hfind

/-- The node is the first member, in their order, to contribute the point. -/
def IsFirst (base : Nat) (members : List (Node × Nat)) (p : UInt32) (node : Node) : Prop :=
  ∃ before weight after, members = before ++ (node, weight) :: after ∧
    Contributes base members (node, weight) p ∧ ∀ m ∈ before, ¬Contributes base members m p

/-- A point has the entry of the first member to contribute it. -/
theorem find?_allContributed (hfits : Fits base members) :
    (allContributed base members).find? (·.1 == p) = some entry ↔
      entry.1 = p ∧ IsFirst base members p entry.2 := by
  have hmember : ∀ {m entry}, m ∈ members →
      ((contributed (virtualCount base members m.2) m.1).find? (·.1 == p) = some entry ↔
        entry = (p, m.1) ∧ Contributes base members m p) := by
    intro m entry hm
    rw [find?_contributed, virtualCount_eq_share hfits hm]
    rfl
  have hnone : ∀ {m}, m ∈ members →
      ((contributed (virtualCount base members m.2) m.1).find? (·.1 == p) = none ↔
        ¬Contributes base members m p) := by
    intro m hm
    rw [Option.eq_none_iff_forall_not_mem]
    constructor
    · exact fun hall hcontributes => hall _ ((hmember hm).mpr ⟨rfl, hcontributes⟩)
    · exact fun hnot entry hfind => hnot ((hmember hm).mp hfind).2
  rw [allContributed, List.find?_flatMap, List.findSome?_eq_some_iff]
  constructor
  · rintro ⟨before, m, after, hsplit, hfind, hbefore⟩
    have hm : m ∈ members := by rw [hsplit]; simp
    obtain ⟨rfl, hcontributes⟩ := (hmember hm).mp hfind
    refine ⟨rfl, before, m.2, after, hsplit, hcontributes, fun m' hm' => ?_⟩
    exact (hnone (by rw [hsplit]; exact List.mem_append_left _ hm')).mp (hbefore m' hm')
  · rintro ⟨rfl, before, weight, after, hsplit, hcontributes, hbefore⟩
    have hm : (entry.2, weight) ∈ members := by rw [hsplit]; simp
    refine ⟨before, (entry.2, weight), after, hsplit, ?_, fun m' hm' => ?_⟩
    · exact (hmember hm).mpr ⟨rfl, hcontributes⟩
    · exact (hnone (by rw [hsplit]; exact List.mem_append_left _ hm')).mpr (hbefore m' hm')

/-- Of the members that contribute a point one is the first. -/
theorem exists_isFirst (hm : m ∈ members) (hcontributes : Contributes base members m p) :
    ∃ node, IsFirst base members p node := by
  classical
  rcases hfind : members.find? fun m => Contributes base members m p with _ | first
  · exact absurd (decide_eq_true hcontributes) (List.find?_eq_none.mp hfind m hm)
  · obtain ⟨hfirst, before, after, hsplit, hbefore⟩ := List.find?_eq_some_iff_append.mp hfind
    refine ⟨first.1, before, first.2, after, hsplit, of_decide_eq_true hfirst, fun m' hm' => ?_⟩
    simpa using hbefore m' hm'

theorem IsFirst.contributes (hfirst : IsFirst base members p node) :
    ∃ m ∈ members, m.1 = node ∧ Contributes base members m p := by
  obtain ⟨before, weight, after, hsplit, hcontributes, -⟩ := hfirst
  exact ⟨(node, weight), by rw [hsplit]; simp, rfl, hcontributes⟩

/-- An entry of the layout names a point and the first member to contribute it. -/
theorem mem_layout (hfits : Fits base members) :
    entry ∈ layout base members ↔ IsFirst base members entry.1 entry.2 := by
  constructor
  · intro hentry
    have hfind := find?_of_mem (pairwise_layout base members) hentry
    rw [find?_layout] at hfind
    exact ((find?_allContributed hfits).mp hfind).2
  · intro hfirst
    have hfind := (find?_allContributed hfits).mpr ⟨rfl, hfirst⟩
    rw [← find?_layout] at hfind
    exact List.mem_of_find?_eq_some hfind

/-- Every entry of the layout names a member, whether or not the shares fit. -/
theorem exists_member_of_mem_layout (hentry : entry ∈ layout base members) :
    ∃ m ∈ members, m.1 = entry.2 := by
  have hfind := find?_of_mem (pairwise_layout base members) hentry
  rw [find?_layout] at hfind
  obtain ⟨m, hm, hcontributed⟩ := List.mem_flatMap.mp (List.mem_of_find?_eq_some hfind)
  exact ⟨m, hm, (mem_contributed.mp hcontributed).1.symm⟩

/-! ## Going round -/

/-- A point at or after `h` is nearer than a point before it, and on each side of `h` the
lower point is nearer. -/
theorem clockwise_le (hside : h ≤ p ∧ (p ≤ q ∨ q < h) ∨ p ≤ q ∧ q < h) : p - h ≤ q - h := by
  have hp := p.toNat_lt
  have hq := q.toNat_lt
  have hh := h.toNat_lt
  simp only [UInt32.le_iff_toNat_le, UInt32.lt_iff_toNat_lt] at hside
  rw [UInt32.le_iff_toNat_le, UInt32.toNat_sub, UInt32.toNat_sub]
  omega

/-- Points at the same distance are equal. -/
theorem clockwise_antisymm (hpq : p - h ≤ q - h) (hqp : q - h ≤ p - h) : p = q := by
  have hsame : p - h = q - h := UInt32.le_antisymm hpq hqp
  calc p = p - h + h := (UInt32.sub_add_cancel p h).symm
    _ = q - h + h := by rw [hsame]
    _ = q := UInt32.sub_add_cancel q h

/-- The first entry at or after a point, going round, is the nearest one. -/
theorem nearest_of_find? (hsorted : entries.Pairwise fun a b => a.1 < b.1)
    (hfind : (entries.find? fun entry => h ≤ entry.1).or entries.head? = some entry) :
    entry ∈ entries ∧ ∀ other ∈ entries, entry.1 - h ≤ other.1 - h := by
  rcases hahead : entries.find? (fun entry => h ≤ entry.1) with _ | first
  · -- all points lie before `h`, so the lowest comes next
    rw [hahead, Option.none_or] at hfind
    have hbehind : ∀ other ∈ entries, other.1 < h := by
      intro other hother
      simpa using List.find?_eq_none.mp hahead other hother
    obtain ⟨rest, rfl⟩ := List.head?_eq_some_iff.mp hfind
    refine ⟨List.mem_cons_self, fun other hother => clockwise_le (.inr ⟨?_, hbehind other hother⟩)⟩
    rcases List.mem_cons.mp hother with rfl | hother
    · exact UInt32.le_refl _
    · exact UInt32.le_of_lt ((List.pairwise_cons.mp hsorted).1 other hother)
  · rw [hahead, Option.some_or] at hfind
    cases hfind
    obtain ⟨hat, before, after, rfl, hbefore⟩ := List.find?_eq_some_iff_append.mp hahead
    refine ⟨by simp, fun other hother => clockwise_le (.inl ⟨by simpa using hat, ?_⟩)⟩
    rcases List.mem_append.mp hother with hother | hother
    · exact .inr (by simpa using hbefore other hother)
    · rcases List.mem_cons.mp hother with rfl | hother
      · exact .inl (UInt32.le_refl _)
      · have hafter := (List.pairwise_append.mp hsorted).2.1
        exact .inl (UInt32.le_of_lt ((List.pairwise_cons.mp hafter).1 other hother))

/-- Of all points that members contribute, `p` is the nearest one to `h` in the direction of
the ring. -/
structure IsNearest (base : Nat) (members : List (Node × Nat)) (h p : UInt32) : Prop where
  contributed : ∃ m ∈ members, Contributes base members m p
  least : ∀ m ∈ members, ∀ q, Contributes base members m q → p - h ≤ q - h

theorem IsNearest.unique (hp : IsNearest base members h p) (hq : IsNearest base members h q) :
    p = q := by
  obtain ⟨m, hm, hcontributes⟩ := hp.contributed
  obtain ⟨m', hm', hcontributes'⟩ := hq.contributed
  exact clockwise_antisymm (hp.least m' hm' q hcontributes') (hq.least m hm p hcontributes)

theorem IsFirst.unique {other : Node} (hfits : Fits base members)
    (hfirst : IsFirst base members p node) (hother : IsFirst base members p other) :
    node = other := by
  have hfind : (allContributed base members).find? (·.1 == p) = some (p, node) :=
    (find?_allContributed hfits).mpr ⟨rfl, hfirst⟩
  have hfind' : (allContributed base members).find? (·.1 == p) = some (p, other) :=
    (find?_allContributed hfits).mpr ⟨rfl, hother⟩
  rw [hfind] at hfind'
  cases hfind'
  rfl

variable {r : Ring} {e : Failure}

/-- Whom a point belongs to: the first member to contribute the nearest point. -/
theorem isFirst_of_ownerOf (hfits : Fits r.base r.members)
    (hlaid : r.owned = layout r.base r.members) (howner : r.ownerOf h = .ok node) :
    ∃ p, IsNearest r.base r.members h p ∧ IsFirst r.base r.members p node := by
  unfold ownerOf at howner
  split at howner
  · rename_i p owner hfind
    cases howner
    rw [hlaid] at hfind
    obtain ⟨hentry, hnearest⟩ := nearest_of_find? (pairwise_layout _ _) hfind
    have hfirst := (mem_layout hfits).mp hentry
    refine ⟨p, ⟨?_, fun m hm q hcontributes => ?_⟩, hfirst⟩
    · obtain ⟨m, hm, -, hcontributes⟩ := hfirst.contributes
      exact ⟨m, hm, hcontributes⟩
    · obtain ⟨other, hother⟩ := exists_isFirst hm hcontributes
      exact hnearest (q, other) ((mem_layout hfits).mpr hother)
  · cases howner

/-- Whom a point belongs to is a member. -/
theorem mem_of_ownerOf (hlaid : r.owned = layout r.base r.members)
    (howner : r.ownerOf h = .ok node) : ∃ m ∈ r.members, m.1 = node := by
  unfold ownerOf at howner
  split at howner
  · rename_i p owner hfind
    cases howner
    have hentry : (p, node) ∈ layout r.base r.members := by
      rw [← hlaid]
      rcases Option.or_eq_some_iff.mp hfind with hfind | ⟨-, hfind⟩
      · exact List.mem_of_find?_eq_some hfind
      · exact List.mem_of_head? hfind
    exact exists_member_of_mem_layout hentry
  · cases howner

/-- Nobody owns a point exactly if no member contributes one. -/
theorem ownerOf_eq_error (hfits : Fits r.base r.members)
    (hlaid : r.owned = layout r.base r.members) :
    r.ownerOf h = .error e ↔
      e = .emptyRing ∧ ∀ m ∈ r.members, ∀ p, ¬Contributes r.base r.members m p := by
  constructor
  · intro howner
    unfold ownerOf at howner
    split at howner
    · cases howner
    · rename_i hfind
      cases howner
      refine ⟨rfl, fun m hm p hcontributes => ?_⟩
      obtain ⟨other, hother⟩ := exists_isFirst hm hcontributes
      have hentry : (p, other) ∈ r.owned := by
        rw [hlaid]
        exact (mem_layout hfits).mpr hother
      have hempty := (Option.or_eq_none_iff.mp hfind).2
      rw [List.head?_eq_none_iff.mp hempty] at hentry
      cases hentry
  · rintro ⟨rfl, hnone⟩
    rcases howner : r.ownerOf h with e | node
    · unfold ownerOf at howner
      split at howner <;> cases howner
      rfl
    · obtain ⟨p, hnearest, -⟩ := isFirst_of_ownerOf hfits hlaid howner
      obtain ⟨m, hm, hcontributes⟩ := hnearest.contributed
      exact absurd hcontributes (hnone m hm p)

/-- A point belongs to the first member to contribute the nearest point to it. -/
theorem ownerOf_eq_ok (hfits : Fits r.base r.members)
    (hlaid : r.owned = layout r.base r.members) :
    r.ownerOf h = .ok node ↔
      ∃ p, IsNearest r.base r.members h p ∧ IsFirst r.base r.members p node := by
  constructor
  · exact isFirst_of_ownerOf hfits hlaid
  · rintro ⟨p, hnearest, hfirst⟩
    rcases howner : r.ownerOf h with e | owner
    · obtain ⟨m, hm, hcontributes⟩ := hnearest.contributed
      exact absurd hcontributes (((ownerOf_eq_error hfits hlaid).mp howner).2 m hm p)
    · obtain ⟨q, hnearest', hfirst'⟩ := isFirst_of_ownerOf hfits hlaid howner
      obtain rfl := hnearest.unique hnearest'
      rw [hfirst.unique hfits hfirst']

end RespClient.Ring
