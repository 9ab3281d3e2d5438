import RespClient.Proofs.Ring.History
import RespClient.Proofs.Ring.Layout

/-!
# Where a ring puts its keys

A key belongs to the first member, in the order of the members, that contributes the nearest
point to the key's own. This says everything about a ring: it depends on its members, their
order and their weights and not on the way in which they came about, and their order matters
only where two members contribute the same point.
-/

namespace RespClient.Ring

variable {base : Nat} {members members' : List (Node × Nat)} {m : Node × Nat} {h p : UInt32}
  {r r' : Ring} {cs : List Change}

/-! ## Members in another order -/

/-- What counts of a member besides its place. -/
def addressed (m : Node × Nat) : Address × Nat :=
  (m.1.toAddress, m.2)

/-- The lists have the same members, in some order. -/
def Reordered (members members' : List (Node × Nat)) : Prop :=
  (members.map addressed).Perm (members'.map addressed)

namespace Reordered

theorem length_eq (hsame : Reordered members members') : members.length = members'.length := by
  simpa using List.Perm.length_eq hsame

theorem symm (hsame : Reordered members members') : Reordered members' members :=
  List.Perm.symm hsame

theorem exists_mem (hsame : Reordered members members') (hm : m ∈ members) :
    ∃ m' ∈ members', m'.1.toAddress = m.1.toAddress ∧ m'.2 = m.2 := by
  have hmem : addressed m ∈ members'.map addressed :=
    (List.Perm.mem_iff hsame).mp (List.mem_map_of_mem hm)
  obtain ⟨m', hm', haddressed⟩ := List.mem_map.mp hmem
  exact ⟨m', hm', Prod.mk.inj haddressed⟩

theorem share_eq (hsame : Reordered members members') (weight : Nat) :
    share base members weight = share base members' weight := by
  have hweights : (members.map (·.2)).Perm (members'.map (·.2)) := by
    simpa [Function.comp_def, addressed] using List.Perm.map Prod.snd hsame
  rw [share, share, hsame.length_eq, hweights.sum_eq]

theorem fits (hsame : Reordered members members') (hfits : Fits base members') :
    Fits base members := by
  intro m hm
  obtain ⟨m', hm', -, hweight⟩ := hsame.exists_mem hm
  rw [hsame.length_eq, ← hweight]
  exact hfits m' hm'

/-- What a member contributes it contributes in any order. -/
theorem contributes (hsame : Reordered members members') (hm : m ∈ members)
    (hcontributes : Contributes base members m p) :
    ∃ m' ∈ members', m'.1.toAddress = m.1.toAddress ∧ Contributes base members' m' p := by
  obtain ⟨m', hm', haddress, hweight⟩ := hsame.exists_mem hm
  obtain ⟨i, hi, hp⟩ := hcontributes
  refine ⟨m', hm', haddress, i, ?_, ?_⟩
  · rwa [hweight, ← hsame.share_eq]
  · rwa [haddress]

theorem isNearest (hsame : Reordered members members') (hnearest : IsNearest base members h p) :
    IsNearest base members' h p := by
  constructor
  · obtain ⟨m, hm, hcontributes⟩ := hnearest.contributed
    obtain ⟨m', hm', -, hcontributes'⟩ := hsame.contributes hm hcontributes
    exact ⟨m', hm', hcontributes'⟩
  · intro m' hm' q hcontributes'
    obtain ⟨m, hm, -, hcontributes⟩ := hsame.symm.contributes hm' hcontributes'
    exact hnearest.least m hm q hcontributes

/-- Two orders of the same members disagree about a point only if the nearest point to it has
two contributors. -/
theorem shared_of_ne (hsame : Reordered r'.members r.members) (hbase : r'.base = r.base)
    (hfits : Fits r.base r.members) (hlaid : r.owned = layout r.base r.members)
    (hlaid' : r'.owned = layout r'.base r'.members)
    (hdiffer : (r'.ownerOf h).map Node.toAddress ≠ (r.ownerOf h).map Node.toAddress) :
    ∃ p, IsNearest r.base r.members h p ∧ ∃ m ∈ r.members, ∃ m' ∈ r.members,
      m.1.toAddress ≠ m'.1.toAddress ∧ Contributes r.base r.members m p ∧
        Contributes r.base r.members m' p := by
  have hfits' : Fits r'.base r'.members := by
    rw [hbase]
    exact hsame.fits hfits
  -- in either order the same points are contributed: if there are none, both rings fail in
  -- the same way, and else the nearest is the same, so its first contributors must differ
  rcases howner : r.ownerOf h with e | node <;> rcases howner' : r'.ownerOf h with e' | node'
  · obtain ⟨rfl, -⟩ := (ownerOf_eq_error hfits hlaid).mp howner
    obtain ⟨rfl, -⟩ := (ownerOf_eq_error hfits' hlaid').mp howner'
    rw [howner, howner'] at hdiffer
    exact absurd rfl hdiffer
  · obtain ⟨-, hnone⟩ := (ownerOf_eq_error hfits hlaid).mp howner
    obtain ⟨p, -, hfirst⟩ := (ownerOf_eq_ok hfits' hlaid').mp howner'
    obtain ⟨m', hm', -, hcontributes'⟩ := hfirst.contributes
    rw [hbase] at hcontributes'
    obtain ⟨m, hm, -, hcontributes⟩ := hsame.contributes hm' hcontributes'
    exact absurd hcontributes (hnone m hm p)
  · obtain ⟨-, hnone⟩ := (ownerOf_eq_error hfits' hlaid').mp howner'
    obtain ⟨p, -, hfirst⟩ := (ownerOf_eq_ok hfits hlaid).mp howner
    obtain ⟨m, hm, -, hcontributes⟩ := hfirst.contributes
    obtain ⟨m', hm', -, hcontributes'⟩ := hsame.symm.contributes hm hcontributes
    rw [← hbase] at hcontributes'
    exact absurd hcontributes' (hnone m' hm' p)
  · obtain ⟨p, hnearest, hfirst⟩ := (ownerOf_eq_ok hfits hlaid).mp howner
    obtain ⟨p', hnearest', hfirst'⟩ := (ownerOf_eq_ok hfits' hlaid').mp howner'
    rw [hbase] at hnearest' hfirst'
    obtain rfl := (hsame.isNearest hnearest').unique hnearest
    obtain ⟨m, hm, rfl, hcontributes⟩ := hfirst.contributes
    obtain ⟨m₁, hm₁, rfl, hcontributes₁⟩ := hfirst'.contributes
    obtain ⟨m', hm', haddress, hcontributes'⟩ := hsame.contributes hm₁ hcontributes₁
    refine ⟨p', hnearest, m, hm, m', hm', fun heq => hdiffer ?_, hcontributes, hcontributes'⟩
    rw [howner, howner']
    exact congrArg Except.ok (haddress.symm.trans heq.symm)

end Reordered

/-! ## The placement -/

/-- A ring that came from a history, and where it puts its keys. -/
structure Placed (base : Nat) (cs : List Change) (r : Ring) : Prop where
  enrolled : Enrolled cs r.members
  accepts : ∀ node weight, (∃ r', r.add node weight = .ok r') ↔ 0 < weight
  refuses : ∀ node, ofHistory base (cs ++ [.add node 0]) = r ∧ r.add node 0 =
    .error (.invalidArgument ("ring weight for " ++ node.text ++ " must be positive"))
  /-- The point of a key is the first word of its digest. -/
  owner : ∀ key node, r.get key = .ok node ↔
    ∃ p, IsNearest base r.members (Md5.digest key).a p ∧ IsFirst base r.members p node
  empty : ∀ key e, r.get key = .error e ↔
    e = .emptyRing ∧ ∀ m ∈ r.members, ∀ p, ¬Contributes base r.members m p
  /-- The ring has no memory. -/
  settled : ∀ cs', (ofHistory base cs').members = r.members → ofHistory base cs' = r
  /-- The order of the members matters only for a point that two of them contribute. -/
  order : ∀ cs' key, Reordered (ofHistory base cs').members r.members →
    ((ofHistory base cs').get key).map Node.toAddress ≠ (r.get key).map Node.toAddress →
      ∃ p, IsNearest base r.members (Md5.digest key).a p ∧ ∃ m ∈ r.members, ∃ m' ∈ r.members,
        m.1.toAddress ≠ m'.1.toAddress ∧ Contributes base r.members m p ∧
          Contributes base r.members m' p

/-- **A ring is its list of members.** After any history of changes whose products fit into 64
bits the members are those that the history says, in the order in which they joined. A key
belongs to the first of them that contributes the nearest point to the key's own, going round,
and to nobody if no member contributes a point. -/
theorem ofHistory_placed (base : Nat) (cs : List Change)
    (hfits : Fits base (ofHistory base cs).members) : Placed base cs (ofHistory base cs) := by
  obtain ⟨hbase, hlaid⟩ := ofHistory_laid base cs
  have hfits' : Fits (ofHistory base cs).base (ofHistory base cs).members := by rwa [hbase]
  have hlaid' : (ofHistory base cs).owned =
      layout (ofHistory base cs).base (ofHistory base cs).members := by rw [hbase, hlaid]
  constructor
  · exact ofHistory_enrolled base cs
  · intro node weight
    constructor
    · rintro ⟨r', hadd⟩
      by_contra hzero
      obtain rfl := Nat.eq_zero_of_not_pos hzero
      rw [add_zero] at hadd
      cases hadd
    · exact fun hweight => ⟨_, add_of_pos _ node hweight⟩
  · intro node
    rw [ofHistory_append]
    exact ⟨rfl, add_zero _ node⟩
  · intro key node
    rw [get, ownerOf_eq_ok hfits' hlaid', hbase, keyPoint]
  · intro key e
    rw [get, ownerOf_eq_error hfits' hlaid', hbase]
  · intro cs' hmembers
    -- the base is given and the layout follows from the members
    obtain ⟨hbase₁, hlaid₁⟩ := ofHistory_laid base cs'
    rcases hr : ofHistory base cs with ⟨b, ms, owned⟩
    rcases hr' : ofHistory base cs' with ⟨b', ms', owned'⟩
    rw [hr] at hbase hlaid hmembers
    rw [hr'] at hbase₁ hlaid₁ hmembers
    simp only at hbase hbase₁ hlaid hlaid₁ hmembers
    rw [hbase, hbase₁, hlaid, hlaid₁, hmembers]
  · intro cs' key hsame hdiffer
    obtain ⟨hbase₁, hlaid₁⟩ := ofHistory_laid base cs'
    have hshared := hsame.shared_of_ne (hbase₁.trans hbase.symm) hfits' hlaid'
      (by rw [hbase₁, hlaid₁]) hdiffer
    rwa [hbase] at hshared

/-- Of two members the first leaves and comes back, and the second gets another weight. -/
def returned : List Change :=
  [.add { host := "a", port := 1 } 1, .add { host := "b", port := 2 } 1,
    .remove { host := "a", port := 1 }, .add { host := "a", port := 1 } 2,
    .add { host := "b", port := 2 } 3]

/-- The member that stayed is the first one then. With so small a base the share of the other
one is nothing, so all keys belong to the first. -/
theorem ofHistory_placed_returned :
    Fits 4 (ofHistory 4 returned).members ∧ Placed 4 returned (ofHistory 4 returned) ∧
      (ofHistory 4 returned).members =
        [({ host := "b", port := 2 }, 3), ({ host := "a", port := 1 }, 2)] ∧
      (ofHistory 4 returned).get [] = .ok { host := "b", port := 2 } := by
  have hmembers : (ofHistory 4 returned).members =
      [({ host := "b", port := 2 }, 3), ({ host := "a", port := 1 }, 2)] := by decide
  have hfits : Fits 4 (ofHistory 4 returned).members := by
    rw [hmembers]
    unfold Fits
    decide
  have hplaced := ofHistory_placed 4 returned hfits
  refine ⟨hfits, hplaced, hmembers, ?_⟩
  rcases hget : (ofHistory 4 returned).get [] with e | node
  · obtain ⟨-, hnone⟩ := (hplaced.empty [] e).mp hget
    rw [hmembers] at hnone
    exact absurd ⟨0, by decide, .inl rfl⟩ (hnone _ List.mem_cons_self _)
  · obtain ⟨p, -, hfirst⟩ := (hplaced.owner [] node).mp hget
    obtain ⟨m, hm, rfl, i, hi, -⟩ := hfirst.contributes
    rw [hmembers] at hm hi
    rcases List.mem_cons.mp hm with rfl | hm
    · rfl
    · obtain rfl := List.mem_singleton.mp hm
      exact absurd hi (Nat.not_lt_zero i)

end RespClient.Ring
