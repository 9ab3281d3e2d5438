import Mathlib
import RespClient.Proofs.Ring.History
import RespClient.Proofs.Ring.Layout

/-!
# What the shares of a ring add up to

The virtual nodes of a ring are shared out by weight and every share is rounded down, so that
a member with a small weight may have none. The heaviest member always has one: its weight is
at least the average, and the average weight is worth a quarter of the base. So a ring with
members has points, and a key is only without an owner where nobody is a member.

The shares are counted in words of 64 bits. Where the products of the weights fit, so does
everything else on the way, and nothing is divided by zero.
-/

namespace RespClient.Ring

variable {base weight total : Nat} {members : List (Node × Nat)} {m : Node × Nat} {node : Node}
  {cs : List Change} {a : Address}

/-! ## Counting in words -/

/-- A number, if 64 bits hold it. -/
def word? (n : Nat) : Option Nat :=
  if n < 2 ^ 64 then some n else none

/-- The weights of all members, added up word by word. -/
def totalWord? (members : List (Node × Nat)) : Option Nat :=
  members.foldlM (fun total member => word? (total + member.2)) 0

/-- The number of virtual nodes of a member, where every result on the way has to be a word
and the divisor must not be zero. -/
def virtualWord? (base : Nat) (members : List (Node × Nat)) (weight : Nat) : Option Nat := do
  let total ← totalWord? members
  let spread ← word? (weight * members.length)
  let dividend ← word? (spread * base)
  let divisor ← word? (total * 4)
  if divisor = 0 then none else some (dividend / divisor)

theorem word?_of_lt {n : Nat} (h : n < 2 ^ 64) : word? n = some n :=
  if_pos h

theorem foldlM_word? (h : total + (members.map (·.2)).sum < 2 ^ 64) :
    members.foldlM (fun total member => word? (total + member.2)) total =
      some (total + (members.map (·.2)).sum) := by
  induction members generalizing total with
  | nil => rfl
  | cons m members ih =>
      rw [List.map_cons, List.sum_cons, ← Nat.add_assoc] at h ⊢
      rw [List.foldlM_cons, word?_of_lt (Nat.lt_of_le_of_lt (Nat.le_add_right _ _) h)]
      exact ih h

/-! ## The heaviest member -/

/-- Some member has at least the average weight. -/
theorem exists_heavy (hmembers : members ≠ []) :
    ∃ m ∈ members, (members.map (·.2)).sum ≤ m.2 * members.length := by
  refine List.exists_le_of_sum_le hmembers (fun _ => (members.map (·.2)).sum)
    (fun m => m.2 * members.length) ?_
  rw [List.map_const', List.sum_replicate, smul_eq_mul, List.sum_map_mul_right, Nat.mul_comm]

theorem sum_pos (hpositive : ∀ m ∈ members, 0 < m.2) (hm : m ∈ members) :
    0 < (members.map (·.2)).sum :=
  Nat.lt_of_lt_of_le (hpositive m hm) (List.single_le_sum (by simp) _ (List.mem_map_of_mem hm))

/-- A member with at least the average weight has a virtual node. -/
theorem share_pos (hbase : 4 ≤ base) (hpositive : ∀ m ∈ members, 0 < m.2) (hm : m ∈ members)
    (hheavy : (members.map (·.2)).sum ≤ m.2 * members.length) : 0 < share base members m.2 := by
  have hsum := sum_pos hpositive hm
  have hworth : 4 * (members.map (·.2)).sum ≤ m.2 * members.length * base := by
    calc 4 * (members.map (·.2)).sum ≤ base * (m.2 * members.length) := Nat.mul_le_mul hbase hheavy
      _ = m.2 * members.length * base := Nat.mul_comm _ _
  exact Nat.div_pos hworth (by omega)

theorem exists_contributes (hbase : 4 ≤ base) (hpositive : ∀ m ∈ members, 0 < m.2)
    (hmembers : members ≠ []) : ∃ m ∈ members, ∃ p, Contributes base members m p := by
  obtain ⟨m, hm, hheavy⟩ := exists_heavy hmembers
  exact ⟨m, hm, _, 0, share_pos hbase hpositive hm hheavy, .inl rfl⟩

/-! ## Everything fits -/

/-- The divisor of the shares is no more than the product of the heaviest member. -/
theorem sum_mul_four_lt (hbase : 4 ≤ base) (hfits : Fits base members) (hmembers : members ≠ []) :
    (members.map (·.2)).sum * 4 < 2 ^ 64 := by
  obtain ⟨m, hm, hheavy⟩ := exists_heavy hmembers
  calc (members.map (·.2)).sum * 4 ≤ m.2 * members.length * base := Nat.mul_le_mul hheavy hbase
    _ < 2 ^ 64 := hfits m hm

/-- Counted in words the virtual nodes are as many as they should be. -/
theorem virtualWord?_eq (hbase : 4 ≤ base) (hfits : Fits base members)
    (hpositive : ∀ m ∈ members, 0 < m.2) (hm : m ∈ members) :
    virtualWord? base members m.2 = some (virtualCount base members m.2) := by
  have hdivisor := sum_mul_four_lt hbase hfits (List.ne_nil_of_mem hm)
  have hsum := sum_pos hpositive hm
  have htotal : totalWord? members = some (members.map (·.2)).sum := by
    rw [totalWord?, foldlM_word? (by omega), Nat.zero_add]
  have hspread : m.2 * members.length < 2 ^ 64 :=
    Nat.lt_of_le_of_lt (Nat.le_mul_of_pos_right _ (by omega)) (hfits m hm)
  rw [virtualWord?, htotal, Option.bind_eq_bind, Option.bind_some, word?_of_lt hspread,
    Option.bind_some, word?_of_lt (hfits m hm), Option.bind_some, word?_of_lt hdivisor,
    Option.bind_some, if_neg (by omega), virtualCount_eq_share hfits hm, share, Nat.mul_comm 4]

/-! ## All shares together -/

/-- The number of virtual nodes of all members. -/
def virtualTotal (base : Nat) (members : List (Node × Nat)) : Nat :=
  (members.map fun m => virtualCount base members m.2).sum

/-- Rounding down loses something or nothing. -/
theorem sum_div_mul_le {α : Type} (f : α → Nat) (d : Nat) (l : List α) :
    (l.map fun x => f x / d).sum * d ≤ (l.map f).sum := by
  rw [← List.sum_map_mul_right]
  exact List.sum_le_sum fun x _ => Nat.div_mul_le_self (f x) d

theorem virtualTotal_le (hfits : Fits base members) (hpositive : ∀ m ∈ members, 0 < m.2) :
    virtualTotal base members ≤ members.length * base / 4 := by
  rcases members with _ | ⟨first, rest⟩
  · exact Nat.zero_le _
  · generalize hall : first :: rest = members at *
    have hsum : 0 < (members.map (·.2)).sum := sum_pos hpositive (hall ▸ List.mem_cons_self)
    have hshares : virtualTotal base members = (members.map fun m =>
        m.2 * (members.length * base) / (4 * (members.map (·.2)).sum)).sum := by
      refine congrArg List.sum (List.map_congr_left fun m hm => ?_)
      rw [virtualCount_eq_share hfits hm, share, Nat.mul_assoc]
    have hrounded := sum_div_mul_le (fun m : Node × Nat => m.2 * (members.length * base))
      (4 * (members.map (·.2)).sum) members
    rw [← hshares, List.sum_map_mul_right] at hrounded
    refine (Nat.le_div_iff_mul_le (by decide)).mpr (Nat.le_of_mul_le_mul_left ?_ hsum)
    calc (members.map (·.2)).sum * (virtualTotal base members * 4)
        = virtualTotal base members * (4 * (members.map (·.2)).sum) := by ring
      _ ≤ (members.map (·.2)).sum * (members.length * base) := hrounded

/-! ## Rings that came from a history -/

theorem exists_add_of_weightOf (h : weightOf cs a = some weight) :
    ∃ node, Change.add node weight ∈ cs := by
  obtain ⟨c, hlast, hweight⟩ := Option.bind_eq_some_iff.mp h
  have hc := (List.mem_filter.mp (List.mem_of_getLast? hlast)).1
  cases c with
  | add node w =>
      cases hweight
      exact ⟨node, hc⟩
  | remove node => cases hweight

/-- With weights of 32 bits everything fits as long as there are fewer than `2 ^ 24` members. -/
theorem fits_of_length_lt (hweights : ∀ node weight, Change.add node weight ∈ cs → weight < 2 ^ 32)
    (hlength : (ofHistory 160 cs).members.length < 2 ^ 24) :
    Fits 160 (ofHistory 160 cs).members := by
  intro m hm
  have henrolled := (ofHistory_enrolled 160 cs).weights
  obtain ⟨node, hadd⟩ := exists_add_of_weightOf ((henrolled _ _).mpr ⟨m, hm, rfl, rfl⟩)
  have hspread : m.2 * (ofHistory 160 cs).members.length ≤ 2 ^ 32 * 2 ^ 24 :=
    Nat.mul_le_mul (Nat.le_of_lt (hweights node _ hadd)) (Nat.le_of_lt hlength)
  omega

theorem get_eq_error_iff (hbase : 4 ≤ base) (hfits : Fits base (ofHistory base cs).members)
    (key : Bytes) (e : Failure) :
    (ofHistory base cs).get key = .error e ↔
      e = .emptyRing ∧ (ofHistory base cs).members = [] := by
  obtain ⟨hsame, hlaid⟩ := ofHistory_laid base cs
  have hpositive := (ofHistory_enrolled base cs).positive
  rw [get, ownerOf_eq_error (by rwa [hsame]) (by rw [hsame, hlaid]), hsame]
  refine and_congr_right fun _ => ⟨fun hnone => ?_, fun hnil => ?_⟩
  · by_contra hmembers
    obtain ⟨m, hm, p, hcontributes⟩ := exists_contributes hbase hpositive hmembers
    exact hnone m hm p hcontributes
  · rw [hnil]
    simp

/-- **A ring with members always routes.** After any history of changes whose products fit into
64 bits the virtual nodes of every member can be counted in words, without a division by zero;
all members together have no more of them than a quarter of the base for each; and a key is
without an owner, the only way to fail, exactly if nobody is a member. A part of a history is
a history too, so this is true of every layout on the way. With the usual base and weights of
32 bits all rings with fewer than `2 ^ 24` members fit. -/
theorem ofHistory_serves (base : Nat) (cs : List Change) (hbase : 4 ≤ base)
    (hfits : Fits base (ofHistory base cs).members) :
    (∀ m ∈ (ofHistory base cs).members, virtualWord? base (ofHistory base cs).members m.2 =
        some (virtualCount base (ofHistory base cs).members m.2)) ∧
      virtualTotal base (ofHistory base cs).members ≤
        (ofHistory base cs).members.length * base / 4 ∧
      (∀ key e, (ofHistory base cs).get key = .error e ↔
        e = .emptyRing ∧ (ofHistory base cs).members = []) ∧
      ∀ cs', (∀ node weight, Change.add node weight ∈ cs' → weight < 2 ^ 32) →
        (ofHistory 160 cs').members.length < 2 ^ 24 → Fits 160 (ofHistory 160 cs').members := by
  have hpositive := (ofHistory_enrolled base cs).positive
  refine ⟨fun m hm => virtualWord?_eq hbase hfits hpositive hm, virtualTotal_le hfits hpositive,
    get_eq_error_iff hbase hfits, fun cs' => fits_of_length_lt⟩

/-- Two light members beside one that is as heavy as can be. -/
def lopsided : List Change :=
  [.add { host := "a", port := 1 } 1, .add { host := "b", port := 2 } 1,
    .add { host := "c", port := 3 } (2 ^ 32 - 1)]

/-- The smallest base leaves the light members nothing, and the heavy one serves every key. -/
theorem ofHistory_serves_lopsided :
    4 ≤ 4 ∧ Fits 4 (ofHistory 4 lopsided).members ∧
      (ofHistory 4 lopsided).members.map
        (fun m => virtualCount 4 (ofHistory 4 lopsided).members m.2) = [0, 0, 2] ∧
      virtualTotal 4 (ofHistory 4 lopsided).members ≤ 3 ∧
      ∀ key e, (ofHistory 4 lopsided).get key ≠ .error e := by
  have hmembers : (ofHistory 4 lopsided).members = [({ host := "a", port := 1 }, 1),
      ({ host := "b", port := 2 }, 1), ({ host := "c", port := 3 }, 2 ^ 32 - 1)] := by decide
  have hfits : Fits 4 (ofHistory 4 lopsided).members := by
    rw [hmembers]
    unfold Fits
    decide
  obtain ⟨-, htotal, hserves, -⟩ := ofHistory_serves 4 lopsided le_rfl hfits
  refine ⟨le_rfl, hfits, ?_, ?_, fun key e herror => ?_⟩
  · rw [hmembers]
    decide
  · rw [hmembers] at htotal ⊢
    exact htotal
  · have hnil := ((hserves key e).mp herror).2
    rw [hmembers] at hnil
    cases hnil

end RespClient.Ring
