import Mathlib
import RespClient.Decimal.Binary64

/-!
# What rounds to a double

The numbers nearest to a finite double reach from half a unit in its last place below it to
half a unit above, and only a quarter below a power of two, where the doubles lie twice as
close. An end belongs to them when the significand is even. Every fraction among these numbers
is rounded to that double: the binade of the fraction settles the unit, and the whole number of
units is the significand. At a power of two the fraction may lie in the binade below, and then
it is rounded up to twice as many units of half the size.
-/

namespace RespClient.Binary64

variable {x : Binary64} {negative : Bool} {num den : Nat}

/-! ## Powers of two -/

theorem zpow_mul_toNat {b : Nat} (hb : 0 < b) (p : Int) :
    (b : ℚ) ^ p * ((b ^ (-p).toNat : Nat) : ℚ) = ((b ^ p.toNat : Nat) : ℚ) := by
  have hb : (b : ℚ) ≠ 0 := by exact_mod_cast hb.ne'
  push_cast
  rw [← zpow_natCast, ← zpow_natCast, ← zpow_add₀ hb]
  congr 1
  omega

/-- A whole exponent is put on the side where it is no fraction. -/
theorem mul_toNat_le_iff {b : Nat} (hb : 0 < b) (m n : Nat) (p : Int) :
    m * b ^ p.toNat ≤ n * b ^ (-p).toNat ↔ (m : ℚ) * (b : ℚ) ^ p ≤ n := by
  have hpos : (0 : ℚ) < ((b ^ (-p).toNat : Nat) : ℚ) := by exact_mod_cast Nat.pow_pos hb
  rw [← Nat.cast_le (α := ℚ), Nat.cast_mul, Nat.cast_mul, ← zpow_mul_toNat hb, ← mul_assoc,
    mul_le_mul_iff_left₀ hpos]

theorem two_zpow_pos (p : Int) : (0 : ℚ) < 2 ^ p := zpow_pos (by norm_num) p

theorem two_zpow_succ (p : Int) : (2 : ℚ) ^ (p + 1) = 2 * 2 ^ p := by
  rw [zpow_add_one₀ (by norm_num), mul_comm]

theorem two_zpow_add_nat (p : Int) (n : Nat) : (2 : ℚ) ^ (p + n) = 2 ^ n * 2 ^ p := by
  rw [zpow_add₀ (by norm_num), zpow_natCast, mul_comm]

/-! ## The unit of a fraction -/

/-- The exponent of the power of two at or below a positive fraction. -/
def binade (num den : Nat) : Int :=
  let guess : Int := (num.log2 : Int) - den.log2
  if den * 2 ^ guess.toNat ≤ num * 2 ^ (-guess).toNat then guess else guess - 1

/-- The exponent of the unit in which a fraction is rounded. -/
def lastPlace (num den : Nat) : Int :=
  max (binade num den - 52) (-1074)

theorem log2_bounds {n : Nat} (hn : 0 < n) :
    (2 : ℚ) ^ (n.log2 : Int) ≤ n ∧ (n : ℚ) < 2 * 2 ^ (n.log2 : Int) := by
  rw [zpow_natCast]
  constructor
  · exact_mod_cast Nat.log2_self_le hn.ne'
  · have hlt : n < 2 ^ (n.log2 + 1) := Nat.lt_log2_self
    rw [Nat.pow_succ, Nat.mul_comm] at hlt
    exact_mod_cast hlt

theorem binade_bounds (hnum : 0 < num) (hden : 0 < den) :
    (2 : ℚ) ^ binade num den ≤ num / den ∧ (num / den : ℚ) < 2 ^ (binade num den + 1) := by
  obtain ⟨hn, hn'⟩ := log2_bounds hnum
  obtain ⟨hd, hd'⟩ := log2_bounds hden
  have hpos : (0 : ℚ) < den := by exact_mod_cast hden
  unfold binade
  generalize hg : ((num.log2 : Int) - den.log2) = guess
  have hsplit : (2 : ℚ) ^ guess * 2 ^ (den.log2 : Int) = 2 ^ (num.log2 : Int) := by
    rw [← zpow_add₀ (by norm_num), ← hg, sub_add_cancel]
  have hguess := two_zpow_pos guess
  dsimp only
  rw [le_div_iff₀ hpos, div_lt_iff₀ hpos]
  split
  · rename_i hle
    rw [mul_toNat_le_iff (by norm_num), Nat.cast_ofNat, mul_comm] at hle
    refine ⟨hle, ?_⟩
    rw [two_zpow_succ]
    nlinarith
  · rename_i hlt
    rw [mul_toNat_le_iff (by norm_num), not_le, Nat.cast_ofNat, mul_comm] at hlt
    have hhalf : (2 : ℚ) ^ guess = 2 * 2 ^ (guess - 1) := by
      rw [← two_zpow_succ, sub_add_cancel]
    refine ⟨?_, by rwa [sub_add_cancel]⟩
    nlinarith

theorem binade_lt (hnum : 0 < num) (hden : 0 < den) {t : Int} (h : (num / den : ℚ) < 2 ^ t) :
    binade num den < t :=
  (zpow_lt_zpow_iff_right₀ (by norm_num)).mp ((binade_bounds hnum hden).1.trans_lt h)

theorem le_binade (hnum : 0 < num) (hden : 0 < den) {t : Int} (h : (2 : ℚ) ^ t ≤ num / den) :
    t ≤ binade num den := by
  have hlt := (zpow_lt_zpow_iff_right₀ (by norm_num)).mp
    (h.trans_lt (binade_bounds hnum hden).2)
  omega

/-! ## Rounding to units -/

theorem divHalfEven_eq {n d k : Nat} (hd : 0 < d) (hlow : 2 * k * d ≤ 2 * n + d)
    (hhigh : 2 * n ≤ 2 * k * d + d)
    (hodd : k % 2 = 1 → 2 * k * d < 2 * n + d ∧ 2 * n < 2 * k * d + d) :
    divHalfEven n d = k := by
  have hn : d * (n / d) + n % d = n := Nat.div_add_mod n d
  have hr : n % d < d := Nat.mod_lt n hd
  unfold divHalfEven
  generalize n / d = q at hn
  generalize n % d = r at hn hr
  subst hn
  dsimp only
  -- the nearest whole number is the quotient or the one above
  have hk : k = q ∨ k = q + 1 := by
    have h1 : k < q + 2 := by
      by_contra hge
      have := Nat.mul_le_mul_right d (Nat.le_of_not_lt hge)
      grind
    have h2 : q < k + 1 := by
      by_contra hge
      have := Nat.mul_le_mul_right d (Nat.le_of_not_lt hge)
      grind
    omega
  rcases hk with rfl | rfl
  · have : 2 * k * d = 2 * (d * k) := by ring
    grind
  · have : 2 * (q + 1) * d = 2 * (d * q) + 2 * d := by ring
    grind

/-- A fraction at most half a unit away from `k` units is rounded to them; just half a unit
away, when `k` is even. -/
theorem divHalfEven_scaled {k : Nat} {q : Int} (hden : 0 < den)
    (hlow : (k - 1 / 2) * (2 : ℚ) ^ q ≤ num / den)
    (hhigh : (num / den : ℚ) ≤ (k + 1 / 2) * 2 ^ q)
    (hodd : k % 2 = 1 → (k - 1 / 2) * (2 : ℚ) ^ q < num / den ∧
      (num / den : ℚ) < (k + 1 / 2) * 2 ^ q) :
    divHalfEven (num * 2 ^ (-q).toNat) (den * 2 ^ q.toNat) = k := by
  have hpos : (0 : ℚ) < den := by exact_mod_cast hden
  have hunit : (0 : ℚ) < ((2 ^ (-q).toNat : Nat) : ℚ) := by exact_mod_cast Nat.two_pow_pos _
  have hscale : ((2 ^ q.toNat : Nat) : ℚ) = (2 : ℚ) ^ q * ((2 ^ (-q).toNat : Nat) : ℚ) :=
    (zpow_mul_toNat (by norm_num) q).symm
  have hnum : (num : ℚ) = num / den * den := by field_simp
  -- everything is compared over one denominator
  generalize (num / den : ℚ) = v at *
  generalize (2 : ℚ) ^ q = s at *
  have hfactor : (0 : ℚ) < den * ((2 ^ (-q).toNat : Nat) : ℚ) := mul_pos hpos hunit
  apply divHalfEven_eq (Nat.mul_pos hden (Nat.two_pow_pos _))
  · have h := mul_le_mul_of_nonneg_right hlow hfactor.le
    rw [← Nat.cast_le (α := ℚ)]
    push_cast [hscale, hnum] at h ⊢
    linarith
  · have h := mul_le_mul_of_nonneg_right hhigh hfactor.le
    rw [← Nat.cast_le (α := ℚ)]
    push_cast [hscale, hnum] at h ⊢
    linarith
  · intro hk
    have h := mul_lt_mul_of_pos_right (hodd hk).1 hfactor
    have h' := mul_lt_mul_of_pos_right (hodd hk).2 hfactor
    rw [← Nat.cast_lt (α := ℚ), ← Nat.cast_lt (α := ℚ)]
    push_cast [hscale, hnum] at h h' ⊢
    constructor <;> linarith

/-- Rounding to `k` units of the last place gives the magnitude that these make up. -/
theorem ofRatio_eq (hnum : 0 < num) {q : Int} {k magnitude : Nat} (hq : lastPlace num den = q)
    (hk : divHalfEven (num * 2 ^ (-q).toNat) (den * 2 ^ q.toNat) = k)
    (hmagnitude : (q + 1074).toNat * 2 ^ 52 + k = magnitude) (hle : magnitude ≤ infinityBits) :
    ofRatio negative num den = ofMagnitude negative magnitude := by
  subst hq hk hmagnitude
  rw [ofRatio, if_neg hnum.ne']
  exact congrArg (ofMagnitude negative) (Nat.min_eq_left hle)

/-! ## The bits of a double -/

/-- The bits of a double without its sign. -/
def magnitude (x : Binary64) : Nat :=
  x.bits.toNat % 2 ^ 63

theorem magnitude_eq_fields (x : Binary64) : x.magnitude = x.biased * 2 ^ 52 + x.fraction := by
  unfold magnitude biased fraction
  omega

theorem magnitude_eq (x : Binary64) :
    x.magnitude = (x.exponent + 1074).toNat * 2 ^ 52 + x.significand := by
  rw [magnitude_eq_fields]
  unfold exponent significand
  split <;> omega

/-- A double is its sign and its magnitude. -/
theorem ofMagnitude_magnitude (x : Binary64) : ofMagnitude x.isNegative x.magnitude = x := by
  have hbits := x.bits.toNat_lt
  have hsplit : (if x.isNegative then 2 ^ 63 else 0) + x.magnitude = x.bits.toNat := by
    unfold isNegative magnitude
    split <;> rename_i h <;> simp only [beq_iff_eq] at h <;> omega
  rw [ofMagnitude, hsplit, UInt64.ofNat_toNat]

theorem fraction_lt (x : Binary64) : x.fraction < 2 ^ 52 :=
  Nat.mod_lt _ (by decide)

theorem significand_lt (x : Binary64) : x.significand < 2 ^ 53 := by
  have := x.fraction_lt
  unfold significand
  split <;> omega

theorem le_exponent (x : Binary64) : -1074 ≤ x.exponent := by
  unfold exponent
  omega

theorem le_significand (h : -1074 < x.exponent) : 2 ^ 52 ≤ x.significand := by
  unfold exponent at h
  unfold significand
  rw [if_neg (by omega)]
  omega

theorem magnitude_lt_infinityBits (h : x.biased < 2047) : x.magnitude < infinityBits := by
  have := x.fraction_lt
  rw [magnitude_eq_fields, infinityBits]
  omega

/-! ## The nearest numbers -/

/-- How far below a double the numbers lie that are rounded to it, in units of its last place. -/
def reach (x : Binary64) : ℚ :=
  if x.fraction = 0 ∧ 1 < x.biased then 1 / 4 else 1 / 2

/-- The number lies at most half a unit above the double and not farther below than its reach, and
for an odd significand not at an end. -/
structure Nearest (x : Binary64) (v : ℚ) : Prop where
  low : (x.significand - x.reach) * 2 ^ x.exponent ≤ v
  high : v ≤ (x.significand + 1 / 2) * 2 ^ x.exponent
  odd : x.significand % 2 = 1 →
    (x.significand - x.reach) * 2 ^ x.exponent < v ∧ v < (x.significand + 1 / 2) * 2 ^ x.exponent

theorem reach_le_half (x : Binary64) : x.reach ≤ 1 / 2 := by
  unfold reach
  split <;> norm_num

theorem quarter_le_reach (x : Binary64) : 1 / 4 ≤ x.reach := by
  unfold reach
  split <;> norm_num

namespace Nearest

variable {v : ℚ}

theorem half_le (h : x.Nearest v) : (x.significand - 1 / 2) * (2 : ℚ) ^ x.exponent ≤ v :=
  (mul_le_mul_of_nonneg_right (by linarith [x.reach_le_half]) (two_zpow_pos _).le).trans h.low

theorem half_lt (h : x.Nearest v) (hodd : x.significand % 2 = 1) :
    (x.significand - 1 / 2) * (2 : ℚ) ^ x.exponent < v :=
  (mul_le_mul_of_nonneg_right (by linarith [x.reach_le_half]) (two_zpow_pos _).le).trans_lt
    (h.odd hodd).1

theorem lt_two_zpow (h : x.Nearest v) : v < 2 ^ (x.exponent + 53) := by
  have hlt : (x.significand : ℚ) + 1 ≤ 2 ^ 53 := by exact_mod_cast x.significand_lt
  refine h.high.trans_lt ?_
  rw [show x.exponent + 53 = x.exponent + (53 : Nat) from rfl, two_zpow_add_nat]
  exact mul_lt_mul_of_pos_right (by linarith) (two_zpow_pos _)

theorem pos (h : x.Nearest v) (hx : 0 < x.significand) : 0 < v := by
  have hone : (1 : ℚ) ≤ x.significand := by exact_mod_cast hx
  exact (mul_pos (by linarith) (two_zpow_pos _)).trans_le h.half_le

/-- In the binade below, the double is a power of two and the number just below it. -/
theorem of_lt_binade (h : x.Nearest v) (hexponent : -1074 < x.exponent)
    (hv : v < 2 ^ (x.exponent + 52)) :
    x.significand = 2 ^ 52 ∧ (2 ^ 52 - 1 / 4 : ℚ) * 2 ^ x.exponent ≤ v := by
  have hpos := two_zpow_pos x.exponent
  rw [show x.exponent + 52 = x.exponent + (52 : Nat) from rfl, two_zpow_add_nat] at hv
  have hm : x.significand = 2 ^ 52 := by
    refine le_antisymm ?_ (le_significand hexponent)
    by_contra hgt
    have hgt : (2 ^ 52 + 1 : ℚ) ≤ x.significand := by exact_mod_cast not_le.mp hgt
    have hle := (mul_le_mul_of_nonneg_right
      (by linarith : (2 ^ 52 : ℚ) ≤ x.significand - 1 / 2) hpos.le).trans h.half_le
    linarith
  refine ⟨hm, ?_⟩
  have hlow := h.low
  rw [hm, reach, if_pos] at hlow
  · exact_mod_cast hlow
  · have hfraction := x.fraction_lt
    unfold exponent at hexponent
    unfold significand at hm
    rw [if_neg (by omega)] at hm
    omega

end Nearest

/-- **What is nearest to a finite double is rounded to it.** -/
theorem ofRatio_of_nearest (hfinite : x.biased < 2047) (hx : 0 < x.significand) (hden : 0 < den)
    (h : x.Nearest (num / den)) :
    ofRatio negative num den = ofMagnitude negative x.magnitude := by
  have hle := (magnitude_lt_infinityBits hfinite).le
  have hnum : 0 < num := by
    rw [Nat.pos_iff_ne_zero]
    rintro rfl
    simpa using h.pos hx
  by_cases hunit : x.exponent = -1074 ∨ (2 : ℚ) ^ (x.exponent + 52) ≤ num / den
  · -- the unit is that of the double
    have hq : lastPlace num den = x.exponent := by
      have hexponent := x.le_exponent
      have hbinade := binade_lt hnum hden h.lt_two_zpow
      unfold lastPlace
      rcases hunit with hunit | hunit
      · omega
      · have := le_binade hnum hden hunit
        omega
    exact ofRatio_eq hnum hq
      (divHalfEven_scaled hden h.half_le h.high fun hodd => ⟨h.half_lt hodd, (h.odd hodd).2⟩)
      x.magnitude_eq.symm hle
  · -- the unit is half as large, and the double is the power of two above
    rw [not_or, not_le] at hunit
    have hexponent : -1074 < x.exponent := lt_of_le_of_ne x.le_exponent (Ne.symm hunit.1)
    obtain ⟨hm, hlow⟩ := h.of_lt_binade hexponent hunit.2
    have hhalf : (2 : ℚ) ^ x.exponent = 2 * 2 ^ (x.exponent - 1) := by
      rw [← two_zpow_succ, sub_add_cancel]
    have hpos := two_zpow_pos (x.exponent - 1)
    have hq : lastPlace num den = x.exponent - 1 := by
      have hbelow := binade_lt hnum hden hunit.2
      have habove : x.exponent + 51 ≤ binade num den := by
        apply le_binade hnum hden
        rw [show x.exponent + 51 = x.exponent + (51 : Nat) from rfl, two_zpow_add_nat]
        linarith
      unfold lastPlace
      omega
    rw [show x.exponent + 52 = x.exponent + (52 : Nat) from rfl, two_zpow_add_nat] at hunit
    refine ofRatio_eq (k := 2 ^ 53) hnum hq (divHalfEven_scaled hden ?_ ?_ ?_) ?_ hle
    · push_cast
      linarith
    · push_cast
      linarith
    · intro hodd
      exact absurd hodd (by decide)
    · rw [magnitude_eq, hm]
      omega

end RespClient.Binary64
