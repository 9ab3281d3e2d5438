import Mathlib
import RespClient.Decimal.Shortest
import RespClient.Proofs.Decimal.Rounding

/-!
# The shortest decimal is rounded back

The decimal that is searched for lies in the rounding interval of the double: what a grid
offers was held by the interval, and the finest grid needs no test, since its step is less than
a quarter of a unit in the last place of the double. Zeros at the end of the digits go into the
power and leave the number as it is.
-/

namespace RespClient.Binary64

variable {x : Binary64}

/-- The number that a decimal denotes. -/
def Decimal.value (d : Decimal) : ℚ :=
  d.digits * 10 ^ d.power

theorem ten_zpow_pos (p : Int) : (0 : ℚ) < 10 ^ p := zpow_pos (by norm_num) p

theorem ten_zpow_succ (p : Int) : (10 : ℚ) ^ (p + 1) = 10 * 10 ^ p := by
  rw [zpow_add_one₀ (by norm_num), mul_comm]

theorem Decimal.value_strip (fuel : Nat) (d : Decimal) : (d.strip fuel).value = d.value := by
  fun_induction Decimal.strip with
  | case1 d => rfl
  | case2 fuel d h ih =>
      have hdigits : (d.digits : ℚ) = 10 * (d.digits / 10 : Nat) := by
        exact_mod_cast (Nat.mul_div_cancel' (Nat.dvd_of_mod_eq_zero h.2)).symm
      rw [ih, Decimal.value, Decimal.value, ten_zpow_succ, hdigits]
      ring
  | case3 fuel d h => rfl

namespace Interval

variable {i : Interval} {d : Decimal}

/-- The double itself. -/
def middle (i : Interval) : ℚ :=
  i.centre / i.scale

/-! ## The search -/

theorem onGrid?_holds {power : Int} (h : i.onGrid? power = some d) : i.holds d = true := by
  unfold onGrid? at h
  dsimp only at h
  split at h
  · split at h <;> cases h <;> assumption
  · cases h
    assumption
  · cases h
    assumption
  · cases h

theorem search_holds {top : Int} {fuel count : Nat}
    (h : i.holds (i.floorAt (top - (count + fuel : Nat))) = true) :
    i.holds (i.search top fuel count) = true := by
  fun_induction Interval.search with
  | case1 count => exact h
  | case2 count fuel d hgrid => exact onGrid?_holds hgrid
  | case3 count fuel hgrid ih =>
      rw [Nat.add_right_comm, Nat.add_assoc] at ih
      exact ih h

/-- The place of the first digit is not above the centre. -/
theorem le_middle_of_magnitude (hscale : 0 < i.scale) {fuel : Nat} {guess : Int}
    (h : (10 : ℚ) ^ (guess - fuel - 1) ≤ i.middle) :
    (10 : ℚ) ^ (i.magnitude fuel guess - 1) ≤ i.middle := by
  fun_induction Interval.magnitude with
  | case1 guess => simpa using h
  | case2 fuel guess hle =>
      have hpos : (0 : ℚ) < i.scale := by exact_mod_cast hscale
      rw [← Int.neg_sub guess 1, mul_toNat_le_iff (by norm_num), Nat.cast_ofNat] at hle
      rw [middle, le_div_iff₀ hpos, mul_comm]
      exact hle
  | case3 fuel guess hlt ih =>
      apply ih
      rw [show guess - 1 - (fuel : Int) - 1 = guess - (fuel + 1 : Nat) - 1 by omega]
      exact h

/-- A multiple of the power of ten, at or below the centre and less than one step away. -/
theorem floorAt_bounds (hscale : 0 < i.scale) (power : Int) :
    (i.floorAt power).value ≤ i.middle ∧ i.middle < (i.floorAt power).value + 10 ^ power := by
  have hpos : (0 : ℚ) < i.scale := by exact_mod_cast hscale
  have hunit : (0 : ℚ) < ((10 ^ (-power).toNat : Nat) : ℚ) := by
    exact_mod_cast Nat.pow_pos (by decide)
  have hten : ((10 ^ power.toNat : Nat) : ℚ) = (10 : ℚ) ^ power * ((10 ^ (-power).toNat : Nat) : ℚ) :=
    (zpow_mul_toNat (by norm_num) power).symm
  have hstep : 0 < i.scale * 10 ^ power.toNat := Nat.mul_pos hscale (Nat.pow_pos (by decide))
  have hle := Nat.div_mul_le_self (i.centre * 10 ^ (-power).toNat) (i.scale * 10 ^ power.toNat)
  have hlt := Nat.lt_div_mul_add hstep (a := i.centre * 10 ^ (-power).toNat)
  rw [← Nat.cast_le (α := ℚ)] at hle
  rw [← Nat.cast_lt (α := ℚ)] at hlt
  simp only [Nat.cast_mul, Nat.cast_add, hten] at hle hlt
  simp only [Decimal.value, floorAt, middle]
  generalize ((i.centre * 10 ^ (-power).toNat / (i.scale * 10 ^ power.toNat) : Nat) : ℚ) = n at *
  rw [le_div_iff₀ hpos, div_lt_iff₀ hpos]
  constructor
  · refine le_of_mul_le_mul_right ?_ hunit
    linarith
  · refine lt_of_mul_lt_mul_right ?_ hunit.le
    linarith

end Interval

/-! ## The rounding interval -/

theorem scale_interval_pos (x : Binary64) : 0 < x.interval.scale :=
  Nat.two_pow_pos _

theorem two_zpow_exponent (x : Binary64) : (2 : ℚ) ^ x.exponent = 4 * 2 ^ (x.exponent - 2) := by
  have h := two_zpow_add_nat (x.exponent - 2) 2
  rw [show x.exponent - 2 + (2 : Nat) = x.exponent by omega] at h
  rw [h]
  norm_num

theorem middle_interval (x : Binary64) : x.interval.middle = x.significand * 2 ^ x.exponent := by
  have hunit : (0 : ℚ) < ((2 ^ (-(x.exponent - 2)).toNat : Nat) : ℚ) := by
    exact_mod_cast Nat.two_pow_pos _
  have htwo := zpow_mul_toNat (b := 2) (by norm_num) (x.exponent - 2)
  rw [Interval.middle, div_eq_iff (by exact_mod_cast x.scale_interval_pos.ne'), two_zpow_exponent]
  simp only [interval, Nat.cast_mul, ← htwo, Nat.cast_ofNat]
  ring

/-- Multiples of a power of two are compared with decimals as whole numbers. -/
theorem scaled_le_iff (a b : Nat) (p q : Int) :
    (a * 2 ^ q.toNat * 10 ^ (-p).toNat ≤ b * 10 ^ p.toNat * 2 ^ (-q).toNat ↔
        (a : ℚ) * 2 ^ q ≤ b * 10 ^ p) ∧
      (b * 10 ^ p.toNat * 2 ^ (-q).toNat ≤ a * 2 ^ q.toNat * 10 ^ (-p).toNat ↔
        (b : ℚ) * 10 ^ p ≤ a * 2 ^ q) := by
  have htwo := zpow_mul_toNat (b := 2) (by norm_num) q
  have hten := zpow_mul_toNat (b := 10) (by norm_num) p
  have hfactor : (0 : ℚ) < ((2 ^ (-q).toNat : Nat) : ℚ) * ((10 ^ (-p).toNat : Nat) : ℚ) := by
    exact_mod_cast Nat.mul_pos (Nat.two_pow_pos _) (Nat.pow_pos (by decide))
  have hleft : ((a * 2 ^ q.toNat * 10 ^ (-p).toNat : Nat) : ℚ) =
      a * 2 ^ q * (((2 ^ (-q).toNat : Nat) : ℚ) * ((10 ^ (-p).toNat : Nat) : ℚ)) := by
    rw [Nat.cast_mul, Nat.cast_mul, ← htwo, Nat.cast_ofNat]
    ring
  have hright : ((b * 10 ^ p.toNat * 2 ^ (-q).toNat : Nat) : ℚ) =
      b * 10 ^ p * (((2 ^ (-q).toNat : Nat) : ℚ) * ((10 ^ (-p).toNat : Nat) : ℚ)) := by
    rw [Nat.cast_mul, Nat.cast_mul, ← hten, Nat.cast_ofNat]
    ring
  constructor <;>
    rw [← Nat.cast_le (α := ℚ), hleft, hright, mul_le_mul_iff_left₀ hfactor]

theorem low_interval_iff (hx : 0 < x.significand) (d : Decimal) :
    (x.interval.low * 10 ^ (-d.power).toNat ≤ d.digits * 10 ^ d.power.toNat * x.interval.scale ↔
        (x.significand - x.reach) * (2 : ℚ) ^ x.exponent ≤ d.value) ∧
      (x.interval.low * 10 ^ (-d.power).toNat < d.digits * 10 ^ d.power.toNat * x.interval.scale ↔
        (x.significand - x.reach) * (2 : ℚ) ^ x.exponent < d.value) := by
  have hlow : (x.significand - x.reach) * (2 : ℚ) ^ x.exponent =
      ((4 * x.significand - if x.fraction = 0 ∧ 1 < x.biased then 1 else 2 : Nat) : ℚ) *
        2 ^ (x.exponent - 2) := by
    rw [two_zpow_exponent, reach]
    split <;> rw [Nat.cast_sub (by omega)] <;> push_cast <;> ring
  rw [hlow]
  obtain ⟨hle, hge⟩ := scaled_le_iff
    (4 * x.significand - if x.fraction = 0 ∧ 1 < x.biased then 1 else 2) d.digits d.power
    (x.exponent - 2)
  exact ⟨hle, lt_iff_lt_of_le_iff_le hge⟩

theorem high_interval_iff (x : Binary64) (d : Decimal) :
    (d.digits * 10 ^ d.power.toNat * x.interval.scale ≤ x.interval.high * 10 ^ (-d.power).toNat ↔
        d.value ≤ (x.significand + 1 / 2) * (2 : ℚ) ^ x.exponent) ∧
      (d.digits * 10 ^ d.power.toNat * x.interval.scale < x.interval.high * 10 ^ (-d.power).toNat ↔
        d.value < (x.significand + 1 / 2) * (2 : ℚ) ^ x.exponent) := by
  have hhigh : (x.significand + 1 / 2) * (2 : ℚ) ^ x.exponent =
      ((4 * x.significand + 2 : Nat) : ℚ) * 2 ^ (x.exponent - 2) := by
    rw [two_zpow_exponent]
    push_cast
    ring
  rw [hhigh]
  obtain ⟨hle, hge⟩ := scaled_le_iff (4 * x.significand + 2) d.digits d.power (x.exponent - 2)
  exact ⟨hge, lt_iff_lt_of_le_iff_le hle⟩

/-- The interval of a double holds the decimals nearest to it. -/
theorem holds_interval_iff (hx : 0 < x.significand) (d : Decimal) :
    x.interval.holds d = true ↔ x.Nearest d.value := by
  obtain ⟨hlow, hlow'⟩ := low_interval_iff hx d
  obtain ⟨hhigh, hhigh'⟩ := high_interval_iff x d
  have hclosed : x.interval.closed = true ↔ x.significand % 2 = 0 := beq_iff_eq
  unfold Interval.holds
  dsimp only
  split
  · rename_i h
    have heven := hclosed.mp h
    rw [Bool.and_eq_true, decide_eq_true_eq, decide_eq_true_eq, hlow, hhigh]
    exact ⟨fun h => ⟨h.1, h.2, fun hodd => absurd hodd (by omega)⟩, fun h => ⟨h.low, h.high⟩⟩
  · rename_i h
    have hodd : x.significand % 2 = 1 := Nat.mod_two_ne_zero.mp (mt hclosed.mpr h)
    rw [Bool.and_eq_true, decide_eq_true_eq, decide_eq_true_eq, hlow', hhigh']
    exact ⟨fun h => ⟨h.1.le, h.2.le, fun _ => h⟩, fun h => h.odd hodd⟩

/-- The search for the first digit ends above this power of ten. -/
theorem ten_zpow_le_middle (hx : 0 < x.significand) :
    (10 : ℚ) ^ (310 - (700 : Nat) - 1 : Int) ≤ x.interval.middle := by
  have hone : (1 : ℚ) ≤ x.significand := by exact_mod_cast hx
  have hpow : (2 : ℚ) ^ 1074 ≤ 10 ^ 391 := by
    calc (2 : ℚ) ^ 1074 = 8 ^ 358 := by rw [show (8 : ℚ) = 2 ^ 3 by norm_num, ← pow_mul]
      _ ≤ 10 ^ 358 := pow_le_pow_left₀ (by norm_num) (by norm_num) 358
      _ ≤ 10 ^ 391 := pow_le_pow_right₀ (by norm_num) (by norm_num)
  calc (10 : ℚ) ^ (310 - (700 : Nat) - 1 : Int) = (10 ^ 391)⁻¹ := by
        rw [← zpow_natCast, ← zpow_neg]
        rfl
    _ ≤ (2 ^ 1074)⁻¹ := inv_anti₀ (pow_pos (by norm_num) _) hpow
    _ = 2 ^ (-1074 : Int) := by
        rw [← zpow_natCast, ← zpow_neg]
        rfl
    _ ≤ 2 ^ x.exponent := zpow_le_zpow_right₀ (by norm_num) x.le_exponent
    _ ≤ x.significand * 2 ^ x.exponent := le_mul_of_one_le_left (two_zpow_pos _).le hone
    _ = x.interval.middle := x.middle_interval.symm

/-- On the finest grid the decimal below the double is near enough. -/
theorem nearest_floorAt {top : Int}
    (htop : (10 : ℚ) ^ (top - 1) ≤ x.interval.middle) :
    x.Nearest (x.interval.floorAt (top - 18)).value := by
  obtain ⟨hle, hlt⟩ := Interval.floorAt_bounds x.scale_interval_pos (top - 18)
  have hstep : (10 : ℚ) ^ (top - 1) = 10 ^ 17 * 10 ^ (top - 18) := by
    rw [← zpow_natCast, ← zpow_add₀ (by norm_num)]
    congr 1
    omega
  have hsignificand : (x.significand : ℚ) < 2 ^ 53 := by exact_mod_cast x.significand_lt
  have hpos := two_zpow_pos x.exponent
  have hsmall : (x.significand : ℚ) * 2 ^ x.exponent < 2 ^ 53 * 2 ^ x.exponent :=
    mul_lt_mul_of_pos_right hsignificand hpos
  have hreach : 1 / 4 * (2 : ℚ) ^ x.exponent ≤ x.reach * 2 ^ x.exponent :=
    mul_le_mul_of_nonneg_right x.quarter_le_reach hpos.le
  rw [hstep] at htop
  rw [middle_interval] at htop hle hlt
  have hlow : (x.significand - x.reach) * (2 : ℚ) ^ x.exponent <
      (x.interval.floorAt (top - 18)).value := by linarith
  have hhigh : (x.interval.floorAt (top - 18)).value <
      (x.significand + 1 / 2) * (2 : ℚ) ^ x.exponent := by linarith
  exact ⟨hlow.le, hhigh.le, fun _ => ⟨hlow, hhigh⟩⟩

/-- **The shortest decimal of a double is nearest to it.** -/
theorem nearest_shortest (hx : 0 < x.significand) : x.Nearest x.shortest.value := by
  have htop := Interval.le_middle_of_magnitude x.scale_interval_pos (ten_zpow_le_middle hx)
  rw [shortest, Decimal.value_strip, ← holds_interval_iff hx]
  apply Interval.search_holds
  rw [holds_interval_iff hx]
  exact nearest_floorAt htop

end RespClient.Binary64
