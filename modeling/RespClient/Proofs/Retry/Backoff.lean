import RespClient.Retry.Backoff

/-!
# Delays that double

A delay passes three bounds before it meets its cap: the power and the product are counted in
128 bits, the delay itself in 64. No duration reaches the first two, so that whatever they
cut off is above the cap anyway; what does not fit the third gives way to the cap. Up to
there the delay is what unbounded numbers would make it.
-/

namespace RespClient.Backoff

variable {base cap nanos m n : Nat}

/-- The longest duration in nanoseconds, one short of `2 ^ 64` seconds. -/
def longest : Nat := 2 ^ 64 * 10 ^ 9 - 1

theorem longest_le_maxWide : longest ≤ maxWide := by decide

/-- The power may stop growing as soon as 128 bits cannot count it. -/
theorem min_pow_min (n : Nat) : min (2 ^ min n 128) maxWide = min (2 ^ n) maxWide := by
  by_cases hn : n ≤ 128
  · rw [Nat.min_eq_left hn]
  · have hpow : 2 ^ 128 ≤ 2 ^ n := Nat.pow_le_pow_right (by decide) (by omega)
    have hwide : maxWide ≤ 2 ^ 128 := by decide
    rw [Nat.min_eq_right (by omega : 128 ≤ n), Nat.min_eq_right hwide,
      Nat.min_eq_right (Nat.le_trans hwide hpow)]

/-- The two bounds in 128 bits come to one: a power that is cut off makes any product but zero
too large. -/
theorem grown_eq (base n : Nat) : grown base n = min (base * 2 ^ n) maxWide := by
  rw [grown, min_pow_min]
  rcases Nat.le_total (2 ^ n) maxWide with hpow | hpow
  · rw [Nat.min_eq_left hpow]
  · rw [Nat.min_eq_right hpow]
    rcases Nat.eq_zero_or_pos base with rfl | hbase
    · rw [Nat.zero_mul, Nat.zero_mul]
    · have hwide : maxWide ≤ base * maxWide := Nat.le_mul_of_pos_left _ hbase
      have hproduct : base * maxWide ≤ base * 2 ^ n := Nat.mul_le_mul_left _ hpow
      rw [Nat.min_eq_right hwide, Nat.min_eq_right (Nat.le_trans hwide hproduct)]

theorem limit_eq (nanos cap : Nat) :
    limit nanos cap = if min cap nanos < 2 ^ 64 then min cap nanos else cap := by
  unfold limit
  by_cases h : cap ≤ nanos
  · rw [if_pos h, Nat.min_eq_left h, ite_self]
  · rw [if_neg h, Nat.min_eq_right (by omega)]

theorem limit_le (nanos cap : Nat) : limit nanos cap ≤ cap := by
  rw [limit_eq]
  split <;> omega

theorem limit_mono (h : m ≤ n) : limit m cap ≤ limit n cap := by
  rw [limit_eq, limit_eq]
  split <;> split <;> omega

/-- A cap below the bounds in 128 bits makes them invisible. -/
theorem delay_exponential (hcap : cap ≤ longest) (base n : Nat) (words : WordSource) :
    ((exponential base cap).delay n words).1 = limit (base * 2 ^ n) cap := by
  have hwide : cap ≤ maxWide := Nat.le_trans hcap longest_le_maxWide
  show limit (grown base n) cap = _
  rw [grown_eq, limit_eq, limit_eq,
    show min cap (min (base * 2 ^ n) maxWide) = min cap (base * 2 ^ n) by omega]

/-- The delays double with each failure, up to the cap. -/
structure Doubles (base cap : Nat) : Prop where
  exact : ∀ n words, min cap (base * 2 ^ n) ≤ 2 ^ 64 - 1 →
    ((exponential base cap).delay n words).1 = min cap (base * 2 ^ n)
  /-- What 64 bits cannot count is never shortened, and stays within the cap. -/
  between : ∀ n words, 2 ^ 64 - 1 < min cap (base * 2 ^ n) →
    min cap (base * 2 ^ n) ≤ ((exponential base cap).delay n words).1 ∧
      ((exponential base cap).delay n words).1 ≤ cap
  monotone : ∀ m n words later, m ≤ n →
    ((exponential base cap).delay m words).1 ≤ ((exponential base cap).delay n later).1
  jittered : ∀ n words, ((jitter base cap).delay n words).1 ≤ cap

/-- **The delays double up to their cap**, for every base and every cap that a duration can
hold, however many failures there were. -/
theorem delay_doubles (base : Nat) (hcap : cap ≤ longest) : Doubles base cap := by
  constructor
  · intro n words hfits
    rw [delay_exponential hcap, limit_eq, if_pos (by omega)]
  · intro n words hlarge
    rw [delay_exponential hcap, limit_eq, if_neg (by omega)]
    exact ⟨Nat.min_le_left _ _, Nat.le_refl _⟩
  · intro m n words later h
    rw [delay_exponential hcap, delay_exponential hcap]
    apply limit_mono
    exact Nat.mul_le_mul_left _ (Nat.pow_le_pow_right (by decide) h)
  · intro n words
    exact limit_le _ _

/-- One nanosecond is doubled exactly 63 times; after that the cap takes over. -/
theorem delay_doubles_longest : longest ≤ longest ∧ Doubles 1 longest ∧
    ((exponential 1 longest).delay 63 []).1 = 2 ^ 63 ∧
    2 ^ 64 ≤ ((exponential 1 longest).delay 64 []).1 ∧
    ((exponential 1 longest).delay 64 []).1 ≤ ((exponential 1 longest).delay 4294967295 []).1 := by
  have h : Doubles 1 longest := delay_doubles 1 (Nat.le_refl longest)
  refine ⟨Nat.le_refl _, h, ?_, ?_, h.monotone _ _ _ _ (by decide)⟩
  · rw [h.exact 63 [] (by decide)]
    decide
  · exact Nat.le_trans (by decide) (h.between 64 [] (by decide)).1

end RespClient.Backoff
