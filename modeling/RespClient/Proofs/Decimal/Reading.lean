import Mathlib
import RespClient.Decimal.Reading
import RespClient.Proofs.Decimal.Notation
import RespClient.Proofs.Decimal.Shortest
import RespClient.Proofs.Text.Lossy

/-!
# Doubles read back

The notation of the wire denotes the decimal it was made from, wherever the point stands among
the digits, and reading rounds the number that is denoted, whatever zeros are at either end of
the digits. So a double is read back from its own text. Of the NaNs this holds for one, the one
that reading gives.
-/

namespace RespClient.Binary64

variable {x : Binary64} {negative : Bool}

/-! ## Zeros at the ends -/

theorem zeros_append_dropWhile (ds : Bytes) :
    ∃ n, ds = List.replicate n 48 ++ ds.dropWhile isZeroDigit := by
  refine ⟨(ds.takeWhile isZeroDigit).length, ?_⟩
  have hzeros : ds.takeWhile isZeroDigit = List.replicate (ds.takeWhile isZeroDigit).length 48 :=
    List.eq_replicate_of_mem fun b hb => by
      have hzero : isZeroDigit b = true := List.mem_takeWhile_imp hb
      exact beq_iff_eq.mp hzero
  rw [← hzeros, List.takeWhile_append_dropWhile]

/-- Reading leaves out the zeros at both ends, and those behind go into the power. -/
theorem ofDigits_eq (negative : Bool) (ds : Bytes) (power : Int) :
    ∃ kept : Bytes, ∃ before behind : Nat,
      ds = List.replicate before 48 ++ (kept ++ List.replicate behind 48) ∧
        kept.head? ≠ some 48 ∧
        ofDigits negative ds power =
          if kept.isEmpty then ofMagnitude negative 0
          else if kept.length + (power + behind) > 400 then infinity negative
          else if kept.length + (power + behind) < -400 then ofMagnitude negative 0
          else ofRatio negative (Numeral.value kept * 10 ^ (power + behind).toNat)
            (10 ^ (-(power + behind)).toNat) := by
  obtain ⟨before, hbefore⟩ := zeros_append_dropWhile ds
  obtain ⟨behind, hbehind⟩ := zeros_append_dropWhile (ds.dropWhile isZeroDigit).reverse
  have hhead := List.head?_dropWhile_not isZeroDigit ds
  unfold ofDigits
  dsimp only
  generalize ds.dropWhile isZeroDigit = front at *
  generalize front.reverse.dropWhile isZeroDigit = back at *
  have hfront : front = back.reverse ++ List.replicate behind 48 := by
    rw [← List.reverse_reverse front, hbehind, List.reverse_append, List.reverse_replicate]
  have hlength : (front.length - back.reverse.length : Int) = behind := by
    rw [hfront, List.length_append, List.length_replicate]
    omega
  refine ⟨back.reverse, before, behind, hfront ▸ hbefore, ?_, by rw [hlength]⟩
  intro hzero
  rw [hfront, List.head?_append, hzero] at hhead
  exact absurd (show isZeroDigit 48 = false from hhead) (by decide)

/-- Far above and far below the numbers that doubles hold. -/
theorem Nearest.size_bounds {v : ℚ} (h : x.Nearest v) (hfinite : x.biased < 2047)
    (hx : 0 < x.significand) {size : Int} (hlow : (10 : ℚ) ^ (size - 1) ≤ v)
    (hhigh : v < 10 ^ size) : -400 ≤ size ∧ size ≤ 400 := by
  have hpow : ∀ n : Nat, (2 : ℚ) ^ (3 * n : Int) ≤ 10 ^ (n : Int) := by
    intro n
    rw [zpow_mul, zpow_natCast, zpow_natCast]
    exact pow_le_pow_left₀ (by norm_num) (by norm_num) n
  have hone : (1 : ℚ) ≤ x.significand := by exact_mod_cast hx
  have habove : (10 : ℚ) ^ (size - 1) < 10 ^ (342 : Int) := by
    calc (10 : ℚ) ^ (size - 1) ≤ v := hlow
      _ < 2 ^ (x.exponent + 53) := h.lt_two_zpow
      _ ≤ 2 ^ (3 * 342 : Int) := zpow_le_zpow_right₀ (by norm_num) (by unfold exponent; omega)
      _ ≤ 10 ^ (342 : Int) := hpow 342
  have hbelow : (10 : ℚ) ^ (-359 : Int) < 10 ^ size := by
    calc (10 : ℚ) ^ (-359 : Int) ≤ 2 ^ (-(3 * 359) : Int) := by
          rw [zpow_neg, zpow_neg]
          exact inv_anti₀ (two_zpow_pos _) (hpow 359)
      _ ≤ 2 ^ (x.exponent - 1) := zpow_le_zpow_right₀ (by norm_num) (by have := x.le_exponent; omega)
      _ = (1 - 1 / 2) * 2 ^ x.exponent := by
          rw [show x.exponent = x.exponent - 1 + 1 by omega, two_zpow_succ, add_sub_cancel_right]
          ring
      _ ≤ (x.significand - 1 / 2) * 2 ^ x.exponent :=
          mul_le_mul_of_nonneg_right (by linarith) (two_zpow_pos _).le
      _ ≤ v := h.half_le
      _ < 10 ^ size := hhigh
  have := (zpow_lt_zpow_iff_right₀ (by norm_num)).mp habove
  have := (zpow_lt_zpow_iff_right₀ (by norm_num)).mp hbelow
  omega

/-- A number lies at the place of its first digit. -/
theorem place_bounds {d : UInt8} {rest : Bytes}
    (h : ∀ b ∈ d :: rest, Numeral.isDigit b = true) (hzero : d ≠ 48) (power : Int) :
    (10 : ℚ) ^ ((d :: rest).length + power - 1) ≤ Numeral.value (d :: rest) * 10 ^ power ∧
      Numeral.value (d :: rest) * (10 : ℚ) ^ power < 10 ^ ((d :: rest).length + power) := by
  have hten := ten_zpow_pos power
  have hsplit : ∀ n : Nat, ((10 ^ n : Nat) : ℚ) * 10 ^ power = 10 ^ (n + power) := by
    intro n
    rw [Nat.cast_pow, Nat.cast_ofNat, zpow_add₀ (by norm_num), zpow_natCast]
  constructor
  · have hle : 10 ^ rest.length ≤ Numeral.value (d :: rest) :=
      Numeral.le_value (h d List.mem_cons_self) hzero
    rw [List.length_cons, Nat.cast_add_one, add_right_comm, add_sub_cancel_right, ← hsplit]
    exact mul_le_mul_of_nonneg_right (by exact_mod_cast hle) hten.le
  · rw [← hsplit]
    exact mul_lt_mul_of_pos_right (by exact_mod_cast Numeral.value_lt h) hten

/-- **Digits that denote a number nearest to a double are read as that double.** -/
theorem ofDigits_of_nearest {ds : Bytes} {power : Int}
    (hdigits : ∀ b ∈ ds, Numeral.isDigit b = true) (hfinite : x.biased < 2047)
    (hx : 0 < x.significand) (h : x.Nearest (Numeral.value ds * 10 ^ power)) :
    ofDigits negative ds power = ofMagnitude negative x.magnitude := by
  obtain ⟨kept, before, behind, rfl, hhead, heq⟩ := ofDigits_eq negative ds power
  have hvalue : (Numeral.value (List.replicate before 48 ++ (kept ++ List.replicate behind 48)) : ℚ)
      * 10 ^ power = Numeral.value kept * 10 ^ (power + behind) := by
    rw [Numeral.value_zeros_append, Numeral.value_append_zeros, zpow_add₀ (by norm_num),
      zpow_natCast, Nat.cast_mul, Nat.cast_pow, Nat.cast_ofNat]
    ring
  rw [hvalue] at h
  rw [heq]
  generalize power + (behind : Int) = power at *
  have hkept : ∀ b ∈ kept, Numeral.isDigit b = true := fun b hb =>
    hdigits b (List.mem_append_right _ (List.mem_append_left _ hb))
  cases kept with
  | nil =>
      have hpos := h.pos hx
      rw [show Numeral.value [] = 0 from rfl, Nat.cast_zero, zero_mul] at hpos
      exact absurd hpos (lt_irrefl 0)
  | cons d rest =>
      obtain ⟨hlow, hhigh⟩ := place_bounds hkept (by simpa using hhead) power
      obtain ⟨habove, hbelow⟩ := h.size_bounds hfinite hx hlow hhigh
      rw [if_neg (by simp), if_neg (by omega), if_neg (by omega)]
      apply ofRatio_of_nearest hfinite hx (Nat.pow_pos (by decide))
      have hscale := zpow_mul_toNat (b := 10) (by norm_num) power
      have hunit : ((10 ^ (-power).toNat : Nat) : ℚ) ≠ 0 := by
        exact_mod_cast (Nat.pow_pos (by decide)).ne'
      rw [Nat.cast_mul, ← hscale, Nat.cast_ofNat, ← mul_assoc, mul_div_cancel_right₀ _ hunit]
      exact h

/-! ## Numerals -/

/-- A numeral without a sign begins with a digit and is read as digits that denote the number. -/
structure Denotes (text : Bytes) (v : ℚ) : Prop where
  begins : ∃ b rest, text = b :: rest ∧ Numeral.isDigit b = true
  reads : ∃ digits : Bytes, ∃ power : Int, (∀ b ∈ digits, Numeral.isDigit b = true) ∧
    (Numeral.value digits * 10 ^ power : ℚ) = v ∧
    ∀ negative, readNumeral? negative text = some (ofDigits negative digits power)

theorem Denotes.congr {text : Bytes} {v w : ℚ} (h : Denotes text v) (hvw : v = w) :
    Denotes text w :=
  hvw ▸ h

theorem Denotes.readNumeral? {text : Bytes} {v : ℚ} (h : Denotes text v)
    (hfinite : x.biased < 2047) (hx : 0 < x.significand) (hnearest : x.Nearest v) :
    readNumeral? negative text = some (ofMagnitude negative x.magnitude) := by
  obtain ⟨digits, power, hdigits, rfl, hread⟩ := h.reads
  rw [hread, ofDigits_of_nearest hdigits hfinite hx hnearest]

variable {whole part : Bytes}

theorem begins_of_digits (hne : whole ≠ []) (h : ∀ b ∈ whole, Numeral.isDigit b = true)
    (behind : Bytes) : ∃ b rest, whole ++ behind = b :: rest ∧ Numeral.isDigit b = true := by
  obtain ⟨b, rest, rfl⟩ := List.exists_cons_of_ne_nil hne
  exact ⟨b, rest ++ behind, rfl, h b List.mem_cons_self⟩

theorem denotes_whole (hne : whole ≠ []) (h : ∀ b ∈ whole, Numeral.isDigit b = true) :
    Denotes whole (Numeral.value whole) := by
  have hspan : whole.span Numeral.isDigit = (whole, []) := by
    rw [List.span_eq_takeWhile_dropWhile, List.takeWhile_eq_self_iff.mpr h,
      List.dropWhile_eq_nil_iff.mpr h]
  refine ⟨?_, whole, 0, h, by rw [zpow_zero, mul_one], fun negative => ?_⟩
  · have hbegins := begins_of_digits hne h []
    rwa [List.append_nil] at hbegins
  · simp [-List.span_eq_takeWhile_dropWhile, Binary64.readNumeral?, hspan, hne, readPower?]

theorem denotes_point (hne : whole ≠ []) (hwhole : ∀ b ∈ whole, Numeral.isDigit b = true)
    (hpart : ∀ b ∈ part, Numeral.isDigit b = true) :
    Denotes (whole ++ 46 :: part) (Numeral.value (whole ++ part) * 10 ^ (-part.length : Int)) := by
  have hspan : (whole ++ 46 :: part).span Numeral.isDigit = (whole, 46 :: part) := by
    rw [List.span_eq_takeWhile_dropWhile, List.takeWhile_append_of_pos hwhole,
      List.dropWhile_append_of_pos hwhole, List.takeWhile_cons_of_neg (by decide),
      List.dropWhile_cons_of_neg (by decide), List.append_nil]
  have hspan' : part.span Numeral.isDigit = (part, []) := by
    rw [List.span_eq_takeWhile_dropWhile, List.takeWhile_eq_self_iff.mpr hpart,
      List.dropWhile_eq_nil_iff.mpr hpart]
  refine ⟨begins_of_digits hne hwhole _, whole ++ part, -part.length,
    List.forall_mem_append.mpr ⟨hwhole, hpart⟩, rfl, fun negative => ?_⟩
  simp [-List.span_eq_takeWhile_dropWhile, Binary64.readNumeral?, hspan, hspan', hne, readPower?]

/-- What begins with a digit is no name. -/
theorem readMagnitude?_of_digit {b : UInt8} {rest : Bytes} (h : Numeral.isDigit b = true) :
    readMagnitude? negative (b :: rest) = readNumeral? negative (b :: rest) := by
  simp only [Numeral.isDigit, Bool.and_eq_true, decide_eq_true_eq] at h
  have hlower : lowerByte b = b := if_neg (by omega)
  have hname : ∀ (first : UInt8) (name : Bytes), 57 < first.toNat →
      (b :: rest).map lowerByte ≠ first :: name := by
    intro first name hfirst heq
    rw [List.map_cons, hlower, List.cons.injEq] at heq
    rw [heq.1] at h
    omega
  unfold readMagnitude?
  dsimp only
  rw [if_neg, if_neg]
  · exact hname 110 _ (by decide)
  · exact not_or.mpr ⟨hname 105 _ (by decide), hname 105 _ (by decide)⟩

theorem read?_of_digit {b : UInt8} {rest : Bytes} (h : Numeral.isDigit b = true) :
    read? (b :: rest) = readNumeral? false (b :: rest) := by
  rw [← readMagnitude?_of_digit h]
  unfold read?
  split
  · rename_i heq
    rw [List.cons.injEq] at heq
    exact absurd (heq.1 ▸ h) (by decide)
  · rename_i heq
    rw [List.cons.injEq] at heq
    exact absurd (heq.1 ▸ h) (by decide)
  · rfl

/-- A sign in front of a text that begins with a digit. -/
theorem read?_signed (x : Binary64) {text : Bytes}
    (h : ∃ b rest, text = b :: rest ∧ Numeral.isDigit b = true) :
    read? (x.signText.map Numeral.byteOf ++ text) = readNumeral? x.isNegative text := by
  obtain ⟨b, rest, rfl, hb⟩ := h
  unfold signText
  cases x.isNegative with
  | true => exact readMagnitude?_of_digit hb
  | false => exact read?_of_digit hb

/-! ## The notation of the wire -/

theorem map_byteOf_zeros (n : Nat) : (zeros n).map Numeral.byteOf = List.replicate n 48 :=
  List.map_replicate

/-- The notation denotes the digits with their point. -/
theorem denotes_positional {ds : List Char} (hne : ds ≠ []) (h : ∀ c ∈ ds, c.isDigit = true)
    (point : Int) :
    Denotes ((positional ds point []).map Numeral.byteOf)
      (Numeral.value (ds.map Numeral.byteOf) * 10 ^ (point - ds.length)) := by
  have hbytes : ∀ b ∈ ds.map Numeral.byteOf, Numeral.isDigit b = true := by
    rw [List.forall_mem_map]
    exact fun c hc => Numeral.isDigit_byteOf (h c hc)
  have hzeros : ∀ n, ∀ b ∈ List.replicate n (48 : UInt8), Numeral.isDigit b = true := by
    intro n b hb
    rw [List.eq_of_mem_replicate hb]
    decide
  have hlength : (ds.map Numeral.byteOf).length = ds.length := List.length_map _
  have hne : ds.map Numeral.byteOf ≠ [] := mt List.map_eq_nil_iff.mp hne
  unfold positional
  split
  · -- zeros stand between the point and the digits
    have hpart := List.forall_mem_append.mpr ⟨hzeros (-point).toNat, hbytes⟩
    have hzero : List.replicate 1 (48 : UInt8) ≠ [] := List.cons_ne_nil 48 _
    have hdenotes := denotes_point hzero (hzeros 1) hpart
    rw [Numeral.value_zeros_append, Numeral.value_zeros_append, List.length_append,
      List.length_replicate, hlength] at hdenotes
    rw [List.map_append, List.map_cons, List.map_cons, map_byteOf_zeros]
    refine hdenotes.congr ?_
    congr 2
    omega
  · split
    · -- zeros fill up a whole number
      have hdenotes := denotes_whole (by simp [hne])
        (List.forall_mem_append.mpr ⟨hbytes, hzeros (point.toNat - ds.length)⟩)
      rw [Numeral.value_append_zeros, Nat.cast_mul, Nat.cast_pow, Nat.cast_ofNat,
        ← zpow_natCast] at hdenotes
      rw [List.append_nil, List.map_append, map_byteOf_zeros]
      refine hdenotes.congr ?_
      congr 2
      omega
    · -- the point stands among the digits
      have hfront : (ds.map Numeral.byteOf).take point.toNat ≠ [] := by
        rw [ne_eq, List.take_eq_nil_iff, not_or]
        exact ⟨by omega, hne⟩
      have hback : ∀ b ∈ (ds.map Numeral.byteOf).drop point.toNat, Numeral.isDigit b = true :=
        fun b hb => hbytes b (List.mem_of_mem_drop hb)
      have hdenotes := denotes_point hfront (fun b hb => hbytes b (List.mem_of_mem_take hb)) hback
      rw [List.take_append_drop, List.length_drop, hlength] at hdenotes
      rw [List.map_append, List.map_cons, List.map_take, List.map_drop]
      refine hdenotes.congr ?_
      congr 2
      omega

/-! ## Doubles that are no numbers -/

theorem eq_infinity (h : x.isInfinite = true) : x = infinity x.isNegative := by
  simp only [isInfinite, Bool.and_eq_true, beq_iff_eq] at h
  have hmagnitude : x.magnitude = infinityBits := by
    rw [magnitude_eq_fields, h.1, h.2]
    rfl
  rw [infinity, ← hmagnitude, ofMagnitude_magnitude]

theorem not_isNaN_ofMagnitude {magnitude : Nat} (h : magnitude ≤ infinityBits) :
    (ofMagnitude negative magnitude).isNaN = false := by
  have hbits : (ofMagnitude negative magnitude).bits.toNat =
      (if negative then 2 ^ 63 else 0) + magnitude := by
    rw [ofMagnitude, UInt64.toNat_ofNat']
    unfold infinityBits at h
    split <;> omega
  rw [isNaN, Bool.and_eq_false_iff, beq_eq_false_iff_ne, bne_eq_false_iff_eq, biased, fraction, hbits]
  unfold infinityBits at h
  split <;> omega

theorem not_isNaN_ofDigits (ds : Bytes) (power : Int) :
    (ofDigits negative ds power).isNaN = false := by
  unfold ofDigits
  dsimp only
  split
  · exact not_isNaN_ofMagnitude (Nat.zero_le _)
  · split
    · exact not_isNaN_ofMagnitude (Nat.le_refl _)
    · split
      · exact not_isNaN_ofMagnitude (Nat.zero_le _)
      · unfold ofRatio
        split
        · exact not_isNaN_ofMagnitude (Nat.zero_le _)
        · exact not_isNaN_ofMagnitude (Nat.min_le_right _ _)

theorem eq_ofDigits_of_readNumeral? {b : Bytes} (h : readNumeral? negative b = some x) :
    ∃ ds power, x = ofDigits negative ds power := by
  simp only [readNumeral?, Option.ite_none_left_eq_some, Option.map_eq_some_iff] at h
  obtain ⟨-, power, -, rfl⟩ := h
  exact ⟨_, _, rfl⟩

theorem eq_nan_of_readMagnitude? {b : Bytes} (h : readMagnitude? negative b = some x)
    (hx : x.isNaN = true) : x = nan := by
  unfold readMagnitude? at h
  dsimp only at h
  split at h
  · rw [← Option.some.inj h, infinity, not_isNaN_ofMagnitude (Nat.le_refl _)] at hx
    cases hx
  · split at h
    · exact (Option.some.inj h).symm
    · obtain ⟨ds, power, rfl⟩ := eq_ofDigits_of_readNumeral? h
      rw [not_isNaN_ofDigits] at hx
      cases hx

/-- Reading knows one NaN. -/
theorem eq_nan_of_read? {b : Bytes} (h : read? b = some x) (hx : x.isNaN = true) : x = nan := by
  unfold read? at h
  split at h <;> exact eq_nan_of_readMagnitude? h hx

/-! ## The round trip -/

/-- The digits of a finite double, without a sign, are read as its magnitude. -/
theorem readNumeral?_digitsAndPoint (hfinite : x.biased < 2047) :
    readNumeral? x.isNegative ((positional x.digitsAndPoint.1 x.digitsAndPoint.2 []).map
      Numeral.byteOf) = some x := by
  by_cases hzero : x.isZero = true
  · have hx : x = ofMagnitude x.isNegative 0 := by
      simp only [isZero, Bool.and_eq_true, beq_iff_eq] at hzero
      have hmagnitude : x.magnitude = 0 := by rw [magnitude_eq_fields, hzero.1, hzero.2]
      rw [← hmagnitude, ofMagnitude_magnitude]
    have htext : (positional ['0'] 1 []).map Numeral.byteOf = [48] := by decide
    have hread : readNumeral? x.isNegative [48] = some (ofDigits x.isNegative [48] 0) := rfl
    rw [digitsAndPoint, if_pos hzero, htext, hread]
    exact congrArg some hx.symm
  · have hx : 0 < x.significand := by
      simp only [isZero, Bool.and_eq_true, beq_iff_eq, not_and] at hzero
      unfold significand
      split
      · rename_i hbiased
        exact Nat.pos_of_ne_zero (hzero hbiased)
      · omega
    rw [digitsAndPoint, if_neg hzero]
    dsimp only
    have hne : Numeral.natChars x.shortest.digits ≠ [] := Nat.toDigits_ne_nil
    have hdenotes := denotes_positional hne (fun c hc => Numeral.isDigit_of_mem_natChars hc)
      ((Numeral.natChars x.shortest.digits).length + x.shortest.power)
    rw [add_sub_cancel_left, ← Numeral.natBytes, Numeral.value_natBytes] at hdenotes
    rw [hdenotes.readNumeral? hfinite hx (nearest_shortest hx), ofMagnitude_magnitude]

/-- **A double is read back from its text**, of the NaNs the one that reading gives. -/
theorem read?_plainText (h : x.isNaN = true → x = nan) :
    read? (Utf8.encode x.plainText) = some x := by
  unfold plainText
  split
  · rename_i hnan
    rw [h hnan]
    decide +kernel
  · rename_i hnan
    split
    · rename_i hinfinite
      rw [eq_infinity hinfinite]
      cases x.isNegative <;> decide +kernel
    · rename_i hinfinite
      have hfinite : x.biased < 2047 := by
        have hbound : x.biased < 2048 := Nat.mod_lt _ (by decide)
        simp only [isNaN, isInfinite, Bool.and_eq_true, beq_iff_eq, bne_iff_ne, not_and,
          not_not] at hnan hinfinite
        have hne : x.biased ≠ 2047 := fun heq => hinfinite heq (hnan heq)
        omega
      dsimp only
      have hascii : ∀ c ∈ x.signText ++ positional x.digitsAndPoint.1 x.digitsAndPoint.2 [],
          c.toNat < 0x80 := by
        intro c hc
        rcases mem_notation hc with rfl | rfl | hdigit
        · decide
        · decide
        · exact Nat.lt_of_le_of_lt (Char.isDigit_iff_toNat.mp hdigit).2 (by decide)
      rw [Utf8.encode_ofList_of_ascii hascii, List.map_append]
      have hbegins := (denotes_positional x.digitsAndPoint_ne_nil
        (fun c hc => isDigit_of_mem_digitsAndPoint hc) x.digitsAndPoint.2).begins
      exact (read?_signed x hbegins).trans (readNumeral?_digitsAndPoint hfinite)

/-- Whatever text a double was read from, it is read back from its own. -/
theorem read?_plainText_of_read? {b : Bytes} (h : read? b = some x) :
    read? (Utf8.encode x.plainText) = some x :=
  read?_plainText (eq_nan_of_read? h)

end RespClient.Binary64
