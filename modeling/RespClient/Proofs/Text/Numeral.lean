import RespClient.Proofs.Text.Lossy
import RespClient.Text.Numeral

/-!
# Numerals read back

The decimal digits of a number denote it, and a signed number that 64 bits hold is
read back from its own text. A number of 16 bits is read from every text that denotes it,
and from no other. The text of a number is made of digits and at most one sign, so that it
never ends a line.
-/

namespace RespClient.Numeral

/-! ## Digits as bytes -/

theorem isDigit_of_mem_natChars {n : Nat} {c : Char} (h : c ∈ natChars n) : c.isDigit = true :=
  Nat.isDigit_of_mem_toDigits (by decide) (by decide) h

theorem notMem_natChars {c : Char} (h : c.isDigit = false) (n : Nat) : c ∉ natChars n := by
  intro hmem
  rw [isDigit_of_mem_natChars hmem] at h
  cases h

theorem natChars_ne_nil (n : Nat) : natChars n ≠ [] := Nat.toDigits_ne_nil

theorem toNat_byteOf {c : Char} (h : c.isDigit = true) : (byteOf c).toNat = c.toNat := by
  have hc : c.toNat ≤ 57 := (Char.isDigit_iff_toNat.mp h).2
  rw [byteOf, UInt8.toNat_ofNat']
  omega

theorem isDigit_byteOf {c : Char} (h : c.isDigit = true) : isDigit (byteOf c) = true := by
  have hc : 48 ≤ c.toNat ∧ c.toNat ≤ 57 := Char.isDigit_iff_toNat.mp h
  simp [isDigit, toNat_byteOf h, hc]

theorem isDigit_of_mem_natBytes {n : Nat} {b : UInt8} (h : b ∈ natBytes n) :
    isDigit b = true := by
  obtain ⟨c, hc, rfl⟩ := List.mem_map.mp h
  exact isDigit_byteOf (isDigit_of_mem_natChars hc)

theorem natBytes_ne_nil (n : Nat) : natBytes n ≠ [] := by
  simp [natBytes, natChars, Nat.toDigits_ne_nil]

/-- What begins a run of digits is no sign. -/
theorem natBytes_eq_cons (n : Nat) :
    ∃ b rest, natBytes n = b :: rest ∧ b ≠ 43 ∧ b ≠ 45 := by
  obtain ⟨b, rest, h⟩ := List.exists_cons_of_ne_nil (natBytes_ne_nil n)
  have hb : isDigit b = true := isDigit_of_mem_natBytes (h ▸ List.mem_cons_self)
  refine ⟨b, rest, h, ?_, ?_⟩ <;> (rintro rfl; exact absurd hb (by decide))

/-! ## Reading what was written -/

theorem valueFrom_map_byteOf (n : Nat) {cs : List Char} (h : ∀ c ∈ cs, c.isDigit = true) :
    valueFrom n (cs.map byteOf) = Nat.ofDigitChars 10 cs n := by
  induction cs generalizing n with
  | nil => simp [valueFrom]
  | cons c rest ih =>
      have hc := toNat_byteOf (h c List.mem_cons_self)
      have hrest := ih (n * 10 + (c.toNat - 48)) fun d hd => h d (List.mem_cons_of_mem _ hd)
      rw [Nat.ofDigitChars_cons, Nat.mul_comm 10 n]
      simpa [valueFrom, hc] using hrest

theorem value_natBytes (n : Nat) : value (natBytes n) = n := by
  rw [value_eq, natBytes, valueFrom_map_byteOf 0 fun _ => isDigit_of_mem_natChars]
  exact Nat.ofDigitChars_ten_toDigits

theorem natBytes_injective {m n : Nat} (h : natBytes m = natBytes n) : m = n := by
  rw [← value_natBytes m, h, value_natBytes]

theorem readDigits?_natBytes (n : Nat) : readDigits? (natBytes n) = some n := by
  have hall : (natBytes n).all isDigit = true :=
    List.all_eq_true.mpr fun _ => isDigit_of_mem_natBytes
  simp [readDigits?, hall, natBytes_ne_nil, value_natBytes]

/-- A number of any size is read back from its text. -/
theorem readSigned?_intBytes (z : Int) : readSigned? (intBytes z) = some z := by
  cases z with
  | ofNat n =>
      show readSigned? (natBytes n) = _
      obtain ⟨b, rest, h, hplus, hminus⟩ := natBytes_eq_cons n
      have hread := readDigits?_natBytes n
      rw [h] at hread ⊢
      simp [readSigned?, hplus, hminus, hread]
  | negSucc n =>
      show (readDigits? (natBytes (n + 1))).map (fun m => -(Int.ofNat m)) = _
      rw [readDigits?_natBytes]
      rfl

theorem readInt64?_intBytes {z : Int} (hlow : -2 ^ 63 ≤ z) (hhigh : z < 2 ^ 63) :
    readInt64? (intBytes z) = some (Int64.ofInt z) := by
  have hfits : -(2 ^ (64 - 1) : Int) ≤ z ∧ z < (2 ^ (64 - 1) : Int) := by omega
  rw [readInt64?, readWord?, readSigned?_intBytes, Option.filter_some, if_pos (by simpa using hfits)]
  rfl

/-- A signed word is read back from its text. -/
theorem readInt64?_intBytes_toInt (n : Int64) : readInt64? (intBytes n.toInt) = some n := by
  rw [readInt64?_intBytes n.le_toInt n.toInt_lt, Int64.ofInt_toInt]

theorem readInt64?_natBytes {n : Nat} (h : n < 2 ^ 63) :
    readInt64? (natBytes n) = some (Int64.ofInt n) :=
  readInt64?_intBytes (z := n) (by omega) (by omega)

/-! ## Runs of digits -/

theorem value_append (a b : Bytes) : value (a ++ b) = value a * 10 ^ b.length + value b := by
  rw [value_eq, value_eq, value_eq, ← valueFrom_eq]
  exact List.foldl_append

theorem value_zeros (n : Nat) : value (List.replicate n 48) = 0 := by
  rw [value_eq]
  induction n with
  | zero => rfl
  | succ n ih => exact ih

theorem value_zeros_append (n : Nat) (ds : Bytes) :
    value (List.replicate n 48 ++ ds) = value ds := by
  rw [value_append, value_zeros, Nat.zero_mul, Nat.zero_add]

theorem value_append_zeros (ds : Bytes) (n : Nat) :
    value (ds ++ List.replicate n 48) = value ds * 10 ^ n := by
  rw [value_append, value_zeros, List.length_replicate, Nat.add_zero]

theorem value_cons (d : UInt8) (rest : Bytes) :
    value (d :: rest) = (d.toNat - 48) * 10 ^ rest.length + value rest := by
  have happend := value_append [d] rest
  rw [value_eq [d]] at happend
  simpa [valueFrom] using happend

theorem value_lt {ds : Bytes} (h : ∀ b ∈ ds, isDigit b = true) : value ds < 10 ^ ds.length := by
  induction ds with
  | nil => decide
  | cons d rest ih =>
      have hrest := ih fun b hb => h b (List.mem_cons_of_mem _ hb)
      have hd := h d List.mem_cons_self
      simp only [isDigit, Bool.and_eq_true, decide_eq_true_eq] at hd
      have hdigit : (d.toNat - 48) * 10 ^ rest.length ≤ 9 * 10 ^ rest.length :=
        Nat.mul_le_mul_right _ (by omega)
      rw [value_cons, List.length_cons, Nat.pow_succ]
      omega

theorem le_value {d : UInt8} {rest : Bytes} (h : isDigit d = true) (hzero : d ≠ 48) :
    10 ^ rest.length ≤ value (d :: rest) := by
  have hd : 48 < d.toNat := by
    simp only [isDigit, Bool.and_eq_true, decide_eq_true_eq] at h
    exact Nat.lt_of_le_of_ne h.1 fun heq => hzero (UInt8.toNat_inj.mp heq.symm)
  have hdigit : 1 * 10 ^ rest.length ≤ (d.toNat - 48) * 10 ^ rest.length :=
    Nat.mul_le_mul_right _ (by omega)
  rw [value_cons]
  omega

/-! ## Numbers of 16 bits -/

/-- The text is one or more digits, with `+` in front or not, that denote the number. -/
def Denotes16 (text : String) (n : UInt16) : Prop :=
  ∃ digits : Bytes, digits ≠ [] ∧ (∀ b ∈ digits, isDigit b = true) ∧ value digits = n.toNat ∧
    (Utf8.encode text = digits ∨ Utf8.encode text = 43 :: digits)

theorem readDigits?_eq_some {ds : Bytes} {n : Nat} :
    readDigits? ds = some n ↔ ds ≠ [] ∧ (∀ b ∈ ds, isDigit b = true) ∧ value ds = n := by
  simp [readDigits?, and_assoc]

/-- A sign is no digit, so that a text has one reading at most. -/
theorem readUnsigned?_eq_some {max n : Nat} {bs : Bytes} :
    readUnsigned? max bs = some n ↔ n ≤ max ∧ ∃ ds, (bs = ds ∨ bs = 43 :: ds) ∧
      readDigits? ds = some n := by
  have hsign : ∀ ds, readDigits? (43 :: ds) = none := fun ds => by simp [readDigits?, isDigit]
  unfold readUnsigned?
  rw [Option.filter_eq_some_iff, decide_eq_true_iff, and_comm]
  refine and_congr_right fun _ => ?_
  constructor
  · intro h
    split at h
    · exact ⟨_, .inr rfl, h⟩
    · exact ⟨_, .inl rfl, h⟩
  · rintro ⟨ds, rfl | rfl, h⟩
    · split
      · rw [hsign] at h
        cases h
      · exact h
    · exact h

theorem readUInt16?_eq_some {text : String} {n : UInt16} :
    readUInt16? text = some n ↔ Denotes16 text n := by
  rw [readUInt16?, Option.map_eq_some_iff]
  constructor
  · rintro ⟨m, hread, rfl⟩
    obtain ⟨hmax, ds, htext, hdigits⟩ := readUnsigned?_eq_some.mp hread
    obtain ⟨hne, hall, rfl⟩ := readDigits?_eq_some.mp hdigits
    refine ⟨ds, hne, hall, ?_, htext⟩
    rw [UInt16.toNat_ofNat']
    omega
  · rintro ⟨ds, hne, hall, hvalue, htext⟩
    have hfits := n.toNat_lt
    refine ⟨n.toNat, readUnsigned?_eq_some.mpr ⟨by omega, ds, htext, ?_⟩, UInt16.ofNat_toNat⟩
    exact readDigits?_eq_some.mpr ⟨hne, hall, hvalue⟩

/-- A number of 16 bits is read from its own digits. -/
theorem readUInt16?_natText (n : UInt16) : readUInt16? (natText n.toNat) = some n := by
  have hascii : ∀ c ∈ natChars n.toNat, c.toNat < 0x80 := by
    intro c hc
    have hdigit : c.toNat ≤ 57 := (Char.isDigit_iff_toNat.mp (isDigit_of_mem_natChars hc)).2
    omega
  refine readUInt16?_eq_some.mpr ⟨natBytes n.toNat, natBytes_ne_nil _,
    fun b hb => isDigit_of_mem_natBytes hb, value_natBytes _, .inl ?_⟩
  exact Utf8.encode_ofList_of_ascii hascii

/-- A colon is neither a digit nor a sign. -/
theorem readUInt16?_of_colon {text : String} (h : ':' ∈ text.toList) : readUInt16? text = none := by
  have hcolon : (58 : UInt8) ∈ Utf8.encode text := List.mem_flatMap.mpr ⟨':', h, by decide⟩
  refine Option.eq_none_iff_forall_ne_some.mpr fun n hread => ?_
  obtain ⟨digits, -, hdigits, -, htext⟩ := readUInt16?_eq_some.mp hread
  have hmem : (58 : UInt8) ∈ digits := by
    rcases htext with htext | htext
    · exact htext ▸ hcolon
    · exact List.mem_of_ne_of_mem (by decide) (htext ▸ hcolon)
  exact absurd (hdigits 58 hmem) (by decide)

/-! ## Lines -/

theorem lf_notMem_natBytes (n : Nat) : Bytes.lf ∉ natBytes n := fun h =>
  absurd (isDigit_of_mem_natBytes h) (by decide)

theorem lf_notMem_intBytes (z : Int) : Bytes.lf ∉ intBytes z := by
  cases z with
  | ofNat n => exact lf_notMem_natBytes n
  | negSucc n =>
      show Bytes.lf ∉ 45 :: natBytes (n + 1)
      rw [List.mem_cons, not_or]
      exact ⟨by decide, lf_notMem_natBytes (n + 1)⟩

end RespClient.Numeral
