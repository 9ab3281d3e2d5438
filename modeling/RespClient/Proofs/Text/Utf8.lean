import RespClient.Text.Utf8

/-!
# Text read back

Reading the UTF-8 bytes of a text gives the text again. The reader takes the bytes
of one character after another, and is between characters behind each of them. These are also
the places where a text can be cut.
-/

namespace RespClient.Utf8

/-- A byte that carries six bits of a character. -/
def continuation (n : Nat) : UInt8 :=
  UInt8.ofNat (n % 64 + 0x80)

theorem ofNat_eq_continuation (n : Nat) : UInt8.ofNat (n % 64 + 0x80) = continuation n := rfl

theorem toNat_continuation (n : Nat) : (continuation n).toNat = n % 64 + 0x80 := by
  rw [continuation, UInt8.toNat_ofNat']
  omega

namespace Reader

/-- The last byte that a character owes completes it. -/
theorem step_last {done : List Char} {code low high n : Nat}
    (hlow : low ≤ n % 64 + 0x80) (hhigh : n % 64 + 0x80 ≤ high) :
    step ⟨done, some ⟨code, 1, low, high⟩⟩ (continuation n) =
      ⟨Char.ofNat (code * 64 + n % 64) :: done, none⟩ := by
  simp [step, toNat_continuation, hlow, hhigh]

/-- A byte before the last one adds six bits. -/
theorem step_more {done : List Char} {code owed low high n : Nat}
    (hlow : low ≤ n % 64 + 0x80) (hhigh : n % 64 + 0x80 ≤ high) :
    step ⟨done, some ⟨code, owed + 2, low, high⟩⟩ (continuation n) =
      ⟨done, some ⟨code * 64 + n % 64, owed + 1, 0x80, 0xBF⟩⟩ := by
  simp [step, toNat_continuation, hlow, hhigh]

theorem step_start (done : List Char) (byte : UInt8) :
    step ⟨done, none⟩ byte = start done byte := rfl

end Reader

/-! ## The first byte of a character

What the first byte begins, with the range in which the second byte has to lie. The
second byte that is written lies there, since no text is overlong, a surrogate or
above U+10FFFF. -/

theorem start_of_two (done : List Char) {v : Nat} (hlow : 0x80 ≤ v) (hhigh : v ≤ 0x7FF) :
    Reader.start done (UInt8.ofNat (v / 64 % 0x20 + 0xC0)) =
      ⟨done, some ⟨v / 64, 1, 0x80, 0xBF⟩⟩ := by
  have hbyte : (UInt8.ofNat (v / 64 % 0x20 + 0xC0)).toNat = v / 64 + 0xC0 := by
    rw [UInt8.toNat_ofNat']
    omega
  have h1 : ¬v / 64 + 0xC0 < 0x80 := by omega
  have h2 : ¬v / 64 + 0xC0 < 0xC2 := by omega
  have h3 : v / 64 + 0xC0 < 0xE0 := by omega
  simp only [Reader.start, first, hbyte, if_neg h1, if_neg h2, if_pos h3, Nat.add_sub_cancel]

theorem start_of_three (done : List Char) {v : Nat} (hlow : 0x800 ≤ v) (hhigh : v ≤ 0xFFFF)
    (hvalid : v < 0xD800 ∨ 0xDFFF < v) :
    ∃ low high, low ≤ v / 64 % 64 + 0x80 ∧ v / 64 % 64 + 0x80 ≤ high ∧
      Reader.start done (UInt8.ofNat (v / 4096 % 0x10 + 0xE0)) =
        ⟨done, some ⟨v / 4096, 2, low, high⟩⟩ := by
  have hbyte : (UInt8.ofNat (v / 4096 % 0x10 + 0xE0)).toNat = v / 4096 + 0xE0 := by
    rw [UInt8.toNat_ofNat']
    omega
  have h1 : ¬v / 4096 + 0xE0 < 0x80 := by omega
  have h2 : ¬v / 4096 + 0xE0 < 0xC2 := by omega
  have h3 : ¬v / 4096 + 0xE0 < 0xE0 := by omega
  have h4 : v / 4096 + 0xE0 < 0xF0 := by omega
  simp only [Reader.start, first, hbyte, if_neg h1, if_neg h2, if_neg h3, if_pos h4,
    Nat.add_sub_cancel]
  by_cases hfirst : v / 4096 = 0
  · exact ⟨0xA0, 0xBF, by omega, by omega, by simp [hfirst]⟩
  · by_cases hsurrogate : v / 4096 = 13
    · exact ⟨0x80, 0x9F, by omega, by omega, by simp [hsurrogate]⟩
    · refine ⟨0x80, 0xBF, by omega, by omega, ?_⟩
      rw [if_neg (by omega), if_neg (by omega)]

theorem start_of_four (done : List Char) {v : Nat} (hlow : 0x10000 ≤ v) (hhigh : v < 0x110000) :
    ∃ low high, low ≤ v / 4096 % 64 + 0x80 ∧ v / 4096 % 64 + 0x80 ≤ high ∧
      Reader.start done (UInt8.ofNat (v / 262144 % 0x08 + 0xF0)) =
        ⟨done, some ⟨v / 262144, 3, low, high⟩⟩ := by
  have hbyte : (UInt8.ofNat (v / 262144 % 0x08 + 0xF0)).toNat = v / 262144 + 0xF0 := by
    rw [UInt8.toNat_ofNat']
    omega
  have h1 : ¬v / 262144 + 0xF0 < 0x80 := by omega
  have h2 : ¬v / 262144 + 0xF0 < 0xC2 := by omega
  have h3 : ¬v / 262144 + 0xF0 < 0xE0 := by omega
  have h4 : ¬v / 262144 + 0xF0 = 0xE0 := by omega
  have h5 : ¬v / 262144 + 0xF0 = 0xED := by omega
  have h6 : ¬v / 262144 + 0xF0 < 0xF0 := by omega
  simp only [Reader.start, first, hbyte, if_neg h1, if_neg h2, if_neg h3, if_neg h4, if_neg h5,
    if_neg h6, Nat.add_sub_cancel]
  by_cases hfirst : v / 262144 = 0
  · exact ⟨0x90, 0xBF, by omega, by omega, by simp [hfirst]⟩
  · by_cases hlast : v / 262144 = 4
    · exact ⟨0x80, 0x8F, by omega, by omega, by simp [hlast]⟩
    · refine ⟨0x80, 0xBF, by omega, by omega, ?_⟩
      rw [if_neg (by omega), if_pos (by omega)]

/-! ## Whole characters and whole texts -/

theorem start_of_one (done : List Char) {v : Nat} (h : v ≤ 0x7F) :
    Reader.start done (UInt8.ofNat v) = ⟨Char.ofNat v :: done, none⟩ := by
  have hbyte : (UInt8.ofNat v).toNat = v := by
    rw [UInt8.toNat_ofNat']
    omega
  simp only [Reader.start, first, hbyte, if_pos (show v < 0x80 by omega)]

/-- The reader takes the bytes of one character and is between characters again. -/
theorem foldl_step_char (done : List Char) (c : Char) :
    (String.utf8EncodeChar c).foldl Reader.step ⟨done, none⟩ = ⟨c :: done, none⟩ := by
  have hvalid : c.val.toNat < 0xD800 ∨ 0xDFFF < c.val.toNat ∧ c.val.toNat < 0x110000 := c.valid
  have hchar : Char.ofNat c.val.toNat = c := Char.ofNat_toNat c
  unfold String.utf8EncodeChar
  generalize c.val.toNat = v at hvalid hchar
  -- one case for each number of bytes
  by_cases h1 : v ≤ 0x7F
  · simp only [if_pos h1, List.foldl_cons, List.foldl_nil, Reader.step_start, start_of_one done h1,
      hchar]
  · by_cases h2 : v ≤ 0x7FF
    · simp only [if_neg h1, if_pos h2, List.foldl_cons, List.foldl_nil, Reader.step_start,
        start_of_two done (by omega) h2]
      rw [ofNat_eq_continuation, Reader.step_last (by omega) (by omega),
        show v / 64 * 64 + v % 64 = v by omega, hchar]
    · by_cases h3 : v ≤ 0xFFFF
      · obtain ⟨low, high, hlow, hhigh, hstart⟩ :=
          start_of_three done (v := v) (by omega) h3 (by omega)
        simp only [if_neg h1, if_neg h2, if_pos h3, List.foldl_cons, List.foldl_nil,
          Reader.step_start, hstart, ofNat_eq_continuation]
        rw [Reader.step_more hlow hhigh, Reader.step_last (by omega) (by omega),
          show (v / 4096 * 64 + v / 64 % 64) * 64 + v % 64 = v by omega, hchar]
      · obtain ⟨low, high, hlow, hhigh, hstart⟩ :=
          start_of_four done (v := v) (by omega) (by omega)
        simp only [if_neg h1, if_neg h2, if_neg h3, List.foldl_cons, List.foldl_nil,
          Reader.step_start, hstart, ofNat_eq_continuation]
        rw [Reader.step_more hlow hhigh, Reader.step_more (by omega) (by omega),
          Reader.step_last (by omega) (by omega),
          show ((v / 262144 * 64 + v / 4096 % 64) * 64 + v / 64 % 64) * 64 + v % 64 = v by omega,
          hchar]

theorem foldl_step_chars (done cs : List Char) :
    (cs.flatMap String.utf8EncodeChar).foldl Reader.step ⟨done, none⟩ =
      ⟨cs.reverse ++ done, none⟩ := by
  induction cs generalizing done with
  | nil => rfl
  | cons c rest ih =>
      rw [List.flatMap_cons, List.foldl_append, foldl_step_char, ih, List.reverse_cons,
        List.append_assoc]
      rfl

/-- **Text survives its bytes.** Reading what was written never meets a byte that is
part of no character. -/
theorem lossy_encode (text : String) : lossy (encode text) = text := by
  show String.ofList (((text.toList.flatMap String.utf8EncodeChar).foldl Reader.step
    ⟨[], none⟩).finish) = text
  rw [foldl_step_chars, List.append_nil]
  show String.ofList text.toList.reverse.reverse = text
  rw [List.reverse_reverse, String.ofList_toList]

/-- Different texts have different bytes. -/
theorem encode_inj {text other : String} : encode text = encode other ↔ text = other :=
  ⟨fun h => by rw [← lossy_encode text, h, lossy_encode], fun h => by rw [h]⟩

/-! ## Text without line feeds -/

/-- Every byte of a character above ASCII is above ASCII. -/
theorem le_of_mem_utf8EncodeChar {c : Char} {b : UInt8} (hc : 0x7F < c.val.toNat)
    (hb : b ∈ String.utf8EncodeChar c) : 0x80 ≤ b.toNat := by
  have hvalid : c.val.toNat < 0xD800 ∨ 0xDFFF < c.val.toNat ∧ c.val.toNat < 0x110000 := c.valid
  unfold String.utf8EncodeChar at hb
  generalize c.val.toNat = v at hc hvalid hb
  rw [if_neg (show ¬v ≤ 0x7F by omega)] at hb
  by_cases h2 : v ≤ 0x7FF
  · rw [if_pos h2, List.mem_cons, List.mem_singleton] at hb
    rcases hb with rfl | rfl <;> (rw [UInt8.toNat_ofNat']; omega)
  · by_cases h3 : v ≤ 0xFFFF
    · rw [if_neg h2, if_pos h3, List.mem_cons, List.mem_cons, List.mem_singleton] at hb
      rcases hb with rfl | rfl | rfl <;> (rw [UInt8.toNat_ofNat']; omega)
    · rw [if_neg h2, if_neg h3, List.mem_cons, List.mem_cons, List.mem_cons,
        List.mem_singleton] at hb
      rcases hb with rfl | rfl | rfl | rfl <;> (rw [UInt8.toNat_ofNat']; omega)

theorem lf_mem_utf8EncodeChar {c : Char} :
    Bytes.lf ∈ String.utf8EncodeChar c ↔ c = '\n' := by
  constructor
  · intro h
    by_cases hc : c.val.toNat ≤ 0x7F
    · unfold String.utf8EncodeChar at h
      rw [if_pos hc, List.mem_singleton] at h
      have hlf : UInt8.toNat 10 = _ := congrArg UInt8.toNat h
      rw [UInt8.toNat_ofNat', Nat.mod_eq_of_lt (by omega)] at hlf
      rw [← Char.ofNat_toNat c]
      exact congrArg Char.ofNat hlf.symm
    · exact absurd (le_of_mem_utf8EncodeChar (by omega) h) (by decide)
  · rintro rfl
    decide

/-- The bytes of a text hold a line feed only where the text does. -/
theorem lf_mem_encode {text : String} : Bytes.lf ∈ encode text ↔ '\n' ∈ text.toList := by
  simp only [encode, List.mem_flatMap, lf_mem_utf8EncodeChar, exists_eq_right]

/-! ## Places to cut -/

variable {n : Nat} {cs rest : List Char}

theorem utf8ByteSize_ofList (cs : List Char) : (String.ofList cs).utf8ByteSize = size cs := by
  induction cs with
  | nil => rfl
  | cons c cs ih =>
      rw [String.ofList_cons, String.utf8ByteSize_append, String.utf8ByteSize_singleton, ih]
      rfl

theorem eq_append_of_dropBytes? (h : dropBytes? n cs = some rest) :
    ∃ front, cs = front ++ rest ∧ size front = n := by
  induction cs generalizing n with
  | nil =>
      cases n with
      | zero =>
          obtain rfl : [] = rest := by simpa [dropBytes?] using h
          exact ⟨[], rfl, rfl⟩
      | succ n => simp [dropBytes?] at h
  | cons c cs ih =>
      cases n with
      | zero =>
          obtain rfl : c :: cs = rest := by simpa [dropBytes?] using h
          exact ⟨[], rfl, rfl⟩
      | succ n =>
          rw [dropBytes?] at h
          split at h
          · rename_i hfits
            obtain ⟨front, rfl, hsize⟩ := ih h
            refine ⟨c :: front, rfl, ?_⟩
            rw [size]
            omega
          · cases h

/-- A text can be cut at the positions that are valid in it, and only there. -/
theorem isValid_iff : (⟨n⟩ : String.Pos.Raw).IsValid (String.ofList cs) ↔
    ∃ rest, dropBytes? n cs = some rest := by
  rw [String.Pos.Raw.isValid_ofList]
  constructor
  · rintro ⟨i, hi⟩
    have hsize : n = size (cs.take i) := hi.trans (utf8ByteSize_ofList _)
    have hcut := dropBytes?_append (cs.take i) (cs.drop i)
    rw [List.take_append_drop, ← hsize] at hcut
    exact ⟨cs.drop i, hcut⟩
  · rintro ⟨rest, hrest⟩
    obtain ⟨front, rfl, rfl⟩ := eq_append_of_dropBytes? hrest
    refine ⟨front.length, ?_⟩
    rw [List.take_left, utf8ByteSize_ofList]

end RespClient.Utf8
