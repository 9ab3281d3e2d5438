import Mathlib.Data.Nat.Digits.Defs
import RespClient.Proofs.Wire.Canonical

/-!
# Big numbers narrowed

A big number stays the text that it was on the wire, and only who asks for a number of 128 bits
has it read. What the text denotes is said here place by place, without the reader, which counts
from the first digit on. The reader gives that number or nothing, and nothing exactly where two's
complement of 128 bits has no room for it: however long the text is, and with however many zeros
in front.
-/

namespace RespClient

namespace Grammar

/-- The number that digits denote: the last counts once and each counts ten times the next. -/
def placeValue (digits : Bytes) : Nat :=
  Nat.ofDigits 10 (digits.reverse.map fun digit => digit.toNat - 48)

/-- The text of a big number denotes a whole number. -/
inductive Denotes : Bytes → Int → Prop
  | plain {digits : Bytes} (h : Digits digits) : Denotes digits (placeValue digits)
  | minus {digits : Bytes} (h : Digits digits) : Denotes (45 :: digits) (-placeValue digits)

variable {b digits : Bytes} {v v' : Int}

theorem exists_denotes (h : BigNumber b) : ∃ v, Denotes b v := by
  rcases h with h | ⟨digits, rfl, h⟩
  · exact ⟨_, .plain h⟩
  · exact ⟨_, .minus h⟩

/-- Counting from the first digit on comes to the sum of the places. -/
theorem value_eq_placeValue (digits : Bytes) : Numeral.value digits = placeValue digits := by
  induction digits using List.reverseRecOn with
  | nil => rfl
  | append_singleton digits digit ih =>
      have hplaces : placeValue (digits ++ [digit]) =
          (digit.toNat - 48) + 10 * placeValue digits := by
        simp [placeValue, Nat.ofDigits_cons]
      have hdigit : Numeral.value [digit] = digit.toNat - 48 := by
        simp [Numeral.value_eq, Numeral.valueFrom]
      rw [Numeral.value_append, hdigit, ih, hplaces, List.length_singleton]
      omega

theorem readDigits?_of_digits (h : Digits digits) :
    Numeral.readDigits? digits = some (placeValue digits) :=
  Numeral.readDigits?_eq_some.mpr ⟨h.1, h.2, value_eq_placeValue digits⟩

/-- The reader of signed numbers takes a text for what it denotes. -/
theorem readSigned?_of_denotes (h : Denotes b v) : Numeral.readSigned? b = some v := by
  cases h with
  | plain h =>
      have hread := readDigits?_of_digits h
      unfold Numeral.readSigned?
      split
      · exact absurd (h.2 43 List.mem_cons_self) (by decide)
      · exact absurd (h.2 45 List.mem_cons_self) (by decide)
      · rw [hread]
        rfl
  | minus h =>
      have hread := readDigits?_of_digits h
      show (Numeral.readDigits? _).map _ = _
      rw [hread]
      rfl

/-- A text denotes one number at most. -/
theorem Denotes.unique (h : Denotes b v) (h' : Denotes b v') : v = v' :=
  Option.some.inj ((readSigned?_of_denotes h).symm.trans (readSigned?_of_denotes h'))

/-- A word is read exactly where it holds the number. -/
theorem readWord?_of_denotes (bits : Nat) (h : Denotes b v) : Numeral.readWord? bits b =
    if -2 ^ (bits - 1) ≤ v ∧ v < 2 ^ (bits - 1) then some v else none := by
  simp [Numeral.readWord?, readSigned?_of_denotes h, Option.filter_some]

/-- A big number is a line, and its text is the payload of that line. -/
theorem Derives.bigNumber_line {p : Protocol} {m : Nat} {text : String} {w : Bytes}
    (h : Derives p m (.bigNumber text) w) :
    BigNumber (Utf8.encode text) ∧ w = Encoding.line .bigNumber (Utf8.encode text) := by
  cases h with
  | scalar hp hb h =>
      cases h with
      | bigNumber h =>
          rw [Utf8.encode_lossy_of_ascii h.ascii]
          exact ⟨h, rfl⟩
  | sequence hp htag hf hlimit hs => cases htag <;> cases hf

end Grammar

namespace Decoder

open Transport Grammar

variable {τ : Type} [Transport τ] [Lawful τ]

/-- **Big numbers narrow without loss.** A big number was decoded from a line whose payload is its
text. With `v` the number that the payload denotes, 128 bits give `v` or, where they do not hold
it, nothing. Written again in either revision, the line is the one that was read. -/
theorem decode_bigNumber_narrows (d : Decoder) {t t' : τ} {text : String}
    (h : d.decode t = (.ok (.bigNumber text), t')) :
    ∃ v, Denotes (Utf8.encode text) v ∧
      (Frame.bigNumber text).narrow = (if -2 ^ 127 ≤ v ∧ v < 2 ^ 127 then some v else none) ∧
      Takes t (Encoding.line .bigNumber (Utf8.encode text)) t' ∧
      ∀ p, (Frame.bigNumber text).encode p = Encoding.line .bigNumber (Utf8.encode text) := by
  obtain ⟨w, hderives, htakes⟩ := d.decode_sound h
  obtain ⟨hnumber, rfl⟩ := hderives.bigNumber_line
  obtain ⟨v, hdenotes⟩ := exists_denotes hnumber
  refine ⟨v, hdenotes, readWord?_of_denotes 128 hdenotes, htakes, fun p => ?_⟩
  rw [Frame.encode]

/-- The least number of 128 bits, with zeros in front. -/
def least : String := "-000170141183460469231731687303715884105728"

/-- The number below it. -/
def belowLeast : String := "-170141183460469231731687303715884105729"

/-- The least number is narrowed, whatever zeros are in front of it; the one below it is not. -/
theorem decode_bigNumber_narrows_least :
    (Frame.bigNumber least).narrow = some (-2 ^ 127) ∧
      (Frame.bigNumber belowLeast).narrow = none := by
  have hnarrow : ∀ {text : String} {v : Int}, Denotes (Utf8.encode text) v →
      (⟨.resp3, 128⟩ : Decoder).decode
        ({ input := Encoding.line .bigNumber (Utf8.encode text) ++ [43] } : MemoryLink) =
          (.ok (.bigNumber text), { input := [43] }) →
      (Frame.bigNumber text).narrow = if -2 ^ 127 ≤ v ∧ v < 2 ^ 127 then some v else none := by
    intro text v hv hdecode
    obtain ⟨v', hv', hnarrow, -⟩ := decode_bigNumber_narrows _ hdecode
    rw [hnarrow, hv'.unique hv]
  have hminus : ∀ {digits : Bytes} {n : Nat}, Digits digits → placeValue digits = n →
      Denotes (45 :: digits) (-n) := by
    rintro digits n hdigits rfl
    exact .minus hdigits
  have hleast : Denotes (Utf8.encode least) (-(2 ^ 127 : Nat)) :=
    hminus ⟨by decide, List.all_eq_true.mp (by decide)⟩ (by decide +kernel)
  have hbelow : Denotes (Utf8.encode belowLeast) (-(2 ^ 127 + 1 : Nat)) :=
    hminus ⟨by decide, List.all_eq_true.mp (by decide)⟩ (by decide +kernel)
  exact ⟨(hnarrow hleast rfl).trans rfl, (hnarrow hbelow rfl).trans rfl⟩

end Decoder

end RespClient
