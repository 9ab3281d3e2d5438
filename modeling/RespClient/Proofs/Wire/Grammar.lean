import RespClient.Frame.Encoding
import RespClient.Wire.Decoding
import RespClient.Proofs.Text.Numeral

/-!
# The grammar of replies

Which byte strings are a reply, and which frame they are, said without a reader. A
reply begins with a header line: a tag and a payload without a line feed. It ends
there, or a blob as long as the payload declares follows, or as many replies as it
declares. The second half says which header payloads the decoder takes for a length,
a count and a scalar.
-/

namespace RespClient

/-- Does a revision of the protocol know a tag? -/
def Protocol.Knows (p : Protocol) (tag : Tag) : Prop :=
  p = .resp3 ∨ tag ∈ Tag.resp2

theorem Tag.ofByte?_eq_some {p : Protocol} {byte : UInt8} {tag : Tag} :
    Tag.ofByte? p byte = some tag ↔ byte = tag.byte ∧ p.Knows tag := by
  constructor
  · intro h
    unfold ofByte? at h
    have hbyte : tag.byte = byte := by simpa using List.find?_some h
    refine ⟨hbyte.symm, ?_⟩
    cases p with
    | resp2 => exact Or.inr (List.mem_of_find?_eq_some h)
    | resp3 => exact Or.inl rfl
  · rintro ⟨rfl, hp⟩
    cases p with
    | resp3 => cases tag <;> rfl
    | resp2 =>
        have htag : tag ∈ Tag.resp2 := hp.resolve_left (by decide)
        simp only [Tag.resp2, List.mem_cons, List.not_mem_nil, or_false] at htag
        rcases htag with rfl | rfl | rfl | rfl | rfl <;> rfl

namespace Grammar

/-- `w` is made of one piece for each element of a list, in order. -/
inductive Each {α : Type} (R : α → Bytes → Prop) : List α → Bytes → Prop
  | nil : Each R [] []
  | cons {a : α} {as : List α} {v w : Bytes} (h : R a v) (hs : Each R as w) :
      Each R (a :: as) (v ++ w)

theorem each_append {α : Type} {R : α → Bytes → Prop} {as bs : List α} {v w : Bytes}
    (h : Each R as v) (h' : Each R bs w) : Each R (as ++ bs) (v ++ w) := by
  induction h with
  | nil => exact h'
  | cons h _ ih =>
      rw [List.append_assoc]
      exact .cons h ih

theorem each_singleton {α : Type} {R : α → Bytes → Prop} {a : α} {w : Bytes} (h : R a w) :
    Each R [a] w := by
  rw [← List.append_nil w]
  exact .cons h .nil

/-- One or more digits. -/
def Digits (b : Bytes) : Prop :=
  b ≠ [] ∧ ∀ d ∈ b, Numeral.isDigit d = true

/-- An optional minus sign and one or more digits. -/
def BigNumber (b : Bytes) : Prop :=
  Digits b ∨ ∃ digits, b = 45 :: digits ∧ Digits digits

/-- The payloads of the header lines that are a whole frame. -/
inductive Scalar : Tag → Bytes → Frame → Prop
  | simple (b : Bytes) : Scalar .simple b (.simple b)
  | error (b : Bytes) : Scalar .error b (.error ⟨Utf8.lossy b, false⟩)
  | integer {b : Bytes} {n : Int64} (h : Numeral.readInt64? b = some n) :
      Scalar .integer b (.integer n)
  | null (b : Bytes) : Scalar .null b .null
  | double {b : Bytes} {x : Binary64} (h : Binary64.read? b = some x) :
      Scalar .double b (.double x)
  | true : Scalar .boolean [116] (.boolean true)
  | false {b : Bytes} (h : b ≠ [116]) : Scalar .boolean b (.boolean false)
  | bigNumber {b : Bytes} (h : BigNumber b) : Scalar .bigNumber b (.bigNumber (Utf8.lossy b))

/-- The tags behind which the length `-1` stands for null. -/
inductive Nullable : Tag → Prop
  | bulk : Nullable .bulk
  | array : Nullable .array
  | set : Nullable .set
  | push : Nullable .push
  | map : Nullable .map

/-- The tags of counted sequences, and what each is as a frame. -/
inductive Sequence : Tag → (List Frame → Frame) → Prop
  | array : Sequence .array .array
  | set : Sequence .set .set
  | push : Sequence .push .push

/-- The keys and values of a map, alternating. -/
def alternating (pairs : List (Frame × Frame)) : List Frame :=
  pairs.flatMap fun pair => [pair.1, pair.2]

theorem alternating_cons (key value : Frame) (rest : List (Frame × Frame)) :
    alternating ((key, value) :: rest) = key :: value :: alternating rest := rfl

theorem length_alternating (pairs : List (Frame × Frame)) :
    (alternating pairs).length = pairs.length * 2 := by
  induction pairs with
  | nil => rfl
  | cons pair rest ih =>
      rw [alternating_cons, List.length_cons, List.length_cons, ih, List.length_cons]
      omega

open Encoding

/-- The bytes `w` are a complete reply of revision `p` under the limit `m`, and the
frame that they are. -/
inductive Derives (p : Protocol) (m : Nat) : Frame → Bytes → Prop
  | scalar {tag : Tag} {b : Bytes} {f : Frame} (hp : p.Knows tag) (hb : Bytes.lf ∉ b)
      (h : Scalar tag b f) : Derives p m f (line tag b)
  | missing {tag : Tag} (hp : p.Knows tag) (h : Nullable tag) :
      Derives p m .null (line tag (Numeral.intBytes (-1)))
  | bulk {data : Bytes} (hp : p.Knows .bulk) (h : data.length ≤ m) :
      Derives p m (.bulk data) (blob .bulk data)
  | blobError {data : Bytes} (hp : p.Knows .blobError) (h : data.length ≤ m) :
      Derives p m (.error ⟨Utf8.lossy data, true⟩) (blob .blobError data)
  | verbatim {format text : Bytes} (hp : p.Knows .verbatim) (hformat : format.length = 3)
      (h : (format ++ 58 :: text).length ≤ m) :
      Derives p m (.verbatim format text) (blob .verbatim (format ++ 58 :: text))
  | sequence {tag : Tag} {build : List Frame → Frame} {items : List Frame} {f : Frame}
      {w : Bytes} (hp : p.Knows tag) (htag : Sequence tag build) (hf : f = build items)
      (h : items.length ≤ m / 16) (hs : Each (Derives p m) items w) :
      Derives p m f (header tag items.length ++ w)
  | map {pairs : List (Frame × Frame)} {w : Bytes} (hp : p.Knows .map)
      (h : pairs.length ≤ m / 16) (hs : Each (Derives p m) (alternating pairs) w) :
      Derives p m (.map pairs) (header .map pairs.length ++ w)

end Grammar

/-! ## Header payloads as the decoder reads them -/

namespace Decoder

open Grammar

variable {d : Decoder} {payload : Bytes}

/-- What a length that is taken looks like: the text of a signed word that is `-1`
or within the limit. -/
theorem readLength_eq_ok {length : Option Nat} (h : d.readLength payload = .ok length) :
    ∃ z : Int64, payload = Numeral.intBytes z.toInt ∧
      (z.toInt = -1 ∧ length = none ∨
        0 ≤ z.toInt ∧ z.toInt.toNat ≤ d.maxFrameSize ∧ length = some z.toInt.toNat) := by
  unfold readLength at h
  split at h
  · cases h
  · rename_i z hz
    split at h
    · cases h
    · rename_i hcanonical
      refine ⟨z, (Decidable.not_not.mp hcanonical).symm, ?_⟩
      split at h
      · rename_i hminus
        cases h
        exact Or.inl ⟨hminus, rfl⟩
      · split at h
        · cases h
        · split at h
          · cases h
          · rename_i hnegative hlimit
            cases h
            exact Or.inr ⟨by omega, by omega, rfl⟩

/-- A length is taken exactly when it is written canonically, within the limit, and
fits a signed word. -/
theorem readLength_eq_some {n : Nat} :
    d.readLength payload = .ok (some n) ↔
      payload = Numeral.natBytes n ∧ n ≤ d.maxFrameSize ∧ n < 2 ^ 63 := by
  constructor
  · intro h
    obtain ⟨z, hpayload, ⟨-, hz⟩ | ⟨hnonneg, hlimit, hz⟩⟩ := readLength_eq_ok h
    · cases hz
    · cases hz
      have hword := z.toInt_lt
      obtain ⟨k, hk⟩ := Int.eq_ofNat_of_zero_le hnonneg
      rw [hk] at hpayload hlimit hword ⊢
      exact ⟨hpayload, hlimit, by omega⟩
  · rintro ⟨rfl, hlimit, hword⟩
    have hz : (Int64.ofInt n).toInt = n := Int64.toInt_ofInt_of_le (by omega) (by omega)
    have hcanonical : Numeral.intBytes n = Numeral.natBytes n := rfl
    have hnonneg : ¬(n : Int) < 0 := by omega
    have hminus : ¬(n : Int) = -1 := by omega
    simp [readLength, Numeral.readInt64?_natBytes hword, hz, hcanonical, hnonneg, hminus,
      Nat.not_lt.mpr hlimit]

theorem readLength_eq_none :
    d.readLength payload = .ok none ↔ payload = Numeral.intBytes (-1) := by
  constructor
  · intro h
    obtain ⟨z, hpayload, ⟨hz, -⟩ | ⟨-, -, hz⟩⟩ := readLength_eq_ok h
    · rw [hpayload, hz]
    · cases hz
  · rintro rfl
    simp [readLength, Numeral.readInt64?_intBytes]

theorem readRequiredLength_eq_ok {n : Nat} :
    d.readRequiredLength payload = .ok n ↔ d.readLength payload = .ok (some n) := by
  unfold readRequiredLength
  split <;> rename_i h <;> simp [h]

theorem readCount_eq_none :
    d.readCount payload = .ok none ↔ payload = Numeral.intBytes (-1) := by
  rw [← readLength_eq_none (d := d), readCount]
  split <;> rename_i h
  · simp [h]
  · simp [h]
  · rw [h]
    split <;> simp

theorem readCount_eq_some {n : Nat} :
    d.readCount payload = .ok (some n) ↔
      payload = Numeral.natBytes n ∧ n ≤ d.maxFrameSize / 16 ∧ n < 2 ^ 63 := by
  have hcount : d.readCount payload = .ok (some n) ↔
      d.readLength payload = .ok (some n) ∧ n ≤ d.maxFrameSize / 16 := by
    unfold readCount
    split <;> rename_i h
    · simp [h]
    · simp [h]
    · rename_i k
      rw [h]
      split <;> rename_i hlimit
      · simp only [reduceCtorEq, Except.ok.injEq, Option.some.injEq, false_iff, not_and]
        rintro rfl
        exact Nat.not_le.mpr hlimit
      · simp only [Except.ok.injEq, Option.some.injEq]
        constructor
        · rintro rfl
          exact ⟨rfl, Nat.not_lt.mp hlimit⟩
        · exact And.left
  rw [hcount, readLength_eq_some]
  constructor
  · rintro ⟨⟨hpayload, -, hword⟩, hlimit⟩
    exact ⟨hpayload, hlimit, hword⟩
  · rintro ⟨hpayload, hlimit, hword⟩
    exact ⟨⟨hpayload, by omega, hword⟩, hlimit⟩

theorem splitVerbatim_eq_ok {data : Bytes} {f : Frame} :
    splitVerbatim data = .ok f ↔
      ∃ format text, format.length = 3 ∧ data = format ++ 58 :: text ∧
        f = .verbatim format text := by
  constructor
  · intro h
    unfold splitVerbatim at h
    split at h
    · rename_i a b c text
      cases h
      exact ⟨[a, b, c], text, rfl, rfl, rfl⟩
    · cases h
  · rintro ⟨format, text, hformat, rfl, rfl⟩
    match format, hformat with
    | [a, b, c], _ => rfl

theorem isBigNumber_iff : isBigNumber payload = true ↔ BigNumber payload := by
  have hdigits : ∀ b : Bytes, (!b.isEmpty && b.all Numeral.isDigit) = true ↔ Digits b := by
    intro b
    simp [Digits]
  unfold isBigNumber BigNumber
  split
  · rename_i digits
    rw [hdigits]
    constructor
    · exact fun h => Or.inr ⟨digits, rfl, h⟩
    · rintro (h | ⟨other, heq, h⟩)
      · exact absurd (h.2 45 List.mem_cons_self) (by decide)
      · cases heq
        exact h
  · rename_i hsign
    rw [hdigits]
    constructor
    · exact Or.inl
    · rintro (h | ⟨digits, heq, -⟩)
      · exact h
      · exact absurd heq (hsign digits)

/-- The tags of the lines that are a whole frame. -/
inductive IsScalar : Tag → Prop
  | simple : IsScalar .simple
  | error : IsScalar .error
  | integer : IsScalar .integer
  | null : IsScalar .null
  | double : IsScalar .double
  | boolean : IsScalar .boolean
  | bigNumber : IsScalar .bigNumber

theorem readScalar_eq_ok {tag : Tag} {f : Frame} :
    IsScalar tag ∧ readScalar tag payload = .ok f ↔ Scalar tag payload f := by
  constructor
  · rintro ⟨htag, h⟩
    cases htag with
    | simple =>
        cases h
        exact .simple payload
    | error =>
        cases h
        exact .error payload
    | null =>
        cases h
        exact .null payload
    | integer =>
        simp only [readScalar] at h
        split at h
        · rename_i n hn
          cases h
          exact .integer hn
        · cases h
    | double =>
        simp only [readScalar] at h
        split at h
        · rename_i x hx
          cases h
          exact .double hx
        · cases h
    | boolean =>
        simp only [readScalar, Except.ok.injEq] at h
        by_cases hpayload : payload = [116]
        · subst hpayload
          cases h
          exact .true
        · have hbeq : (payload == [116]) = false := by simpa using hpayload
          rw [hbeq] at h
          cases h
          exact .false hpayload
    | bigNumber =>
        simp only [readScalar] at h
        split at h
        · rename_i hnumber
          cases h
          exact .bigNumber (isBigNumber_iff.mp hnumber)
        · cases h
  · intro h
    cases h with
    | simple => exact ⟨.simple, rfl⟩
    | error => exact ⟨.error, rfl⟩
    | integer h => exact ⟨.integer, by simp [readScalar, h]⟩
    | null => exact ⟨.null, rfl⟩
    | double h => exact ⟨.double, by simp [readScalar, h]⟩
    | true => exact ⟨.boolean, rfl⟩
    | false h => exact ⟨.boolean, by simp [readScalar, h]⟩
    | bigNumber h => exact ⟨.bigNumber, by simp [readScalar, isBigNumber_iff.mpr h]⟩

end Decoder

end RespClient
