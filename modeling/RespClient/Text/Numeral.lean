import RespClient.Power
import RespClient.Text.Utf8

/-!
# Decimal numerals

Whole numbers are written with as few digits as they need. They are read from
one or more ASCII digits, leading zeros allowed, with an optional sign in front:
`+` for any number, `-` for signed ones. Reading knows no other form and refuses
what does not fit.
-/

namespace RespClient.Numeral

/-- The decimal digits of a number. -/
def natChars (n : Nat) : List Char :=
  Nat.toDigits 10 n

/-- A signed number, with `-` in front of a negative one. -/
def intChars : Int → List Char
  | .ofNat n => natChars n
  | .negSucc n => '-' :: natChars (n + 1)

/-- A number as text. -/
def natText (n : Nat) : String :=
  String.ofList (natChars n)

/-- A signed number as text. -/
def intText (n : Int) : String :=
  String.ofList (intChars n)

/-- The byte of an ASCII character. -/
def byteOf (c : Char) : UInt8 :=
  UInt8.ofNat c.toNat

/-- A number as bytes. -/
def natBytes (n : Nat) : Bytes :=
  (natChars n).map byteOf

/-- A signed number as bytes. -/
def intBytes (n : Int) : Bytes :=
  (intChars n).map byteOf

/-- Is the byte an ASCII digit? -/
def isDigit (b : UInt8) : Bool :=
  48 ≤ b.toNat && b.toNat ≤ 57

/-- The number that a run of digits denotes behind the digits of `n`. -/
def valueFrom (n : Nat) (ds : Bytes) : Nat :=
  ds.foldl (fun n d => n * 10 + (d.toNat - 48)) n

/-- The number that a run of digits denotes. A long run is halved, at most so many
times, so that few of the numbers on the way are long. -/
def valueByHalves : Nat → Bytes → Nat
  | 0, ds => valueFrom 0 ds
  | depth + 1, ds =>
    if ds.length ≤ 200 then valueFrom 0 ds
    else
      let half := ds.length / 2
      let low := ds.drop half
      valueByHalves depth (ds.take half) * 10 ^ low.length + valueByHalves depth low

/-- The number that a run of digits denotes. -/
def value (ds : Bytes) : Nat :=
  valueByHalves 32 ds

theorem valueFrom_eq (n : Nat) (ds : Bytes) :
    valueFrom n ds = n * 10 ^ ds.length + valueFrom 0 ds := by
  unfold valueFrom
  induction ds generalizing n with
  | nil => simp
  | cons d rest ih =>
    rw [List.foldl_cons, List.foldl_cons, ih, ih (0 * 10 + _), List.length_cons, Nat.pow_succ]
    grind

theorem valueByHalves_eq (depth : Nat) (ds : Bytes) : valueByHalves depth ds = valueFrom 0 ds := by
  induction depth generalizing ds with
  | zero => rfl
  | succ depth ih =>
    unfold valueByHalves
    split
    · rfl
    · simp only [ih]
      rw [← valueFrom_eq]
      unfold valueFrom
      rw [← List.foldl_append, List.take_append_drop]

/-- The digits count one after the other, however the run is halved. -/
theorem value_eq (ds : Bytes) : value ds = valueFrom 0 ds :=
  valueByHalves_eq 32 ds

/-- Reads one or more digits. -/
def readDigits? (ds : Bytes) : Option Nat :=
  if !ds.isEmpty && ds.all isDigit then some (value ds) else none

/-- Reads a number without a minus sign that is at most `max`. -/
def readUnsigned? (max : Nat) (bs : Bytes) : Option Nat :=
  let magnitude :=
    match bs with
    | 43 :: ds => readDigits? ds
    | ds => readDigits? ds
  magnitude.filter (· ≤ max)

/-- Reads a number of any size with an optional sign. -/
def readSigned? (bs : Bytes) : Option Int :=
  match bs with
  | 43 :: ds => (readDigits? ds).map Int.ofNat
  | 45 :: ds => (readDigits? ds).map fun n => -(Int.ofNat n)
  | ds => (readDigits? ds).map Int.ofNat

/-- Reads a signed number of at most `bits` bits in two's complement. -/
def readWord? (bits : Nat) (bs : Bytes) : Option Int :=
  (readSigned? bs).filter fun n => -(2 ^ (bits - 1) : Int) ≤ n ∧ n < (2 ^ (bits - 1) : Int)

/-- Reads a signed number of 64 bits. -/
def readInt64? (bs : Bytes) : Option Int64 :=
  (readWord? 64 bs).map Int64.ofInt

/-- Reads an unsigned number of 16 bits from text. -/
def readUInt16? (text : String) : Option UInt16 :=
  (readUnsigned? 65535 (Utf8.encode text)).map UInt16.ofNat

end RespClient.Numeral
