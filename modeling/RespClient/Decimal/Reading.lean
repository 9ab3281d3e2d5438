import RespClient.Decimal.Binary64
import RespClient.Text.Numeral

/-!
# Reading doubles

A double is written as an optional sign and then `inf`, `infinity` or `nan` in any
case, or digits with at most one point among them and at least one digit, and an
optional exponent after `e` or `E`. Once an exponent has reached 65536, the digits
behind do not raise it any more. The number is rounded once, from its exact value.
-/

namespace RespClient.Binary64

/-- Is the byte the digit zero? -/
def isZeroDigit (b : UInt8) : Bool :=
  b == 48

/-- The double nearest to `± ds · 10 ^ power`, where `ds` is read as a whole number.
Zeros at either end of the digits go into the power, and numbers far outside the
range of doubles are settled before any large number is built. -/
def ofDigits (negative : Bool) (ds : Bytes) (power : Int) : Binary64 :=
  let ds := ds.dropWhile isZeroDigit
  let kept := (ds.reverse.dropWhile isZeroDigit).reverse
  let power := power + (ds.length - kept.length)
  let size := kept.length + power
  if kept.isEmpty then ofMagnitude negative 0
  else if size > 400 then infinity negative
  else if size < -400 then ofMagnitude negative 0
  else ofRatio negative (Numeral.value kept * 10 ^ power.toNat) (10 ^ (-power).toNat)

/-- An exponent of at least so much takes no more digits: those that follow are
read but do not count. -/
def fullPower : Nat := 65536

/-- The number that the digits of an exponent denote. -/
def powerValue (ds : Bytes) : Nat :=
  ds.foldl (fun n d => if n < fullPower then n * 10 + (d.toNat - 48) else n) 0

/-- Reads the digits of an exponent, at least one. -/
def readPowerDigits? (ds : Bytes) : Option Nat :=
  if !ds.isEmpty && ds.all Numeral.isDigit then some (powerValue ds) else none

/-- Reads the exponent at the end of a numeral; there may be none. -/
def readPower? : Bytes → Option Int
  | [] => some 0
  | mark :: rest =>
    if mark = 101 ∨ mark = 69 then
      match rest with
      | 43 :: ds => (readPowerDigits? ds).map Int.ofNat
      | 45 :: ds => (readPowerDigits? ds).map fun n => -(Int.ofNat n)
      | ds => (readPowerDigits? ds).map Int.ofNat
    else none

/-- Reads digits, point and exponent of a numeral without its sign. -/
def readNumeral? (negative : Bool) (bs : Bytes) : Option Binary64 :=
  let (whole, rest) := bs.span Numeral.isDigit
  let (part, rest) :=
    match rest with
    | 46 :: rest => rest.span Numeral.isDigit
    | rest => ([], rest)
  if whole.isEmpty && part.isEmpty then none
  else
    (readPower? rest).map fun power =>
      ofDigits negative (whole ++ part) (power - part.length)

/-- An ASCII letter in lower case; other bytes stay. -/
def lowerByte (b : UInt8) : UInt8 :=
  if 65 ≤ b.toNat ∧ b.toNat ≤ 90 then b + 32 else b

/-- Reads a numeral or a name, without its sign. -/
def readMagnitude? (negative : Bool) (bs : Bytes) : Option Binary64 :=
  let name := bs.map lowerByte
  if name = Utf8.encode "inf" ∨ name = Utf8.encode "infinity" then some (infinity negative)
  else if name = Utf8.encode "nan" then some nan
  else readNumeral? negative bs

/-- Reads a double. -/
def read? (bs : Bytes) : Option Binary64 :=
  match bs with
  | 43 :: rest => readMagnitude? false rest
  | 45 :: rest => readMagnitude? true rest
  | bs => readMagnitude? false bs

end RespClient.Binary64
