import RespClient.Power

/-!
# Double-precision numbers

A double is its 64 bits: a sign, eleven bits of exponent and 52 bits of fraction.
A finite double is `± significand · 2 ^ exponent`, and everything said about it
here is arithmetic on these two whole numbers. No floating-point operation of the
machine is used.
-/

namespace RespClient

/-- An IEEE 754 double, by its bits. -/
structure Binary64 where
  bits : UInt64
  deriving DecidableEq, Repr

namespace Binary64

/-- The sign bit. -/
def isNegative (x : Binary64) : Bool :=
  x.bits.toNat / 2 ^ 63 == 1

/-- The exponent field. -/
def biased (x : Binary64) : Nat :=
  x.bits.toNat / 2 ^ 52 % 2048

/-- The fraction field. -/
def fraction (x : Binary64) : Nat :=
  x.bits.toNat % 2 ^ 52

/-- Is it no number? -/
def isNaN (x : Binary64) : Bool :=
  x.biased == 2047 && x.fraction != 0

/-- Is it one of the infinities? -/
def isInfinite (x : Binary64) : Bool :=
  x.biased == 2047 && x.fraction == 0

/-- Is it one of the zeros? -/
def isZero (x : Binary64) : Bool :=
  x.biased == 0 && x.fraction == 0

/-- The whole number that a finite double scales. -/
def significand (x : Binary64) : Nat :=
  if x.biased = 0 then x.fraction else 2 ^ 52 + x.fraction

/-- The power of two by which a finite double scales its significand. -/
def exponent (x : Binary64) : Int :=
  (max x.biased 1 : Nat) - 1075

/-- Puts a sign in front of the bits of a magnitude. -/
def ofMagnitude (negative : Bool) (magnitude : Nat) : Binary64 :=
  ⟨UInt64.ofNat ((if negative then 2 ^ 63 else 0) + magnitude)⟩

/-- The one NaN that arithmetic and reading give. -/
def nan : Binary64 := ⟨0x7FF8000000000000⟩

/-- The bits of infinity, without a sign. -/
def infinityBits : Nat := 2047 * 2 ^ 52

/-- Plus or minus infinity. -/
def infinity (negative : Bool) : Binary64 :=
  ofMagnitude negative infinityBits

/-- Equality of numbers: the two zeros are equal, and NaN equals nothing. -/
def same (x y : Binary64) : Bool :=
  !x.isNaN && !y.isNaN && (x.bits == y.bits || (x.isZero && y.isZero))

/-! ## Rounding -/

/-- The whole number nearest to `n / d`; a tie goes to the even one. -/
def divHalfEven (n d : Nat) : Nat :=
  let q := n / d
  let r := n % d
  if 2 * r < d then q
  else if d < 2 * r then q + 1
  else q + q % 2

/-- The whole number nearest to `n` that a 53-bit significand can hold. -/
def roundNat (n : Nat) : Nat :=
  if n < 2 ^ 53 then n
  else
    let unit := 2 ^ (n.log2 - 52)
    divHalfEven n unit * unit

/-- The double nearest to `± num / den`; a tie goes to the even significand, and
what is too large becomes infinity. -/
def ofRatio (negative : Bool) (num den : Nat) : Binary64 :=
  if num = 0 then ofMagnitude negative 0
  else
    let guess : Int := (num.log2 : Int) - den.log2
    let reached := den * 2 ^ guess.toNat ≤ num * 2 ^ (-guess).toNat
    let top := if reached then guess else guess - 1
    let q := max (top - 52) (-1074)
    let m := divHalfEven (num * 2 ^ (-q).toNat) (den * 2 ^ q.toNat)
    ofMagnitude negative (min ((q + 1074).toNat * 2 ^ 52 + m) infinityBits)

end Binary64

end RespClient
