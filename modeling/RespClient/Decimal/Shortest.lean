import RespClient.Decimal.Binary64
import RespClient.Text.Numeral

/-!
# Shortest decimals

Among the decimals that round to a given finite double, the shortest is taken, of
several the one nearest to the double, and of two equally near the larger. The
double is compared with decimals as fractions of whole numbers over one
denominator. Two notations place the digits: one never uses an exponent, the
other uses it for very large and very small numbers and always shows a point.
-/

namespace RespClient.Binary64

/-- A decimal `digits · 10 ^ power`. -/
structure Decimal where
  digits : Nat
  power : Int

/-- The numbers that round to a positive finite double, and the double itself, as
fractions over `scale`. The ends belong to them when `closed` is true. -/
structure Interval where
  low : Nat
  centre : Nat
  high : Nat
  scale : Nat
  closed : Bool

/-- The rounding interval of a positive finite double. Below a power of two the
doubles are twice as dense, so there the lower half is half as wide. -/
def interval (x : Binary64) : Interval :=
  let m := x.significand
  let q := x.exponent - 2
  let up := 2 ^ q.toNat
  let below := if x.fraction = 0 ∧ 1 < x.biased then 1 else 2
  ⟨(4 * m - below) * up, 4 * m * up, (4 * m + 2) * up, 2 ^ (-q).toNat, m % 2 == 0⟩

namespace Interval

/-- Is `digits · 10 ^ power` one of the numbers? -/
def holds (i : Interval) (d : Decimal) : Bool :=
  let p := d.digits * 10 ^ d.power.toNat * i.scale
  let unit := 10 ^ (-d.power).toNat
  if i.closed then i.low * unit ≤ p && p ≤ i.high * unit
  else i.low * unit < p && p < i.high * unit

/-- The multiple of `10 ^ power` at or below the centre. -/
def floorAt (i : Interval) (power : Int) : Decimal :=
  ⟨i.centre * 10 ^ (-power).toNat / (i.scale * 10 ^ power.toNat), power⟩

/-- Is the next multiple of the power of ten at least as near to the centre as
the one at or below it? -/
def upper (i : Interval) (d : Decimal) : Bool :=
  (2 * d.digits + 1) * 10 ^ d.power.toNat * i.scale ≤ 2 * i.centre * 10 ^ (-d.power).toNat

/-- The number on the grid of `10 ^ power` that the interval holds, if it holds
one: the nearer of the centre's two neighbours. -/
def onGrid? (i : Interval) (power : Int) : Option Decimal :=
  let down := i.floorAt power
  let next : Decimal := ⟨down.digits + 1, power⟩
  match i.holds down, i.holds next with
  | true, true => some (if i.upper down then next else down)
  | true, false => some down
  | false, true => some next
  | false, false => none

/-- The number of digits before the point, counted down from `guess` until the
centre has that many; negative when zeros follow the point. -/
def magnitude (i : Interval) : Nat → Int → Int
  | 0, guess => guess
  | fuel + 1, guess =>
    if i.scale * 10 ^ (guess - 1).toNat ≤ i.centre * 10 ^ (1 - guess).toNat then guess
    else i.magnitude fuel (guess - 1)

/-- Tries the grids from coarse to fine; the finest settles it. -/
def search (i : Interval) (top : Int) : Nat → Nat → Decimal
  | 0, count => i.floorAt (top - count)
  | fuel + 1, count =>
    match i.onGrid? (top - count) with
    | some d => d
    | none => i.search top fuel (count + 1)

end Interval

/-- Moves zeros at the end of the digits into the power. -/
def Decimal.strip : Nat → Decimal → Decimal
  | 0, d => d
  | fuel + 1, d =>
    if d.digits ≠ 0 ∧ d.digits % 10 = 0 then Decimal.strip fuel ⟨d.digits / 10, d.power + 1⟩
    else d

/-- The shortest decimal that rounds to a positive finite double. -/
def shortest (x : Binary64) : Decimal :=
  let i := x.interval
  let top := i.magnitude 700 310
  (i.search top 17 1).strip 20

/-! ## Notations -/

/-- `n` zeros. -/
def zeros (n : Nat) : List Char :=
  List.replicate n '0'

/-- Digits with the point after the first `point` of them, filled up with zeros;
`whole` is what follows the digits of a whole number. -/
def positional (ds : List Char) (point : Int) (whole : List Char) : List Char :=
  if point ≤ 0 then '0' :: '.' :: zeros (-point).toNat ++ ds
  else if ds.length ≤ point.toNat then ds ++ zeros (point.toNat - ds.length) ++ whole
  else ds.take point.toNat ++ '.' :: ds.drop point.toNat

/-- One digit before the point, and a power of ten. -/
def scientific (ds : List Char) (point : Int) : List Char :=
  let part := ds.drop 1
  ds.take 1 ++ (if part.isEmpty then [] else '.' :: part) ++ 'e' :: Numeral.intChars (point - 1)

/-- The sign of a double. -/
def signText (x : Binary64) : List Char :=
  if x.isNegative then ['-'] else []

/-- The digits of a finite double, and the place of the point among them. -/
def digitsAndPoint (x : Binary64) : List Char × Int :=
  if x.isZero then (['0'], 1)
  else
    let d := x.shortest
    let ds := Numeral.natChars d.digits
    (ds, ds.length + d.power)

/-- The notation on the wire: no exponent, and no point in a whole number. -/
def plainText (x : Binary64) : String :=
  if x.isNaN then "NaN"
  else if x.isInfinite then if x.isNegative then "-inf" else "inf"
  else
    let (ds, point) := x.digitsAndPoint
    String.ofList (x.signText ++ positional ds point [])

/-- The notation for people: an exponent from `1e16` up and below `1e-4`, and
always a point or an exponent. -/
def debugText (x : Binary64) : String :=
  if x.isNaN then "NaN"
  else if x.isInfinite then if x.isNegative then "-inf" else "inf"
  else
    let (ds, point) := x.digitsAndPoint
    let body :=
      if !x.isZero && (point < -3 || 16 < point) then scientific ds point
      else positional ds point ['.', '0']
    String.ofList (x.signText ++ body)

end RespClient.Binary64
