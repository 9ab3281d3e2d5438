import RespClient.Power
import RespClient.Node.Ipv6

/-!
# IPv4 addresses as names

A name whose last label is a number has to be an address: at most four numbers, of
which each but the last is one byte, and the last fills the bytes that are left. A
number is decimal, octal behind `0`, or hexadecimal behind `0x`. A dot at the end of
the name does not count.
-/

namespace RespClient.Ipv4

/-- Reads digits of a base; none stand for zero. -/
def readDigits? (base : Nat) (cs : List Char) : Option Nat :=
  (cs.mapM fun c => (Ipv6.hexValue? c).filter (· < base)).map fun ds =>
    ds.foldl (fun n d => n * base + d) 0

/-- Reads a number. -/
def readPart? (cs : List Char) : Option Nat :=
  match cs with
  | [] => none
  | '0' :: 'x' :: ds => readDigits? 16 ds
  | '0' :: ds => readDigits? 8 ds
  | ds => readDigits? 10 ds

/-- Does a label look like a number? -/
def isNumber (label : List Char) : Bool :=
  (!label.isEmpty && (readDigits? 10 label).isSome) || (readPart? label).isSome

/-- The labels of a name without an empty one at its end. -/
def parts (labels : List (List Char)) : List (List Char) :=
  if labels.getLast? = some [] then labels.dropLast else labels

/-- Do the numbers make up an address? -/
def isAddress (numbers : List Nat) : Bool :=
  match numbers.reverse with
  | [] => false
  | last :: front => front.length ≤ 3 && front.all (· < 256) && last < 256 ^ (4 - front.length)

/-- Is a name an address, or without a number at its end? -/
def permits (labels : List (List Char)) : Bool :=
  let parts := parts labels
  if parts.getLast?.any isNumber then ((parts.mapM readPart?).map isAddress).getD false
  else true

end RespClient.Ipv4
