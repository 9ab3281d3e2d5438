import RespClient.Text.Ascii
import RespClient.Text.Quoted

/-!
# IPv6 literals

An address of eight 16-bit groups. It is read from hexadecimal groups with colons
between them, where one `::` stands for at least one zero group and the last two
groups may be written as four dotted decimals. It is written in one canonical
form.
-/

namespace RespClient.Ipv6

/-! ## Reading -/

/-- The value of a hexadecimal digit. -/
def hexValue? (c : Char) : Option Nat :=
  let n := c.toNat
  if 48 ≤ n ∧ n ≤ 57 then some (n - 48)
  else if 65 ≤ n ∧ n ≤ 70 then some (n - 55)
  else if 97 ≤ n ∧ n ≤ 102 then some (n - 87)
  else none

/-- Reads a group of one to four hexadecimal digits. -/
def readGroup? (cs : List Char) : Option Nat :=
  if cs.isEmpty || 4 < cs.length then none
  else (cs.mapM hexValue?).map fun ds => ds.foldl (fun n d => n * 16 + d) 0

/-- Reads a decimal number up to 255 without leading zeros. -/
def readOctet? (cs : List Char) : Option Nat :=
  if cs.isEmpty || 3 < cs.length || !cs.all Ascii.isDigit ||
      (1 < cs.length && cs.head? == some '0') then none
  else
    (some (cs.foldl (fun n c => n * 10 + (c.toNat - 48)) 0)).filter (· ≤ 255)

/-- Reads four dotted decimals as two groups. -/
def readDotted? (cs : List Char) : Option (List Nat) :=
  match (cs.splitOn '.').mapM readOctet? with
  | some [a, b, c, d] => some [a * 256 + b, c * 256 + d]
  | _ => none

/-- Reads groups, the last of which may be dotted. -/
def readTail? : List (List Char) → Option (List Nat)
  | [] => some []
  | [last] => (readDotted? last).or ((readGroup? last).map fun g => [g])
  | group :: rest => do
    let g ← readGroup? group
    let gs ← readTail? rest
    pure (g :: gs)

/-- The groups of one side of a `::`; an empty side has none. -/
def sides (cs : List Char) : List (List Char) :=
  if cs.isEmpty then [] else cs.splitOn ':'

/-- Splits at the first `::`. -/
def splitGap : List Char → Option (List Char × List Char)
  | ':' :: ':' :: rest => some ([], rest)
  | c :: rest => (splitGap rest).map fun (l, r) => (c :: l, r)
  | [] => none

/-- Reads the eight groups of an address. -/
def read? (cs : List Char) : Option (List Nat) :=
  match splitGap cs with
  | none => (readTail? (sides cs)).filter (·.length == 8)
  | some (left, right) => do
    let front ← (sides left).mapM readGroup?
    let back ← readTail? (sides right)
    let size := front.length + back.length
    if size ≤ 7 then pure (front ++ List.replicate (8 - size) 0 ++ back) else none

/-! ## Writing -/

/-- Groups with colons between them. -/
def joined (gs : List Nat) : List Char :=
  [':'].intercalate (gs.map Quoted.hex)

/-- The number of zeros in front. -/
def leadingZeros (gs : List Nat) : Nat :=
  (gs.takeWhile (· == 0)).length

/-- The place and length of the first longest run of zeros, given the place of
the head of the list. -/
def longestZeros : Nat → List Nat → Nat × Nat
  | place, [] => (place, 0)
  | place, g :: rest =>
    let here := leadingZeros (g :: rest)
    let later := longestZeros (place + 1) rest
    if later.2 ≤ here then (place, here) else later

/-- An octet in decimal. -/
def octet (n : Nat) : List Char :=
  Nat.toDigits 10 n

/-- The canonical text: lower-case digits without leading zeros, the first longest
run of two or more zero groups as `::`, and dotted decimals for an address that
embeds one of IPv4. -/
def text (gs : List Nat) : List Char :=
  match gs with
  | [0, 0, 0, 0, 0, 0xFFFF, a, b] =>
    "::ffff:".toList ++
      ['.'].intercalate [octet (a / 256), octet (a % 256), octet (b / 256), octet (b % 256)]
  | gs =>
    let (place, size) := longestZeros 0 gs
    if size < 2 then joined gs
    else joined (gs.take place) ++ ':' :: ':' :: joined (gs.drop (place + size))

end RespClient.Ipv6
