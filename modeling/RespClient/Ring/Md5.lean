import RespClient.Text.Bytes

/-!
# MD5

The message digest by which keys and virtual nodes are spread over the ring. A
message is filled up to blocks of sixteen little-endian words; four registers run
through sixty-four steps for each block.
-/

namespace RespClient.Md5

/-- The four registers. -/
structure Registers where
  a : UInt32
  b : UInt32
  c : UInt32
  d : UInt32

/-- The registers before the first block. -/
def initial : Registers :=
  ⟨0x67452301, 0xEFCDAB89, 0x98BADCFE, 0x10325476⟩

/-- The addends of the steps: the first 32 bits after the point of `|sin i|`, for
`i` from 1 to 64 in radians. -/
def addends : List UInt32 :=
  [0xD76AA478, 0xE8C7B756, 0x242070DB, 0xC1BDCEEE, 0xF57C0FAF, 0x4787C62A, 0xA8304613, 0xFD469501,
   0x698098D8, 0x8B44F7AF, 0xFFFF5BB1, 0x895CD7BE, 0x6B901122, 0xFD987193, 0xA679438E, 0x49B40821,
   0xF61E2562, 0xC040B340, 0x265E5A51, 0xE9B6C7AA, 0xD62F105D, 0x02441453, 0xD8A1E681, 0xE7D3FBC8,
   0x21E1CDE6, 0xC33707D6, 0xF4D50D87, 0x455A14ED, 0xA9E3E905, 0xFCEFA3F8, 0x676F02D9, 0x8D2A4C8A,
   0xFFFA3942, 0x8771F681, 0x6D9D6122, 0xFDE5380C, 0xA4BEEA44, 0x4BDECFA9, 0xF6BB4B60, 0xBEBFBC70,
   0x289B7EC6, 0xEAA127FA, 0xD4EF3085, 0x04881D05, 0xD9D4D039, 0xE6DB99E5, 0x1FA27CF8, 0xC4AC5665,
   0xF4292244, 0x432AFF97, 0xAB9423A7, 0xFC93A039, 0x655B59C3, 0x8F0CCC92, 0xFFEFF47D, 0x85845DD1,
   0x6FA87E4F, 0xFE2CE6E0, 0xA3014314, 0x4E0811A1, 0xF7537E82, 0xBD3AF235, 0x2AD7D2BB, 0xEB86D391]

/-- The rotations of a round's steps, four in turn. -/
def rotations : Nat → List UInt32
  | 0 => [7, 12, 17, 22]
  | 1 => [5, 9, 14, 20]
  | 2 => [4, 11, 16, 23]
  | _ => [6, 10, 15, 21]

/-- The mixing function of a round. -/
def mix (round : Nat) (b c d : UInt32) : UInt32 :=
  match round with
  | 0 => (b &&& c) ||| (~~~b &&& d)
  | 1 => (d &&& b) ||| (~~~d &&& c)
  | 2 => b ^^^ c ^^^ d
  | _ => c ^^^ (b ||| ~~~d)

/-- The place of the word that a step adds. -/
def wordIndex (i : Nat) : Nat :=
  match i / 16 with
  | 0 => i
  | 1 => (5 * i + 1) % 16
  | 2 => (3 * i + 5) % 16
  | _ => (7 * i) % 16

/-- Rotates to the left. -/
def rotate (x n : UInt32) : UInt32 :=
  (x <<< n) ||| (x >>> (32 - n))

/-- The `i`-th step, with its addend. -/
def step (words : Array UInt32) (r : Registers) (i : Nat) (addend : UInt32) : Registers :=
  let sum := r.a + mix (i / 16) r.b r.c r.d + addend + words.getD (wordIndex i) 0
  let turn := (rotations (i / 16)).getD (i % 4) 0
  ⟨r.d, r.b + rotate sum turn, r.b, r.c⟩

/-- Runs the steps of one block, from the `i`-th on. -/
def steps (words : Array UInt32) : Nat → List UInt32 → Registers → Registers
  | _, [], r => r
  | i, addend :: rest, r => steps words (i + 1) rest (step words r i addend)

/-- Takes a block into the registers. -/
def block (r : Registers) (words : Array UInt32) : Registers :=
  let s := steps words 0 addends r
  ⟨r.a + s.a, r.b + s.b, r.c + s.c, r.d + s.d⟩

/-- Four bytes as a little-endian word. -/
def word (a b c d : UInt8) : UInt32 :=
  a.toUInt32 ||| (b.toUInt32 <<< 8) ||| (c.toUInt32 <<< 16) ||| (d.toUInt32 <<< 24)

/-- The `n` lowest bytes of a number, lowest first. -/
def littleEndian : Nat → Nat → Bytes
  | 0, _ => []
  | n + 1, x => UInt8.ofNat (x % 256) :: littleEndian n (x / 256)

/-- Fills a message up to whole blocks: a one bit, zeros, and the length in bits. -/
def padded (message : Bytes) : Bytes :=
  let size := message.length
  let fill := (119 - size % 64) % 64
  message ++ 0x80 :: List.replicate fill 0 ++ littleEndian 8 (size * 8)

/-- Takes bytes word by word and block by block; the words of the block that has
begun are in `words`. -/
def absorb (r : Registers) (words : Array UInt32) : Bytes → Registers
  | a :: b :: c :: d :: rest =>
    let words := words.push (word a b c d)
    if words.size = 16 then absorb (block r words) #[] rest else absorb r words rest
  | _ => r

/-- The digest of a message as four little-endian words. -/
def digest (message : Bytes) : Registers :=
  absorb initial #[] (padded message)

end RespClient.Md5
