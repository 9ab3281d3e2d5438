import RespClient.Text.Bytes

/-!
# Slots of keys

Keys map to 16384 slots by a 16-bit cyclic redundancy check. If a key has a tag,
which is the part between the first `{` and the next `}` when it is not empty,
only the tag is hashed, so that keys with one tag share a slot.
-/

namespace RespClient.Slot

/-- The number of slots. -/
def count : Nat := 16384

/-- The last slot. -/
def last : Nat := 16383

/-- Shifts one bit out of the register of the check; the polynomial is
`x^16 + x^12 + x^5 + 1`. -/
def shiftBit (crc : UInt16) : UInt16 :=
  if crc &&& 0x8000 != 0 then (crc <<< 1) ^^^ 0x1021 else crc <<< 1

/-- Shifts eight bits out of the register. -/
def shiftByte (crc : UInt16) : UInt16 :=
  shiftBit (shiftBit (shiftBit (shiftBit (shiftBit (shiftBit (shiftBit (shiftBit crc)))))))

/-- The cyclic redundancy check of a byte string, from a zero register. -/
def crc16 (bytes : Bytes) : UInt16 :=
  bytes.foldl (fun (crc : UInt16) b => shiftByte (crc ^^^ (b.toUInt16 <<< (8 : UInt16)))) 0

/-- The brace that opens a tag. -/
def opening : UInt8 := 123

/-- The brace that closes a tag. -/
def closing : UInt8 := 125

/-- The tag of a key, or the whole key if it has none. -/
def hashed (key : Bytes) : Bytes :=
  match key.findIdx? (· == opening) with
  | none => key
  | some brace =>
    let inside := key.drop (brace + 1)
    match inside.findIdx? (· == closing) with
    | none => key
    | some size => if 0 < size then inside.take size else key

/-- The slot of a key. -/
def ofKey (key : Bytes) : Nat :=
  (crc16 (hashed key)).toNat % count

end RespClient.Slot
