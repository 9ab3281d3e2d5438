import RespClient.Text.Bytes

/-!
# UTF-8

Text is written in UTF-8 one character at a time. Bytes are read back by a small
machine that takes one byte at a time and never fails: what cannot be part of a
character becomes U+FFFD, one for each maximal part that could have begun a
character.
-/

namespace RespClient.Utf8

/-- The UTF-8 bytes of a text. -/
def encode (text : String) : Bytes :=
  text.toList.flatMap String.utf8EncodeChar

/-! ## Cutting

Bytes are counted without writing them. A text can be cut where a character begins and at
its end, and nowhere else. -/

/-- The number of bytes of a text. -/
def size : List Char → Nat
  | [] => 0
  | c :: cs => c.utf8Size + size cs

/-- What is left of a text behind its first `n` bytes, if it can be cut there. -/
def dropBytes? : Nat → List Char → Option (List Char)
  | 0, cs => some cs
  | _ + 1, [] => none
  | n + 1, c :: rest =>
    if c.utf8Size ≤ n + 1 then dropBytes? (n + 1 - c.utf8Size) rest else none

theorem dropBytes?_append (front rest : List Char) :
    dropBytes? (size front) (front ++ rest) = some rest := by
  induction front with
  | nil => simp [size, dropBytes?]
  | cons c front ih =>
    have hsize : size (c :: front) = c.utf8Size + size front := rfl
    obtain ⟨n, hn⟩ : ∃ n, c.utf8Size + size front = n + 1 :=
      Nat.exists_eq_add_one.mpr (Nat.add_pos_left c.utf8Size_pos _)
    rw [hsize, hn, List.cons_append, dropBytes?, if_pos (by omega),
      show n + 1 - c.utf8Size = size front by omega, ih]

/-! ## Reading -/

/-- A character that has begun: the bits read so far, how many bytes are still
owed, and the range in which the next of them lies. -/
structure Begun where
  code : Nat
  owed : Nat
  low : Nat
  high : Nat

/-- What a byte can mean between characters. -/
inductive First where
  | whole (c : Char)
  | begins (b : Begun)
  | stray

/-- Stands for bytes that are no character. -/
def replacement : Char := '\uFFFD'

/-- The meaning of a byte between characters. The ranges leave out overlong
forms, surrogates and everything above U+10FFFF. -/
def first (byte : UInt8) : First :=
  let n := byte.toNat
  if n < 0x80 then .whole (Char.ofNat n)
  else if n < 0xC2 then .stray
  else if n < 0xE0 then .begins ⟨n - 0xC0, 1, 0x80, 0xBF⟩
  else if n = 0xE0 then .begins ⟨0, 2, 0xA0, 0xBF⟩
  else if n = 0xED then .begins ⟨13, 2, 0x80, 0x9F⟩
  else if n < 0xF0 then .begins ⟨n - 0xE0, 2, 0x80, 0xBF⟩
  else if n = 0xF0 then .begins ⟨0, 3, 0x90, 0xBF⟩
  else if n < 0xF4 then .begins ⟨n - 0xF0, 3, 0x80, 0xBF⟩
  else if n = 0xF4 then .begins ⟨4, 3, 0x80, 0x8F⟩
  else .stray

/-- The reader between two bytes: the characters read, latest first, and the
character that has begun, if any. -/
structure Reader where
  done : List Char := []
  begun : Option Begun := none

namespace Reader

/-- Takes a byte while no character has begun. -/
def start (done : List Char) (byte : UInt8) : Reader :=
  match first byte with
  | .whole c => ⟨c :: done, none⟩
  | .begins b => ⟨done, some b⟩
  | .stray => ⟨replacement :: done, none⟩

/-- Takes a byte. A byte that cannot go on with the character that has begun
ends it as U+FFFD and is taken anew. -/
def step (r : Reader) (byte : UInt8) : Reader :=
  match r.begun with
  | none => start r.done byte
  | some b =>
    if b.low ≤ byte.toNat ∧ byte.toNat ≤ b.high then
      let code := b.code * 64 + (byte.toNat - 0x80)
      if b.owed ≤ 1 then ⟨Char.ofNat code :: r.done, none⟩
      else ⟨r.done, some ⟨code, b.owed - 1, 0x80, 0xBF⟩⟩
    else start (replacement :: r.done) byte

/-- The characters read once the bytes have ended. -/
def finish (r : Reader) : List Char :=
  match r.begun with
  | none => r.done.reverse
  | some _ => (replacement :: r.done).reverse

end Reader

/-- Reads bytes as text, with U+FFFD for every part that is no UTF-8. -/
def lossy (bytes : Bytes) : String :=
  String.ofList (bytes.foldl Reader.step {}).finish

end RespClient.Utf8
