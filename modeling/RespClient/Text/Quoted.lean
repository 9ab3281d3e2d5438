import RespClient.Text.Bytes
import RespClient.Text.Character.Printing

/-!
# Quoted text

Error messages and debug notation show text and bytes between double quotes, with
escapes for what would not print. Text keeps its printable characters, byte
strings keep printable ASCII only.
-/

namespace RespClient.Quoted

/-- The lower-case hexadecimal digit of a number below sixteen. -/
def hexDigit (n : Nat) : Char :=
  if n < 10 then Char.ofNat (48 + n) else Char.ofNat (87 + n)

/-- Hexadecimal digits without leading zeros. -/
def hex (n : Nat) : List Char :=
  (Nat.toDigits 16 n)

/-- A character of a quoted text. One that does not print is written by number. -/
def escapeChar (c : Char) : List Char :=
  match c with
  | '\x00' => ['\\', '0']
  | '\t' => ['\\', 't']
  | '\r' => ['\\', 'r']
  | '\n' => ['\\', 'n']
  | '"' => ['\\', '"']
  | '\\' => ['\\', '\\']
  | c =>
    if Character.isPrinted c then [c]
    else '\\' :: 'u' :: '\x7b' :: hex c.toNat ++ ['\x7d']

/-- Text between double quotes. -/
def text (s : String) : String :=
  String.ofList ('"' :: s.toList.flatMap escapeChar ++ ['"'])

/-- A byte of a quoted byte string. Bytes outside printable ASCII are written
with two hexadecimal digits. -/
def escapeByte (b : UInt8) : List Char :=
  let n := b.toNat
  if n = 0 then ['\\', '0']
  else if n = 9 then ['\\', 't']
  else if n = 10 then ['\\', 'n']
  else if n = 13 then ['\\', 'r']
  else if n = 34 then ['\\', '"']
  else if n = 92 then ['\\', '\\']
  else if 32 ≤ n ∧ n < 127 then [Char.ofNat n]
  else ['\\', 'x', hexDigit (n / 16), hexDigit (n % 16)]

/-- A byte string between double quotes, marked with a `b`. -/
def bytes (bs : Bytes) : String :=
  String.ofList ('b' :: '"' :: bs.flatMap escapeByte ++ ['"'])

end RespClient.Quoted
