/-!
# ASCII characters

Letters and digits of ASCII, and letter case. Characters outside ASCII are neither,
and have no case here.
-/

namespace RespClient.Ascii

/-- A letter. -/
def isLetter (c : Char) : Bool :=
  (65 ≤ c.toNat && c.toNat ≤ 90) || (97 ≤ c.toNat && c.toNat ≤ 122)

/-- A digit. -/
def isDigit (c : Char) : Bool :=
  48 ≤ c.toNat && c.toNat ≤ 57

/-- A letter in lower case; other characters stay. -/
def lower (c : Char) : Char :=
  if 65 ≤ c.toNat ∧ c.toNat ≤ 90 then Char.ofNat (c.toNat + 32) else c

end RespClient.Ascii
