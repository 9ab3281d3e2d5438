/-!
# Bytes

A byte string is an ordinary list of octets. The wire format is made of lines
that end in carriage return and line feed, so these two octets and their pair
have names here.
-/

namespace RespClient

/-- A byte string. -/
abbrev Bytes := List UInt8

namespace Bytes

/-- Carriage return. -/
def cr : UInt8 := 13

/-- Line feed. -/
def lf : UInt8 := 10

/-- What ends every line on the wire. -/
def crlf : Bytes := [cr, lf]

end Bytes

end RespClient
