import RespClient.Ring.Md5
import RespClient.Node.Address

/-!
# Points on the ring

Keys and virtual nodes are points on a circle of 32-bit numbers. A key's point is
the first word of its digest. A virtual node of a name and an index has four
points, the words of the digest of `name-index`.
-/

namespace RespClient.Ring

/-- The point of a key. -/
def keyPoint (key : Bytes) : UInt32 :=
  (Md5.digest key).a

/-- The text whose digest gives the points of a virtual node. -/
def virtualName (name : String) (index : Nat) : String :=
  name ++ "-" ++ Numeral.natText index

/-- The four points of a virtual node. -/
def points (name : String) (index : Nat) : List UInt32 :=
  let r := Md5.digest (Utf8.encode (virtualName name index))
  [r.a, r.b, r.c, r.d]

end RespClient.Ring
