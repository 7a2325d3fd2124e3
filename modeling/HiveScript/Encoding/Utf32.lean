import HiveScript.Encoding.Utf16

/-!
# UTF-32

Code units of thirty-two bits, one for each point, in either order of octets.

* `Utf32.octets`: the octets of a point.
* `Utf32.mark`: the byte order mark.
-/

namespace HiveScript.Utf32

/-- The four octets of a number, high octet first. -/
def highFirst (n : Nat) : Bytes :=
  [UInt8.ofNat (n >>> 24), UInt8.ofNat (n >>> 16), UInt8.ofNat (n >>> 8), UInt8.ofNat n]

def octets (order : Utf16.Order) (p : Point) : Bytes :=
  match order with
  | .highFirst => highFirst p.val
  | .lowFirst => (highFirst p.val).reverse

/-- The byte order mark in the order that it announces. -/
def mark (order : Utf16.Order) : Bytes := octets order Point.byteOrderMark

end HiveScript.Utf32
