import HiveScript.Encoding.Utf8

/-!
# UTF-16

Code units of sixteen bits, in either order of octets.

* `Utf16.pairUp`: joins the surrogates that stand as a pair and lets lone ones pass.
* `Utf16.decode`: pairs of octets, low octet first, to a text; lone surrogates pass, a single
  octet at the end is dropped.
* `Utf16.decodeLossy`: the same with the replacement character for whatever is ill.
* `Utf16.encode`: the octets of a text, surrogates as units of their own.
-/

namespace HiveScript.Utf16

/-- The order of the two octets of a unit. -/
inductive Order where
  | lowFirst
  | highFirst
  deriving DecidableEq

/-- A unit of sixteen bits. -/
def unit (order : Order) (a b : UInt8) : Point :=
  match order with
  | .lowFirst => Point.ofNat (a.toNat + b.toNat * 0x100)
  | .highFirst => Point.ofNat (a.toNat * 0x100 + b.toNat)

/-- The units of pairs of octets, and whether one octet is left over. -/
def units (order : Order) : Bytes → List Point × Bool
  | [] => ([], false)
  | [_] => ([], true)
  | a :: b :: bs => let (us, odd) := units order bs; (unit order a b :: us, odd)

/-- The point of a pair of surrogates. -/
def joined (high low : Point) : Point :=
  Point.ofNat (0x10000 + (high.val - 0xD800) * 0x400 + (low.val - 0xDC00))

/-- Joins each high surrogate with a low one directly after it. -/
def pairUp : List Point → Text
  | [] => []
  | [u] => [u]
  | u :: v :: us =>
    if u.isHighSurrogate && v.isLowSurrogate then joined u v :: pairUp us
    else u :: pairUp (v :: us)

def decode (bs : Bytes) : Text := pairUp (units .lowFirst bs).1

/-- Lone surrogates and a left-over octet are replaced; a high surrogate before a left-over octet
makes one replacement with it. -/
def decodeLossy (order : Order) (bs : Bytes) : Text :=
  let (us, odd) := units order bs
  let s := (pairUp us).map fun p => if p.isSurrogate then Point.replacement else p
  if odd && !(us.getLast?.any Point.isHighSurrogate) then s ++ [Point.replacement] else s

/-- The units of a point. -/
def unitsOf (p : Point) : List Point :=
  if p.val < 0x10000 then [p]
  else
    [Point.ofNat (0xD800 + (p.val - 0x10000) / 0x400),
      Point.ofNat (0xDC00 + (p.val - 0x10000) % 0x400)]

def unitOctets (order : Order) (u : Point) : Bytes :=
  match order with
  | .lowFirst => [UInt8.ofNat (u.val % 0x100), UInt8.ofNat (u.val / 0x100)]
  | .highFirst => [UInt8.ofNat (u.val / 0x100), UInt8.ofNat (u.val % 0x100)]

def encode (order : Order) (s : Text) : Bytes := (s.flatMap unitsOf).flatMap (unitOctets order)

/-- The byte order mark in the order that it announces. -/
def mark : Order → Bytes
  | .lowFirst => [0xFF, 0xFE]
  | .highFirst => [0xFE, 0xFF]

end HiveScript.Utf16
