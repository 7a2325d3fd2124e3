import HiveScript.Encoding.Utf8

/-!
# Windows-1252

The single octet encoding of Western Windows. It is Latin 1 but for the octets 80 to 9F, five of
which stand for nothing.
-/

namespace HiveScript.Windows1252

/-- The points of the octets 80 to 9F. -/
def upperControls : List (Option Point) := [
    some 0x20AC, none, some 0x201A, some 0x0192, some 0x201E, some 0x2026, some 0x2020, some
    0x2021, some 0x02C6, some 0x2030, some 0x0160, some 0x2039, some 0x0152, none, some 0x017D,
    none, none, some 0x2018, some 0x2019, some 0x201C, some 0x201D, some 0x2022, some 0x2013,
    some 0x2014, some 0x02DC, some 0x2122, some 0x0161, some 0x203A, some 0x0153, none, some
    0x017E, some 0x0178]

/-- The point of an octet. -/
def point? (b : UInt8) : Option Point :=
  if 0x80 ≤ b ∧ b < 0xA0 then (upperControls[b.toNat - 0x80]?).join
  else some (Point.ofNat b.toNat)

/-- The octet of a point. -/
def octet? (p : Point) : Option UInt8 :=
  if p.val < 0x80 ∨ 0xA0 ≤ p.val ∧ p.val < 0x100 then some (UInt8.ofNat p.val)
  else (upperControls.findIdx? (· = some p)).map fun i => UInt8.ofNat (0x80 + i)

def encode? (s : Text) : Option Bytes := s.mapM octet?

/-- Octets that stand for nothing become the replacement character. -/
def decodeLossy (bs : Bytes) : Text := bs.map fun b => (point? b).getD Point.replacement

end HiveScript.Windows1252
