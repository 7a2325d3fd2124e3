import HiveScript.Text.Basic

/-!
# Character sets of single octets

A character set gives a point to each octet, or to some of them. Sets are written in rows, with the
replacement character for an octet that has no point.

* `Charset.ofRows`, `Charset.ofUpper`, `Charset.ofGraphic`: the set of all rows, of the rows after
  ASCII, and of the rows after the control characters that follow ASCII.
* `Charset.octet?`: the octet of a point.
-/

namespace HiveScript

/-- The points of rows of characters, in order; replacement characters stand for none. -/
def pointsOfRows (rows : List String) : List (Option Point) :=
  (rows.flatMap Text.ofString).map fun p => if p = Point.replacement then none else some p

/-- The points of the octets, from 00 on. -/
structure Charset where
  points : List (Option Point)
  deriving DecidableEq

namespace Charset

/-- The octet of a point. -/
def octet? (c : Charset) (p : Point) : Option UInt8 :=
  (c.points.findIdx? (· = some p)).map UInt8.ofNat

/-- The points whose numbers are below a limit. -/
def firstPoints (limit : Nat) : List (Option Point) :=
  (List.range limit).map fun n => some (Point.ofNat n)

def ofRows (rows : List String) : Charset := ⟨pointsOfRows rows⟩

def ofUpper (rows : List String) : Charset := ⟨firstPoints 0x80 ++ pointsOfRows rows⟩

def ofGraphic (rows : List String) : Charset := ⟨firstPoints 0xA0 ++ pointsOfRows rows⟩

def ascii : Charset := ⟨firstPoints 0x80⟩

/-- The first part of ISO 8859, whose octets are the numbers of their points. -/
def latin1 : Charset := ⟨firstPoints 0x100⟩

end Charset

end HiveScript
