import HiveScript.Encoding.Charset.Basic
import HiveScript.Encoding.Utf8

/-!
# Grids of characters

The large character sets of East Asia number their characters, and the encodings are ways to write
the numbers: a frame lists the first octets and the second octets that there may be, and the
numbers count the pairs of them.

* `Grid.number?`: the number of a point.
* `Frame.octets`, `Frame.number`: the octets of a number, and the number of octets.
* `Grid.octets?`: the octets of a point.
-/

namespace HiveScript

/-! ## Ranges of octets -/

namespace Ranges

/-- How many numbers there are in ranges. -/
def count (rs : Ranges) : Nat := rs.foldl (fun n r => n + (r.2 + 1 - r.1)) 0

/-- The number at a place in ranges. -/
def nth (rs : Ranges) (i : Nat) : Nat :=
  match rs with
  | [] => 0
  | (a, b) :: rs => if a + i ≤ b then a + i else nth rs (i - (b + 1 - a))

/-- The place of a number in ranges. -/
def placeOf (rs : Ranges) (n : Nat) : Nat :=
  match rs with
  | [] => 0
  | (a, b) :: rs => if a ≤ n ∧ n ≤ b then n - a else (b + 1 - a) + placeOf rs n

end Ranges

/-! ## Frames -/

/-- The first octets and the second octets of pairs. -/
structure Frame where
  leads : Ranges
  trails : Ranges

namespace Frame

/-- The pair of octets at a number. -/
def octets (f : Frame) (i : Nat) : Bytes :=
  let n := f.trails.count
  [UInt8.ofNat (f.leads.nth (i / n)), UInt8.ofNat (f.trails.nth (i % n))]

/-- The number of a pair of octets, written as one numeral. -/
def number (f : Frame) (code : Nat) : Nat :=
  f.leads.placeOf (code / 0x100) * f.trails.count + f.trails.placeOf (code % 0x100)

/-- Pairs of octets below 80, in grids of 94 characters a row. -/
def narrow : Frame := ⟨[(0x21, 0x7E)], [(0x21, 0x7E)]⟩

/-- The same pairs with the top bits set. -/
def wide : Frame := ⟨[(0xA1, 0xFE)], [(0xA1, 0xFE)]⟩

end Frame

/-! ## Grids -/

/-- Blocks of points, each with the number of its first point. -/
structure Grid where
  blocks : List (Nat × List (Option Point))

namespace Grid

/-- The number of a point. -/
def number? (g : Grid) (p : Point) : Option Nat :=
  g.blocks.findSome? fun (first, points) => (points.findIdx? (· = some p)).map (first + ·)

/-- The octets of a point in a frame. -/
def octets? (g : Grid) (f : Frame) (p : Point) : Option Bytes := (g.number? p).map f.octets

/-- All points of a grid. -/
def points (g : Grid) : Text := g.blocks.flatMap fun b => b.2.filterMap id

/-- The grid of runs of characters that start at pairs of octets in a frame. -/
def ofRuns (f : Frame) (runs : List (Nat × String)) : Grid :=
  ⟨runs.map fun (code, s) => (f.number code, pointsOfRows [s])⟩

end Grid

/-- The place of a point in a run of points. -/
def Point.placeIn? (p : Point) (first last : Nat) : Option Nat :=
  if first ≤ p.val ∧ p.val ≤ last then some (p.val - first) else none

end HiveScript
