import HiveScript.Text.Blank

/-!
# Lines

Two notions of line. A *physical line* ends at a line feed, and a carriage return directly before
it belongs to the end. A *broken line* ends at any point that breaks lines in Unicode.

* `Text.physicalLines`, `Text.brokenLines`: the lines of a text.
* `Text.oneLine`: a text as a message shows it, on one line of bounded length.
-/

namespace HiveScript

/-- Line feed, vertical tab, form feed, carriage return, the separators 1C to 1E, next line, line
and paragraph separator. -/
def breakRanges : Ranges := [(0x0A, 0x0D), (0x1C, 0x1E), (0x85, 0x85), (0x2028, 0x2029)]

def Point.isBreak (p : Point) : Bool := breakRanges.has p

namespace Text

/-- The physical lines; the last one may be empty, and there is always one. -/
def physicalLines : Text → List Text
  | [] => [[]]
  | p :: s =>
    if p = Point.lineFeed then [] :: physicalLines s
    else if p = Point.carriageReturn ∧ s.head? = some Point.lineFeed then physicalLines s
    else consFirst p (physicalLines s)

/-- The broken lines; a break at the end opens no further line. -/
def brokenLines : Text → List Text
  | [] => []
  | p :: s =>
    if p = Point.carriageReturn ∧ s.head? = some Point.lineFeed then brokenLines s
    else if p.isBreak then [] :: brokenLines s
    else consFirst p (brokenLines s)

/-- Writes a line feed for each carriage return, with the line feed after it if there is one. -/
def unifyBreaks : Text → Text
  | [] => []
  | p :: s =>
    if p = Point.carriageReturn then
      if s.head? = some Point.lineFeed then unifyBreaks s else Point.lineFeed :: unifyBreaks s
    else p :: unifyBreaks s

/-- Drops each carriage return that stands directly before a line feed. -/
def dropPairedReturns : Text → Text
  | [] => []
  | p :: s =>
    if p = Point.carriageReturn ∧ s.head? = some Point.lineFeed then dropPairedReturns s
    else p :: dropPairedReturns s

/-! ## Texts on one line

Runs of blanks become single spaces, and of what is too long the end is cut off. -/

/-- The first `n` points; of a negative number, all but that many last ones. -/
def upTo (n : Int) (s : Text) : Text :=
  match n with
  | .ofNat n => s.take n
  | .negSucc n => s.take (s.length - (n + 1))

def ellipsis : Text := "..."

/-- A text on one line of at most `limit` points, if `limit` leaves room for the ellipsis. -/
def oneLineWithin (limit : Int) (s : Text) : Text :=
  let s := join [Point.space] s.words
  if s.length ≤ limit then s else upTo (limit - ellipsis.length) s ++ ellipsis

/-- The greatest length of a message. -/
def lineLimit : Int := 600

def oneLine (s : Text) : Text := oneLineWithin lineLimit s

end Text

end HiveScript
