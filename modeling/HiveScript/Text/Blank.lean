import HiveScript.Text.Basic

/-!
# Blanks

The points that count as white space, and what trimming and word splitting make of them.
-/

namespace HiveScript

/-- The points with the property White_Space and the four information separators. -/
def blankRanges : Ranges :=
  [(0x09, 0x0D), (0x1C, 0x20), (0x85, 0x85), (0xA0, 0xA0), (0x1680, 0x1680), (0x2000, 0x200A),
    (0x2028, 0x2029), (0x202F, 0x202F), (0x205F, 0x205F), (0x3000, 0x3000)]

def Point.isBlank (p : Point) : Bool := blankRanges.has p

namespace Text

/-- Takes the points of a class off both ends. -/
def trimBy (cls : Point → Bool) (s : Text) : Text :=
  ((s.dropWhile cls).reverse.dropWhile cls).reverse

/-- Takes the blanks off both ends. -/
def trim (s : Text) : Text := s.trimBy Point.isBlank

def isBlank (s : Text) : Bool := s.all Point.isBlank

/-- The maximal runs without blanks. -/
def words (s : Text) : List Text := (s.fields Point.isBlank).filter fun w => !w.isEmpty

end Text

end HiveScript
