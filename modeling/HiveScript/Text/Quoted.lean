import HiveScript.Text.Numeral
import HiveScript.Text.Printable

/-!
# Quoted texts

A text between quotes that shows each point on one line: backslashes, quotes and what is not
printable are written as escapes. The quotes are apostrophes unless the text holds an apostrophe
and no quotation mark.
-/

namespace HiveScript

/-- A backslash escape with the number of a point, in two, four or eight digits. -/
def Point.escape (p : Point) : Text :=
  if p.val < 0x100 then "\\x" ++ Numeral.padded 16 2 p.val
  else if p.val < 0x10000 then "\\u" ++ Numeral.padded 16 4 p.val
  else "\\U" ++ Numeral.padded 16 8 p.val

/-- A point inside quotes. -/
def Point.quotedIn (quote p : Point) : Text :=
  if p = quote ∨ p = Point.backslash then [Point.backslash, p]
  else if p = Point.ofChar '\t' then "\\t"
  else if p = Point.lineFeed then "\\n"
  else if p = Point.carriageReturn then "\\r"
  else if p.isPrintable then [p]
  else p.escape

namespace Text

/-- The quotes that a text is written in. -/
def quoteFor (s : Text) : Point :=
  if s.contains Point.apostrophe && !s.contains Point.quotationMark then Point.quotationMark
  else Point.apostrophe

def quoted (s : Text) : Text :=
  let q := s.quoteFor
  q :: s.flatMap (Point.quotedIn q) ++ [q]

end Text

end HiveScript
