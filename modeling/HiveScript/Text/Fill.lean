import HiveScript.Text.Blank
import HiveScript.Text.Numeral
import HiveScript.Text.WordPoint

/-!
# Filled lines

Text on lines of a bounded width. A text is cut into chunks, between which lines may end: words,
the parts of hyphenated words, long dashes, and the spaces between them.

* `Text.chunks`: the chunks of a text.
* `Text.fill`: the lines, with as many chunks on each as it has room for.
-/

namespace HiveScript

def hyphen : Point := Point.ofChar '-'

/-- A point inside of a word that is no digit. -/
def Point.isLetter (p : Point) : Bool := p.isWordPoint && p.decimalDigit?.isNone

/-- A point after which a long dash may stand. -/
def Point.isWordOrStop (p : Point) : Bool :=
  p.isWordPoint || [Point.ofChar '!', Point.quotationMark, Point.apostrophe, Point.ofChar '&',
    Point.ofChar '.', Point.ofChar ',', Point.ofChar '?'].contains p

namespace Text

/-! ## Chunks -/

/-- What a chunk is made of. -/
inductive ChunkKind where
  | blanks
  | dash
  | word
  deriving DecidableEq

/-- A long dash stands between `before`, which is written backwards, and what follows the dash in
`s`: two hyphens or more, then the inside of a word. -/
def hasLongDash (before s : Text) : Bool :=
  before.head?.any Point.isWordOrStop && beginsWith [hyphen, hyphen] s &&
    (s.dropWhile (· = hyphen)).head?.any Point.isWordPoint

/-- The kind of a chunk that starts where `s` does. -/
def kindAt (before s : Text) : ChunkKind :=
  if s.head? = some Point.space then .blanks
  else if hasLongDash before s then .dash
  else .word

/-- Two letters, or a letter, a hyphen and a letter, stand beside a hyphen in a word; what stands
before the hyphen is written backwards. -/
def hasSyllable (side : Text) : Bool :=
  match side with
  | a :: b :: rest =>
    a.isLetter && (b.isLetter || (b = hyphen && rest.head?.any Point.isLetter))
  | _ => false

/-- A chunk ends where `s` starts. -/
def chunkEnds (kind : ChunkKind) (before s : Text) : Bool :=
  match kind with
  | .blanks => s.head? ≠ some Point.space
  | .dash => s.head? ≠ some hyphen
  | .word => s.head? = some Point.space || hasLongDash before s

/-- The chunks of `s`, of which the first one goes on from `chunk`; that and all of the text
before are written backwards. -/
def chunksFrom (before chunk : Text) (kind : ChunkKind) : Text → List Text
  | [] => if chunk.isEmpty then [] else [chunk.reverse]
  | p :: s =>
    if chunk.isEmpty then chunksFrom (p :: before) [p] (kindAt before (p :: s)) s
    else if kind = .word && p = hyphen && hasSyllable before && hasSyllable s then
      (p :: chunk).reverse :: chunksFrom (p :: before) [] .word s
    else if chunkEnds kind before (p :: s) then
      chunk.reverse :: chunksFrom (p :: before) [p] (kindAt before (p :: s)) s
    else chunksFrom (p :: before) (p :: chunk) kind s

/-- The chunks of a text. -/
def chunks (s : Text) : List Text := chunksFrom [] [] .word s

/-! ## Lines -/

/-- How many points of a chunk go onto a line that has room for so many: to the last hyphen, if
anything but hyphens stands before it. -/
def breakLong (room : Nat) (chunk : Text) : Nat :=
  match cutLast? hyphen (chunk.take room) with
  | some (a, _) => if a.any (· ≠ hyphen) then a.length + 1 else room
  | none => room

/-- The chunks that fit on a line, and the others. -/
def takeFitting (width : Nat) : Nat → List Text → List Text × List Text
  | _, [] => ([], [])
  | used, c :: cs =>
    if used + c.length ≤ width then
      let (line, rest) := takeFitting width (used + c.length) cs
      (c :: line, rest)
    else ([], c :: cs)

/-- A list without its last chunk, if that is blank. -/
def dropBlankEnd (line : List Text) : List Text :=
  match line.getLast? with
  | some c => if c.isBlank then line.dropLast else line
  | none => line

/-- A line with the beginning of a chunk that is longer than any line, and the others. -/
def addLong (width : Nat) (line : List Text) : List Text → List Text × List Text
  | [] => (line, [])
  | c :: cs =>
    if width < c.length then
      let n := breakLong (width - line.flatten.length) c
      (line ++ [c.take n], c.drop n :: cs)
    else (line, c :: cs)

/-- The lines of chunks; blanks at the ends of lines are dropped. -/
def fillFrom (width : Nat) (first : Bool) : Nat → List Text → List Text
  | 0, _ => []
  | _, [] => []
  | fuel + 1, c :: cs =>
    let cs := if !first && c.isBlank then cs else c :: cs
    let (line, rest) := takeFitting width 0 cs
    let (line, rest) := addLong width line rest
    match dropBlankEnd line with
    | [] => fillFrom width first fuel rest
    | line => line.flatten :: fillFrom width false fuel rest

/-- The lines of a text. -/
def fill (width : Nat) (s : Text) : List Text :=
  fillFrom width true (2 * s.length + 1) s.chunks

end Text

end HiveScript
