import HiveScript.Yaml.Problem

/-!
# Reading a YAML text

The rest of a text together with the place where it begins, and the small steps of reading from
there on.

* `Yaml.Reading`: reading goes on in the text, or meets a problem.
* `Yaml.Reading.skipGaps`: goes to the next thing that means something.
-/

namespace HiveScript.Yaml

/-! ## Points -/

/-- A space, a tab, or the end of a line. -/
def isGap (p : Point) : Bool := p = Point.space || p = Point.ofChar '\t' || isBreak p

/-- A space or the end of a line. -/
def isSpaceOrBreak (p : Point) : Bool := p = Point.space || isBreak p

/-- A space or a tab. -/
def isBlank (p : Point) : Bool := p = Point.space || p = Point.ofChar '\t'

/-- The next point is of a class, or there is none. -/
def endsAt (cls : Point → Bool) (s : Text) : Bool := s.head?.all cls

/-- A line that parts documents begins here: three hyphens or three points, and a gap. -/
def beginsMarker (w : String) (s : Text) : Bool :=
  match Text.after? w s with
  | some rest => endsAt isGap rest
  | none => false

def beginsAnyMarker (s : Text) : Bool := beginsMarker "---" s || beginsMarker "..." s

/-- A letter or digit of ASCII, a hyphen or a low line. -/
def isNamePoint (p : Point) : Bool :=
  Ranges.has [(0x30, 0x39), (0x41, 0x5A), (0x61, 0x7A), (0x2D, 0x2D), (0x5F, 0x5F)] p

/-! ## Cursors -/

/-- A place in a text, and the text from there on. -/
structure Cursor where
  rest : Text
  mark : Mark

namespace Cursor

/-- Goes over one point that does not end a line. The byte order mark takes no column. -/
def advance (c : Cursor) : Cursor :=
  match c.rest with
  | [] => c
  | p :: rest =>
    let column := if p = Point.byteOrderMark then c.mark.column else c.mark.column + 1
    ⟨rest, c.mark.index + 1, c.mark.line, column⟩

/-- Goes over `n` such points. -/
def advanceBy : Nat → Cursor → Cursor
  | 0, c => c
  | n + 1, c => c.advance.advanceBy n

/-- Goes to the next line, `n` points away. -/
def nextLine (n : Nat) (c : Cursor) : Cursor :=
  ⟨c.rest.drop n, c.mark.index + n, c.mark.line + 1, 0⟩

end Cursor

/-! ## Reading -/

/-- Reading goes on in a text, or meets a problem. -/
abbrev Reading := StateT Cursor (Except Problem)

namespace Reading

/-- What is left of the text. -/
def rest : Reading Text := return (← get).rest

/-- Where reading stands. -/
def mark : Reading Mark := return (← get).mark

/-- The next point. -/
def peek : Reading (Option Point) := return (← get).rest.head?

/-- The next point is this one. -/
def isNext (c : Char) : Reading Bool := return (← peek) = some (Point.ofChar c)

/-- Goes over `n` points that end no line. -/
def skip (n : Nat) : Reading Unit := modify (Cursor.advanceBy n)

/-- Goes over the points of a class that ends no line. -/
def takeWhile (cls : Point → Bool) : Reading Text := do
  let s := (← rest).takeWhile cls
  skip s.length
  return s

/-- Goes over the spaces of this line. -/
def skipSpaces : Reading Unit := do
  let _ ← takeWhile (· = Point.space)

/-- Goes over a comment, if one begins here. -/
def skipComment : Reading Unit := do
  if ← isNext '#' then
    let _ ← takeWhile fun p => !isBreak p

/-- Goes over the end of a line, if it stands here. It is read as a line feed, but for the
separators of lines and paragraphs, which stay. -/
def lineBreak : Reading (Option Point) := do
  match (← get).rest with
  | [] => return none
  | p :: rest =>
    if p = Point.carriageReturn ∧ rest.head? = some Point.lineFeed then
      modify (Cursor.nextLine 2)
      return some Point.lineFeed
    else if isBreak p then
      modify (Cursor.nextLine 1)
      return some (if p = Point.carriageReturn ∨ p = 0x85 then Point.lineFeed else p)
    else return none

/-- Something here does not fit. -/
def fail (activity : Activity) (began : Mark) (what : Misfit) : Reading α := do
  throw (.misfit (some (activity, some began)) what (← mark))

/-- Another point was wanted here. -/
def failPoint (activity : Activity) (began : Mark) (wanted : Wanted) : Reading α := do
  fail activity began (.point wanted (← peek))

/-- Goes over spaces, comments and ends of lines. -/
def skipGapsFuel : Nat → Reading Unit
  | 0 => return ()
  | fuel + 1 => do
    skipSpaces
    skipComment
    if (← lineBreak).isSome then skipGapsFuel fuel

def skipGaps : Reading Unit := do skipGapsFuel ((← rest).length + 1)

/-- Goes over the rest of a line that may hold a comment. -/
def finishLine (activity : Activity) (began : Mark) : Reading Unit := do
  skipSpaces
  skipComment
  if endsAt isBreak (← rest) then
    let _ ← lineBreak
  else failPoint activity began .commentOrBreak

end Reading

end HiveScript.Yaml
