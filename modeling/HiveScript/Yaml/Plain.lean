import HiveScript.Yaml.Cursor

/-!
# Plain scalars

Scalars without quotes. They end where something else could begin, and may go on in the next line
if it is indented.

* `Yaml.beginsPlain`: a plain scalar begins here.
* `Yaml.Reading.plain`: reads a plain scalar.
-/

namespace HiveScript.Yaml

/-- The points that begin no plain scalar unless something follows them directly. -/
def indicators : Text := "-?:,[]\x7b\x7d#&*!|>%@" ++ [Point.apostrophe, Point.quotationMark, 0x60]

/-- The brackets and the comma of flow style. -/
def flowMarks : Text := ",[]\x7b\x7d"

/-- A plain scalar begins here. -/
def beginsPlain (flow : Bool) : Text → Bool
  | [] => false
  | p :: rest =>
    !isGap p && !indicators.contains p ||
      !endsAt isGap rest && (p = Point.ofChar '-' ||
        !flow && (p = Point.ofChar '?' || p = Point.ofChar ':'))

/-- The part of a plain scalar up to the next gap or mark. -/
def plainRun (flow : Bool) : Text → Text
  | [] => []
  | p :: rest =>
    let colonEnds := p = Point.ofChar ':' &&
      (endsAt isGap rest || flow && rest.head?.any flowMarks.contains)
    if isGap p || colonEnds || flow && (flowMarks.contains p || p = Point.ofChar '?') then []
    else p :: plainRun flow rest

/-- The end of a line, folded with the empty lines after it. -/
def folded (first : Point) (more : Text) : Text :=
  if first ≠ Point.lineFeed then first :: more
  else if more.isEmpty then [Point.space]
  else more

namespace Reading

/-- Goes over spaces and ends of lines, which are kept; nothing if a marker stands there. -/
def emptyLines : Nat → Reading (Option Text)
  | 0 => return some []
  | fuel + 1 => do
    if beginsAnyMarker (← rest) then return none
    skipSpaces
    match ← lineBreak with
    | some p => return (← emptyLines fuel).map (p :: ·)
    | none => return some []

/-- What stands between two parts of a plain scalar; nothing if the scalar ends. -/
def plainGap : Reading Text := do
  let spaces ← takeWhile (· = Point.space)
  match ← lineBreak with
  | none => return spaces
  | some p =>
    match ← emptyLines ((← rest).length + 1) with
    | some ps => return folded p ps
    | none => return []

/-- Reads the parts of a plain scalar after a gap, and tells where the last one ends. -/
def plainParts (flow : Bool) (indent : Int) : Nat → Text → Mark → Reading (Text × Mark)
  | 0, _, stop => return ([], stop)
  | fuel + 1, gap, stop => do
    let part := plainRun flow (← rest)
    if part.isEmpty || (← isNext '#') then return ([], stop)
    skip part.length
    let stop ← mark
    let next ← plainGap
    let column := (← mark).column
    if next.isEmpty || (← isNext '#') || !flow && column < indent then return (gap ++ part, stop)
    let (more, stop) ← plainParts flow indent fuel next stop
    return (gap ++ part ++ more, stop)

/-- Reads a plain scalar whose lines stand at column `indent` or to the right of it, and tells where
it ends. -/
def plain (flow : Bool) (indent : Int) : Reading (Text × Mark) := do
  plainParts flow indent ((← rest).length + 1) [] (← mark)

end Reading

end HiveScript.Yaml
