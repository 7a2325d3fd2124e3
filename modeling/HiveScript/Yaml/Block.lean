import HiveScript.Yaml.Cursor

/-!
# Block scalars

Scalars that take up whole lines. Signs after the indicator tell how far the lines are indented, and
what becomes of the ends of lines at the end.

* `Yaml.Reading.block`: reads a block scalar.
-/

namespace HiveScript.Yaml

/-- What becomes of the ends of lines at the end of a block scalar. -/
inductive Chomping where
  /-- One of them stays. -/
  | clip
  | strip
  | keep

namespace Reading

/-- Reads a sign for the ends of lines, if there is one. -/
def chomping? : Reading (Option Chomping) := do
  if ← isNext '+' then
    skip 1
    return some .keep
  else if ← isNext '-' then
    skip 1
    return some .strip
  else return none

/-- Reads a digit for the indentation, if there is one. -/
def indentation? (began : Mark) : Reading (Option Nat) := do
  match (← peek).filter Point.isDigit with
  | none => return none
  | some p =>
    if p = Point.ofDigit 0 then fail .blockScalar began .zeroIndentation
    skip 1
    return p.digit?

/-- Reads both signs, which stand in any order. -/
def blockSigns (began : Mark) : Reading (Chomping × Option Nat) := do
  let first ← chomping?
  let n ← indentation? began
  let last ← if first.isNone && n.isSome then chomping? else pure none
  if !endsAt isSpaceOrBreak (← rest) then failPoint .blockScalar began .blockIndicators
  return ((first <|> last).getD .clip, n)

/-- Goes over empty lines before the first line of a block scalar. Gives the ends of lines, and the
greatest column that was reached. -/
def leadingLines : Nat → Nat → Reading (Text × Nat)
  | 0, most => return ([], most)
  | fuel + 1, most => do
    skipSpaces
    let most := max most (← mark).column
    match ← lineBreak with
    | some p =>
      let (ps, most) ← leadingLines fuel most
      return (p :: ps, most)
    | none => return ([], most)

/-- Goes over the spaces up to column `indent`. -/
def indentTo (indent : Nat) : Reading Unit := do
  let spaces := (← rest).takeWhile (· = Point.space)
  skip (min spaces.length (indent - (← mark).column))

/-- Goes over empty lines inside of a block scalar. -/
def innerLines (indent : Nat) : Nat → Reading Text
  | 0 => return []
  | fuel + 1 => do
    indentTo indent
    match ← lineBreak with
    | some p => return p :: (← innerLines indent fuel)
    | none => return []

/-- Another line of a block scalar begins here. -/
def atBlockLine (indent : Nat) : Reading Bool := do
  return (← mark).column = indent && !(← rest).isEmpty

/-- Reads the lines of a block scalar, where the line before ends with `last`, and `breaks` stands
before the next one. -/
def blockLines (fold : Bool) (chomping : Chomping) (indent : Nat) :
    Nat → Text → Text → Reading Text
  | 0, _, _ => return []
  | fuel + 1, last, breaks => do
    if !(← atBlockLine indent) then
      match chomping with
      | .strip => return []
      | .clip => return last
      | .keep => return last ++ breaks
    else
      let line ← takeWhile fun p => !isBreak p
      let last := (← lineBreak).toList
      let after ← innerLines indent ((← rest).length + 1)
      let folds := fold && last = [Point.lineFeed] && !line.head?.any isBlank &&
        !(← peek).any isBlank
      let joint : Text :=
        if !(← atBlockLine indent) then []
        else if !folds then last
        else if after.isEmpty then [Point.space]
        else []
      return breaks ++ line ++ joint ++ (← blockLines fold chomping indent fuel last after)

/-- Reads the block scalar whose indicator stands here, inside of a block at column `parent`. -/
def block (fold : Bool) (parent : Int) : Reading Text := do
  let began ← mark
  skip 1
  let (chomping, increment) ← blockSigns began
  finishLine .blockScalar began
  let least := (max (parent + 1) 1).toNat
  let fuel := (← rest).length + 1
  match increment with
  | none =>
    let (breaks, most) ← leadingLines fuel 0
    blockLines fold chomping (max least most) fuel [] breaks
  | some n =>
    let indent := least + n - 1
    let breaks ← innerLines indent fuel
    blockLines fold chomping indent fuel [] breaks

end Reading

end HiveScript.Yaml
