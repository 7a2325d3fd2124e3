import HiveScript.Yaml.Plain

/-!
# Quoted scalars

Scalars between apostrophes, where two apostrophes stand for one, and between quotation marks, where
a backslash begins an escape. They may go on in further lines.

* `Yaml.Reading.quoted`: reads a quoted scalar.
-/

namespace HiveScript.Yaml

/-- The points that single letters after a backslash stand for. -/
def letterEscapes : List (Char × Point) := [
    ('0', 0x00), ('a', 0x07), ('b', 0x08), ('t', 0x09), ('n', 0x0A), ('v', 0x0B), ('f', 0x0C),
    ('r', 0x0D), ('e', 0x1B), (' ', 0x20), ('/', 0x2F), ('N', 0x85), ('_', 0xA0),
    ('L', 0x2028), ('P', 0x2029)]

/-- The point of a letter after a backslash. -/
def letterEscape? (p : Point) : Option Point :=
  if p = Point.ofChar '\t' ∨ p = Point.quotationMark ∨ p = Point.backslash then some p
  else (letterEscapes.find? fun e => Point.ofChar e.1 = p).map (·.2)

/-- How many digits follow a letter that begins the number of a point. -/
def codeLength? (p : Point) : Option Nat :=
  if p = Point.ofChar 'x' then some 2
  else if p = Point.ofChar 'u' then some 4
  else if p = Point.ofChar 'U' then some 8
  else none

/-- The point of a number. -/
def pointOfCode (code : Nat) : Except Failure Point :=
  if code < 0x110000 then .ok (Point.ofNat code)
  else .error (if code < 0x80000000 then .pointOutOfRange else .pointTooGreat)

namespace Reading

/-- Goes over spaces, tabs and ends of lines, which are kept; no marker may stand there. -/
def quotedLines (began : Mark) : Nat → Reading Text
  | 0 => return []
  | fuel + 1 => do
    if beginsAnyMarker (← rest) then fail .quotedScalar began .documentSeparator
    let _ ← takeWhile isBlank
    match ← lineBreak with
    | some p => return p :: (← quotedLines began fuel)
    | none => return []

/-- Reads what stands between two parts of a quoted scalar. -/
def quotedGap (began : Mark) : Reading Text := do
  let blanks ← takeWhile isBlank
  match ← lineBreak with
  | none => return blanks
  | some p => return folded p (← quotedLines began ((← rest).length + 1))

/-- Reads the number of a point, in `count` digits. -/
def pointCode (began : Mark) (count : Nat) : Reading Point := do
  let ds := (← rest).takeWhile Point.isHexDigit
  if ds.length < count then
    fail .doubleQuotedScalar began
      (.point (.hexadecimals count) ((← rest).drop ds.length).head?)
  skip count
  match pointOfCode (Numeral.ofDigits 16 ((ds.take count).filterMap Point.digit?)) with
  | .ok p => return p
  | .error f => throw (.failure f)

/-- Reads an escape whose backslash has been read. -/
def escape (began : Mark) : Reading Text := do
  match ← peek with
  | none => fail .doubleQuotedScalar began (.unknownEscape none)
  | some p =>
    match letterEscape? p, codeLength? p with
    | some q, _ =>
      skip 1
      return [q]
    | none, some count =>
      skip 1
      return [← pointCode began count]
    | none, none =>
      match ← lineBreak with
      | some _ => quotedLines began ((← rest).length + 1)
      | none => fail .doubleQuotedScalar began (.unknownEscape (some p))

/-- Reads a scalar up to its closing quote. -/
def quotedParts (quote : Point) (began : Mark) : Nat → Reading Text
  | 0 => return []
  | fuel + 1 => do
    match ← rest with
    | [] => fail .quotedScalar began .endOfText
    | p :: next =>
      if p = quote then
        if quote = Point.apostrophe ∧ next.head? = some quote then
          skip 2
          return quote :: (← quotedParts quote began fuel)
        else
          skip 1
          return []
      else if p = Point.backslash ∧ quote = Point.quotationMark then
        skip 1
        let s ← escape began
        return s ++ (← quotedParts quote began fuel)
      else if isGap p then
        let s ← quotedGap began
        return s ++ (← quotedParts quote began fuel)
      else
        skip 1
        return p :: (← quotedParts quote began fuel)

/-- Reads the scalar whose opening quote stands here. -/
def quoted (quote : Point) : Reading Text := do
  let began ← mark
  skip 1
  quotedParts quote began ((← rest).length + 1)

end Reading

end HiveScript.Yaml
