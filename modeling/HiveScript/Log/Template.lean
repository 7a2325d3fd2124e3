import HiveScript.Binary64.Rounded
import HiveScript.Value.Display
import HiveScript.Value.Integer

/-!
# Templates of messages

A message is a text with places for arguments. A place begins with a percent sign and ends with a
letter for the form in which its argument is written; between them may stand a name in round
brackets, flags, a width and a precision.

* `Template.pieces?`: the places of a template and the text between them.
* `Supply`: the arguments that are still to be used.
* `Template.fill`: the message.
-/

namespace HiveScript

/-- A message with places for arguments. -/
structure Template where
  text : Text
  arguments : List Value

namespace Template

/-- A message without places. -/
def plain (s : Text) : Template := ⟨s, []⟩

/-! ## Places -/

/-- The forms in which arguments are written. -/
inductive Form where
  /-- A text as it is, and other values as in messages. -/
  | display
  /-- With quotes around texts. -/
  | inspect
  /-- With quotes around texts, and in ASCII. -/
  | ascii
  /-- The integer part of a number. -/
  | decimal
  /-- An integer in base eight or sixteen. -/
  | based (base : Nat) (capital : Bool)
  /-- A number rounded to some digits. -/
  | rounded (layout : Binary64.Layout) (capital : Bool)
  /-- One point, or the point of a number. -/
  | point
  deriving DecidableEq

/-- The forms of letters. -/
def forms : List (Char × Form) := [
    ('s', .display), ('r', .inspect), ('a', .ascii), ('d', .decimal), ('i', .decimal),
    ('u', .decimal), ('o', .based 8 false), ('x', .based 16 false), ('X', .based 16 true),
    ('e', .rounded .scientific false), ('E', .rounded .scientific true),
    ('f', .rounded .fixed false), ('F', .rounded .fixed true),
    ('g', .rounded .general false), ('G', .rounded .general true), ('c', .point)]

def formOf? (p : Point) : Option Form :=
  (forms.find? fun f => Point.ofChar f.1 = p).map (·.2)

/-- What changes how an argument is written. -/
structure Flags where
  /-- The argument stands on the left of its width. -/
  left : Bool
  /-- A sign stands before all numbers. -/
  plus : Bool
  /-- A space stands before numbers without sign. -/
  blank : Bool
  /-- The base is marked, and fractions keep their point and their zeros. -/
  full : Bool
  /-- Zeros fill the width of numbers. -/
  zeros : Bool

/-- A width or a precision. -/
inductive Measure where
  | absent
  | given (n : Nat)
  /-- An argument tells it. -/
  | argument

/-- A place for an argument. -/
structure Place where
  key : Option Text
  flags : Flags
  width : Measure
  precision : Measure
  form : Form

/-- A part of a template. -/
inductive Piece where
  | literal (p : Point)
  | place (p : Place)

/-! ## Reading places -/

/-- The name that a closing bracket ends, where `depth` brackets inside of it are open. -/
def readKey (depth : Nat) : Text → Option (Text × Text)
  | [] => none
  | p :: s =>
    let more (depth : Nat) := (readKey depth s).map fun (key, rest) => (p :: key, rest)
    if p = Point.ofChar ')' then
      match depth with
      | 0 => some ([], s)
      | depth + 1 => more depth
    else more (if p = Point.ofChar '(' then depth + 1 else depth)

/-- The name at the beginning of a place, if there is one. -/
def readKey? (s : Text) : Option (Option Text × Text) :=
  match Text.after? "(" s with
  | some s => (readKey 0 s).map fun (key, rest) => (some key, rest)
  | none => some (none, s)

def flagPoints : Text := "-+ #0"

def readFlags (s : Text) : Flags × Text :=
  let fs := s.takeWhile flagPoints.contains
  let has (c : Char) : Bool := fs.contains (Point.ofChar c)
  (⟨has '-', has '+', has ' ', has '#', has '0'⟩, s.dropWhile flagPoints.contains)

/-- The greatest width and precision. -/
def greatestMeasure : Nat := 0x7FFFFFFF

/-- A measure at the beginning; too great ones are refused. -/
def readMeasure? (s : Text) : Option (Measure × Text) :=
  match Text.after? "*" s with
  | some rest => some (.argument, rest)
  | none =>
    let ds := s.takeWhile Point.isDigit
    let n := Numeral.ofDigits 10 (ds.filterMap Point.digit?)
    if ds.isEmpty then some (.absent, s)
    else if n ≤ greatestMeasure then some (.given n, s.dropWhile Point.isDigit)
    else none

/-- A precision, which a point announces; without digits it is zero. -/
def readPrecision? (s : Text) : Option (Measure × Text) :=
  match Text.after? "." s with
  | none => some (.absent, s)
  | some s => (readMeasure? s).map fun (m, rest) =>
    match m with
    | .absent => (.given 0, rest)
    | m => (m, rest)

/-- One letter that tells a size, which means nothing. -/
def dropSize (s : Text) : Text :=
  if s.head?.any (Text.ofString "hlL").contains then s.tail else s

/-- The place whose percent sign has been read. -/
def readPlace? (s : Text) : Option (Place × Text) := do
  let (key, s) ← readKey? s
  let (flags, s) := readFlags s
  let (width, s) ← readMeasure? s
  let (precision, s) ← readPrecision? s
  match dropSize s with
  | [] => none
  | p :: rest => return (⟨key, flags, width, precision, ← formOf? p⟩, rest)

/-- Reads the parts of a template; two percent signs in a row stand for one. -/
def readPieces : Nat → Text → Option (List Piece)
  | _, [] => some []
  | 0, _ => none
  | fuel + 1, p :: s => do
    if p ≠ Point.ofChar '%' then return .literal p :: (← readPieces fuel s)
    else if s.head? = some p then return .literal p :: (← readPieces fuel s.tail)
    else
      let (place, rest) ← readPlace? s
      return .place place :: (← readPieces fuel rest)

/-- The parts of a template, if its places are well-formed. -/
def pieces? (s : Text) : Option (List Piece) := readPieces s.length s

/-! ## Arguments -/

/-- The arguments of a template. -/
inductive Supply where
  /-- They are used one after the other, and all of them. -/
  | inOrder (rest : List Value)
  /-- They are used by their names. The one named last can be used once, and before any is named
  the mapping as a whole. -/
  | named (entries : Entries) (next : Option Value)

/-- The supply of some arguments: a single mapping that has entries is used by names. -/
def Supply.ofList : List Value → Supply
  | [.map (e :: es)] => .named (e :: es) (some (.map (e :: es)))
  | vs => .inOrder vs

/-- All arguments have been used. -/
def Supply.isDone : Supply → Bool
  | inOrder rest => rest.isEmpty
  | named .. => true

/-- Filling uses up arguments, and fails if one is missing or does not fit. -/
abbrev Filling := StateT Supply Option

/-- Uses the next argument. -/
def take : Filling Value := fun s =>
  match s with
  | .inOrder (v :: rest) => some (v, .inOrder rest)
  | .named es (some v) => some (v, .named es none)
  | _ => none

/-- Makes the argument of a name the next one. -/
def select (key : Text) : Filling Unit := fun s =>
  match s with
  | .named es _ => (es.get? key).map fun v => ((), .named es (some v))
  | _ => none

/-- A measure, for which an argument has to be an integer. -/
def Measure.value : Measure → Filling (Option Int)
  | absent => return none
  | given n => return some n
  | argument => do
    match ← take with
    | .scalar s =>
      let i ← s.int?
      if i.natAbs ≤ greatestMeasure then return some i else failure
    | _ => failure

/-! ## Writing arguments -/

/-- An argument as it is written, still without its width. -/
structure Written where
  /-- Numbers have signs, and zeros before them. -/
  numeric : Bool
  negative : Bool
  /-- What marks the base. -/
  mark : Text
  body : Text

/-- What is written without a sign. -/
def Written.ofText (s : Text) : Written := ⟨false, false, [], s⟩

/-- Small letters of ASCII become capital ones. -/
def raise (s : Text) : Text :=
  s.map fun p => if 0x61 ≤ p.val ∧ p.val ≤ 0x7A then Point.ofNat (p.val - 0x20) else p

/-- Points outside of ASCII become escapes. -/
def inAscii (s : Text) : Text := s.flatMap fun p => if p.val < 0x80 then [p] else p.escape

/-- The integer part of a number. -/
def wholePart? : Value → Option Int
  | .text _ => none
  | v => v.toInt.toOption

/-- The number of an argument as a floating point number. -/
def number? : Value → Option Binary64
  | .float x => some x
  | .scalar s => s.int?.bind Binary64.ofInt?
  | _ => none

/-- The point of an argument. -/
def point? : Value → Option Point
  | .text [p] => some p
  | .scalar s => s.int?.bind fun i =>
    if 0 ≤ i ∧ i < 0x110000 then some (Point.ofNat i.toNat) else none
  | _ => none

/-- An argument in a form. -/
def write? (form : Form) (full : Bool) (precision : Option Nat) (v : Value) : Option Written :=
  let cut (s : Text) : Written :=
    .ofText (match precision with
      | some n => s.take n
      | none => s)
  let integer (i : Int) (mark ds : Text) : Written :=
    ⟨true, i < 0, mark, Text.padLeft (precision.getD 1) (Point.ofDigit 0) ds⟩
  match form with
  | .display => v.display?.map cut
  | .inspect => v.inspect?.map cut
  | .ascii => v.inspect?.map fun s => cut (inAscii s)
  | .decimal => do
    let i ← wholePart? v
    return integer i [] (← Numeral.ofInt? i.natAbs)
  | .based base capital => do
    let .scalar s := v | none
    let i ← s.int?
    let mark : Text := if !full then [] else if base = 8 then "0o" else "0x"
    let ds := Numeral.write base i.natAbs
    return if capital then integer i (raise mark) (raise ds) else integer i mark ds
  | .rounded layout capital => do
    let (negative, s) := Binary64.roundedText layout full (precision.getD 6) (← number? v)
    return ⟨true, negative, [], if capital then raise s else s⟩
  | .point => (point? v).map fun p => .ofText [p]

/-- What is written in the width of its place. -/
def pad (flags : Flags) (width : Nat) (w : Written) : Text :=
  let sign : Text :=
    if !w.numeric then []
    else if w.negative then "-"
    else if flags.plus then "+"
    else if flags.blank then " "
    else []
  let lead := sign ++ w.mark
  if flags.left then Text.padRight width Point.space (lead ++ w.body)
  else if flags.zeros && w.numeric then
    lead ++ Text.padLeft (width - lead.length) (Point.ofDigit 0) w.body
  else Text.padLeft width Point.space (lead ++ w.body)

/-- What stands at a place. A negative width asks for the left side, and a negative precision is
none at all. -/
def Place.fill (p : Place) : Filling Text := do
  if let some key := p.key then select key
  let width := (← p.width.value).getD 0
  let precision := (← p.precision.value).map Int.toNat
  let w ← write? p.form p.flags.full precision (← take)
  return pad { p.flags with left := p.flags.left || decide (width < 0) } width.natAbs w

def Piece.fill : Piece → Filling Text
  | literal p => return [p]
  | place p => p.fill

/-- The message, if the arguments fit; one without arguments has no places. -/
def fill (t : Template) : Option Text :=
  if t.arguments.isEmpty then some t.text
  else do
    let (parts, left) ← ((← pieces? t.text).mapM Piece.fill).run (.ofList t.arguments)
    if left.isDone then return parts.flatten else none

end Template

end HiveScript
