import HiveScript.Binary64.Basic
import HiveScript.Text.Lowercase
import HiveScript.Yaml.Problem
import HiveScript.Yaml.Tag

/-!
# Values of scalars

What a text denotes when its kind is known. The kind of a plain scalar fits its text, so that little
can fail; a kind that is told by a tag may not fit.

* `Yaml.Tag.denote`: the value.
-/

namespace HiveScript.Yaml

/-! ## Integers -/

/-- The integer of a numeral. -/
def readNumeral (base : Nat) (s : Text) : Except Failure Int :=
  match Numeral.read base s with
  | .ok i => .ok i
  | .error .malformed => .error (.malformedNumeral base s)
  | .error (.tooLong digits) => .error (.numeralTooLong digits)

/-- An integer without its sign and without low lines: in base two, eight, ten or sixteen, or in
decimal parts between colons, each of which counts sixty times as much as the next one. -/
def readMagnitude (s : Text) : Except Failure Int := do
  match s, Text.after? "0b" s, Text.after? "0x" s with
  | [], _, _ => throw .emptyText
  | _, some t, _ => readNumeral 2 t
  | _, _, some t => readNumeral 16 t
  | p :: t, none, none =>
    if p = Point.ofDigit 0 then
      if t.isEmpty then return 0 else readNumeral 8 s
    else return (← (parts s).mapM (readNumeral 10)).foldl (fun n d => n * 60 + d) 0

/-- A sign is multiplied with what follows it. -/
def withSign (negative : Bool) (i : Int) : Int := if negative then -i else i

def readInteger (s : Text) : Except Failure Int := do
  let (negative, t) := Numeral.readSign (s.filter (· ≠ Point.ofChar '_'))
  return withSign negative (← readMagnitude t)

/-! ## Fractions -/

def readNumber (s : Text) : Except Failure Binary64 :=
  match Binary64.read? s with
  | some x => .ok x
  | none => .error (.malformedNumber s)

/-- The sum of parts, last one first, each of which counts sixty times as much as the one before.
The powers of sixty are integers and have to be in range. -/
def sexagesimal (xs : List Binary64) : Except Failure Binary64 :=
  xs.zipIdx.foldlM (fun sum (x, i) =>
    match Binary64.ofInt? (Nat.pow 60 i) with
    | some power => .ok (sum.add (x.mul power))
    | none => .error .integerTooGreat) (.zero false)

def readFloat (s : Text) : Except Failure Binary64 := do
  let s := Text.lowercase (s.filter (· ≠ Point.ofChar '_'))
  if s.isEmpty then throw .emptyText
  let (negative, t) := Numeral.readSign s
  let x ←
    if t = ".inf" then pure (Binary64.infinite false)
    else if t = ".nan" then pure Binary64.nan
    else if t.contains (Point.ofChar ':') then do
      sexagesimal (← (parts t).mapM readNumber).reverse
    else readNumber t
  return if negative then x.negate else x

/-! ## Values -/

/-- The value of a text of some kind; kinds without values of their own have the text as value. -/
def Tag.denote (t : Tag) (s : Text) : Except Failure Scalar :=
  match t with
  | .null => .ok .null
  | .bool =>
    let word := Text.lowercase s
    match truthWords.find? fun w => word = Text.ofString w.1 with
    | some w => .ok (.bool w.2)
    | none => .error (.unknownName word)
  | .int => (readInteger s).map .int
  | .float => (readFloat s).map .float
  | .timestamp =>
    match moment? s with
    | some r => r.mapError .calendar
    | none => .error (.noMember "NoneType" "groupdict")
  | _ => .ok (.text s)

end HiveScript.Yaml
