import HiveScript.Binary64.Basic
import HiveScript.Text.Line
import HiveScript.Value.Basic

/-!
# Reading JSON

JSON texts, with the words for infinities and for what is no number. A text that is not JSON is
refused with the cause and the place of the first thing that does not fit.

* `Json.read`: the value of a text.
* `Json.ReadError.message`: a refusal in words, with the line and the column.
-/

namespace HiveScript.Json

/-! ## Refusals -/

/-- What does not fit. -/
inductive Cause where
  | byteOrderMark
  | noValue
  | noPropertyName
  | noColon
  | noComma
  | extraData
  | unterminatedString
  | controlCharacter
  | badEscape
  | badCodeEscape
  deriving DecidableEq

def Cause.message : Cause → Text
  | byteOrderMark => "Unexpected UTF-8 BOM (decode using utf-8-sig)"
  | noValue => "Expecting value"
  | noPropertyName => "Expecting property name enclosed in double quotes"
  | noColon => "Expecting ':' delimiter"
  | noComma => "Expecting ',' delimiter"
  | extraData => "Extra data"
  | unterminatedString => "Unterminated string starting at"
  | controlCharacter => "Invalid control character at"
  | badEscape => "Invalid \\escape"
  | badCodeEscape => "Invalid \\uXXXX escape"

/-- Why a text is refused. A place is given by how many points are left from it on. -/
inductive ReadError where
  | malformed (cause : Cause) (left : Nat)
  | numeralTooLong (digits : Nat)
  /-- Arrays and objects stand too deep inside of each other; the innermost one is an array. -/
  | tooDeep (isArray : Bool)
  deriving DecidableEq

/-- A refusal of the text `doc` in words, unless it is because of a numeral. -/
def ReadError.placeMessage (doc : Text) (cause : Cause) (left : Nat) : Text :=
  let place := doc.length - left
  let before := doc.take place
  let line := before.count Point.lineFeed + 1
  let column := (before.reverse.takeWhile (· ≠ Point.lineFeed)).length + 1
  cause.message ++ ": line " ++ Numeral.decimal line ++ " column " ++ Numeral.decimal column ++
    " (char " ++ Numeral.decimal place ++ ")"

def fail (cause : Cause) (rest : Text) : Except ReadError α := .error (.malformed cause rest.length)

/-! ## Parts -/

def isSpace (p : Point) : Bool :=
  p = Point.space || p = Point.ofChar '\t' || p = Point.lineFeed || p = Point.carriageReturn

def skipSpaces (s : Text) : Text := s.dropWhile isSpace

/-- The point that a letter after a backslash stands for. -/
def simpleEscape? (p : Point) : Option Point :=
  if p = Point.quotationMark ∨ p = Point.backslash ∨ p = Point.ofChar '/' then some p
  else if p = Point.ofChar 'b' then some 0x08
  else if p = Point.ofChar 'f' then some 0x0C
  else if p = Point.ofChar 'n' then some Point.lineFeed
  else if p = Point.ofChar 'r' then some Point.carriageReturn
  else if p = Point.ofChar 't' then some (Point.ofChar '\t')
  else none

/-- The number of four hexadecimal digits. -/
def codeOf? (a b c d : Point) : Option Nat :=
  if [a, b, c, d].all Point.isHexDigit then
    some (Numeral.ofDigits 16 ([a, b, c, d].map fun p => p.digit?.getD 0))
  else none

/-- Puts a point before what was read. -/
def consRead (p : Point) (r : Except ReadError (Text × Text)) : Except ReadError (Text × Text) :=
  r.map fun (s, rest) => (p :: s, rest)

/-- Reads the string whose opening quote has been read; `start` points were left at that quote. -/
def readString (start : Nat) : Text → Except ReadError (Text × Text)
  | [] => .error (.malformed .unterminatedString start)
  | p :: s =>
    if p = Point.quotationMark then .ok ([], s)
    else if p = Point.backslash then
      match s with
      | [] => .error (.malformed .unterminatedString start)
      | e :: t =>
        if e = Point.ofChar 'u' then
          match t with
          | a :: b :: c :: d :: t =>
            match (if t.isEmpty then none else codeOf? a b c d) with
            | none => .error (.malformed .badCodeEscape (t.length + 5))
            | some code =>
              match t with
              | x :: y :: a :: b :: c :: d :: u =>
                if (Point.ofNat code).isHighSurrogate ∧ !u.isEmpty ∧ x = Point.backslash ∧
                    y = Point.ofChar 'u' then
                  match codeOf? a b c d with
                  | none => .error (.malformed .badCodeEscape (u.length + 5))
                  | some low =>
                    if (Point.ofNat low).isLowSurrogate then
                      consRead (Point.ofNat (0x10000 + (code - 0xD800) * 0x400 + (low - 0xDC00)))
                        (readString start u)
                    else
                      consRead (Point.ofNat code)
                        (readString start (x :: y :: a :: b :: c :: d :: u))
                else
                  consRead (Point.ofNat code) (readString start (x :: y :: a :: b :: c :: d :: u))
              | t => consRead (Point.ofNat code) (readString start t)
          | t => .error (.malformed .badCodeEscape (t.length + 1))
        else
          match simpleEscape? e with
          | some q => consRead q (readString start t)
          | none => .error (.malformed .badEscape (t.length + 2))
    else if p.val < 0x20 then .error (.malformed .controlCharacter (s.length + 1))
    else consRead p (readString start s)

/-- The digits at the beginning, and what follows them. -/
def spanDigits (s : Text) : Text × Text := (s.takeWhile Point.isDigit, s.dropWhile Point.isDigit)

/-- The digits of an integer part: a zero, or digits that do not begin with one. -/
def wholePart? (s : Text) : Option (Text × Text) :=
  match s with
  | [] => none
  | d :: t =>
    if d = Point.ofDigit 0 then some ([d], t)
    else if d.isDigit then some (spanDigits s)
    else none

/-- The digits after a point. -/
def fraction? : Text → Option (Text × Text)
  | p :: s =>
    if p = Point.ofChar '.' ∧ s.head?.any Point.isDigit then some (spanDigits s) else none
  | [] => none

/-- The exponent after its letter. -/
def exponent? : Text → Option (Int × Text)
  | p :: s =>
    if p = Point.ofChar 'e' ∨ p = Point.ofChar 'E' then
      let (negative, s) := Numeral.readSign s
      if s.head?.any Point.isDigit then
        let (ds, rest) := spanDigits s
        let n := Numeral.ofDigits 10 (ds.map fun p => p.digit?.getD 0)
        some (if negative then -(n : Int) else n, rest)
      else none
    else none
  | [] => none

/-- A number without its sign. -/
def readNumber (negative : Bool) (s : Text) : Option (Except ReadError Value × Text) := do
  let (whole, rest) ← wholePart? s
  let part := fraction? rest
  let rest := (part.map (·.2)).getD rest
  let power := exponent? rest
  let rest := (power.map (·.2)).getD rest
  let partDigits := (part.map (·.1)).getD []
  let digits := (whole ++ partDigits).map fun p => p.digit?.getD 0
  let n := Numeral.ofDigits 10 digits
  if part.isNone && power.isNone then
    if Numeral.maxDigits < whole.length then some (.error (.numeralTooLong whole.length), rest)
    else some (.ok (.int (if negative then -(n : Int) else n)), rest)
  else
    let exponent := (power.map (·.1)).getD 0 - partDigits.length
    some (.ok (.float (.ofDecimal negative n exponent)), rest)

/-- The words that stand for values. -/
def words : List (String × Value) := [
    ("null", .null), ("true", .bool true), ("false", .bool false), ("NaN", .float .nan),
    ("Infinity", .float (.infinite false)), ("-Infinity", .float (.infinite true))]

/-- A word or a number. -/
def readAtom (s : Text) : Except ReadError (Value × Text) :=
  match words.findSome? fun (w, v) => (Text.after? w s).map fun rest => (v, rest) with
  | some r => .ok r
  | none =>
    let number :=
      match s with
      | p :: t => if p = Point.ofChar '-' then readNumber true t else readNumber false s
      | [] => none
    match number with
    | some (.ok v, rest) => .ok (v, rest)
    | some (.error e, _) => .error e
    | none => fail .noValue s

/-! ## Values -/

/-- How deep arrays and objects may stand inside of each other. -/
def deepest : Nat := 988

mutual

/-- Reads a value inside of `depth` others; `fuel` bounds the number of the parts. -/
def readValue (depth : Nat) : Nat → Text → Except ReadError (Value × Text)
  | 0, s => fail .noValue s
  | fuel + 1, s =>
    match s with
    | [] => fail .noValue s
    | p :: t =>
      if p = Point.quotationMark then (readString s.length t).map fun (w, rest) => (.text w, rest)
      else if p = Point.openBrace then
        if deepest ≤ depth then .error (.tooDeep false)
        else
          match skipSpaces t with
          | q :: u =>
            if q = Point.closeBrace then .ok (.map [], u)
            else (readFields (depth + 1) fuel [] (q :: u)).map fun (es, rest) => (.map es, rest)
          | [] => fail .noPropertyName []
      else if p = Point.ofChar '[' then
        if deepest ≤ depth then .error (.tooDeep true)
        else
          match skipSpaces t with
          | q :: u =>
            if q = Point.ofChar ']' then .ok (.list [], u)
            else (readItems (depth + 1) fuel (q :: u)).map fun (vs, rest) => (.list vs, rest)
          | [] => fail .noValue []
      else readAtom s
termination_by structural fuel => fuel

/-- Reads the items of an array from the first one to the closing bracket. -/
def readItems (depth : Nat) : Nat → Text → Except ReadError (List Value × Text)
  | 0, s => fail .noValue s
  | fuel + 1, s => do
    let (v, rest) ← readValue depth fuel s
    match skipSpaces rest with
    | [] => fail .noComma []
    | p :: t =>
      if p = Point.ofChar ']' then return ([v], t)
      else if p = Point.ofChar ',' then
        let (vs, rest) ← readItems depth fuel (skipSpaces t)
        return (v :: vs, rest)
      else fail .noComma (p :: t)
termination_by structural fuel => fuel

/-- Reads the fields of an object from the first name to the closing brace, and puts them over
those that it has. -/
def readFields (depth : Nat) : Nat → Entries → Text → Except ReadError (Entries × Text)
  | 0, _, s => fail .noValue s
  | fuel + 1, es, s =>
    match s with
    | [] => fail .noPropertyName s
    | p :: t =>
      if p = Point.quotationMark then do
        let (name, rest) ← readString s.length t
        match skipSpaces rest with
        | [] => fail .noColon []
        | q :: u =>
          if q = Point.ofChar ':' then
            let (v, rest) ← readValue depth fuel (skipSpaces u)
            let es := es.put (.text name) v
            match skipSpaces rest with
            | [] => fail .noComma []
            | q :: u =>
              if q = Point.closeBrace then return (es, u)
              else if q = Point.ofChar ',' then readFields depth fuel es (skipSpaces u)
              else fail .noComma (q :: u)
          else fail .noColon (q :: u)
      else fail .noPropertyName s
termination_by structural fuel => fuel

end

/-- The value of a text. -/
def read (s : Text) : Except ReadError Value :=
  if s.head? = some Point.byteOrderMark then fail .byteOrderMark s
  else do
    let (v, rest) ← readValue 0 (2 * s.length + 2) (skipSpaces s)
    let rest := skipSpaces rest
    if rest.isEmpty then return v else fail .extraData rest

end HiveScript.Json
