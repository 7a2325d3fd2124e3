import HiveScript.Yaml.Timestamp

/-!
# Kinds of nodes

What kind of value a scalar stands for. A plain scalar tells its kind by its form: truth
values, null, integers in four bases and in base sixty, fractions, and dates, by YAML 1.1.

* `Yaml.Tag`: the kinds.
* `Yaml.Tag.ofPlain`: the kind of a plain scalar.
-/

namespace HiveScript.Yaml

/-! ## Kinds -/

/-- The kind of a node. -/
inductive Tag where
  | null
  | bool
  | int
  | float
  | timestamp
  | text
  | sequence
  | mapping
  /-- As a key, its value is merged into the mapping. -/
  | merge
  /-- As a key, a text; elsewhere nothing. -/
  | default_
  /-- A kind of which nothing is known. -/
  | unknown (address : Text)
  deriving DecidableEq

namespace Tag

/-- The first part of the addresses of the kinds that are known. -/
def standard : Text := "tag:yaml.org,2002:"

/-- The last parts of these addresses. -/
def names : List (String × Tag) := [
    ("null", null), ("bool", bool), ("int", int), ("float", float), ("timestamp", timestamp),
    ("str", text), ("seq", sequence), ("map", mapping), ("merge", merge), ("value", default_)]

def ofAddress (s : Text) : Tag :=
  match names.find? fun n => s = standard ++ Text.ofString n.1 with
  | some n => n.2
  | none => unknown s

def address : Tag → Text
  | unknown s => s
  | t =>
    match names.find? fun n => n.2 = t with
    | some n => standard ++ Text.ofString n.1
    | none => []

end Tag

/-! ## Words -/

/-- The words that stand for truth values, in small letters. -/
def truthWords : List (String × Bool) :=
  [("yes", true), ("true", true), ("on", true), ("no", false), ("false", false), ("off", false)]

def nullWords : List String := ["~", "null", "Null", "NULL", ""]

def infinityWords : List String := [".inf", ".Inf", ".INF"]

def nanWords : List String := [".nan", ".NaN", ".NAN"]

def isWord (words : List String) (s : Text) : Bool := words.any fun w => s = Text.ofString w

/-- The text in capital letters, for letters of ASCII. -/
def capitals (s : Text) : Text :=
  s.map fun p => if 0x61 ≤ p.val ∧ p.val ≤ 0x7A then Point.ofNat (p.val - 0x20) else p

/-- The three spellings of a word: in small letters, with a capital letter, and in capitals. -/
def spellings (w : Text) : List Text := [w, capitals (w.take 1) ++ w.drop 1, capitals w]

def isTruthWord (s : Text) : Bool := truthWords.any fun w => (spellings w.1).contains s

/-! ## Forms of numbers -/

def isDigitOrLow (p : Point) : Bool := p.isDigit || p = Point.ofChar '_'

/-- Digits and low lines that begin with a digit. -/
def isDigits (s : Text) : Bool := s.head?.any Point.isDigit && s.all isDigitOrLow

/-- One or two digits below sixty. -/
def isSixtieth (s : Text) : Bool :=
  match s with
  | [a] => a.isDigit
  | [a, b] => Ranges.has [(0x30, 0x35)] a && b.isDigit
  | _ => false

/-- At least one point, each of a class or a low line. -/
def isRunOf (cls : Point → Bool) (s : Text) : Bool :=
  !s.isEmpty && s.all fun p => cls p || p = Point.ofChar '_'

/-- The form of an integer without its sign. -/
def isInteger (s : Text) : Bool :=
  match Text.after? "0b" s, Text.after? "0x" s, Text.after? "0" s with
  | some t, _, _ => isRunOf (Ranges.has [(0x30, 0x31)]) t
  | _, some t, _ => isRunOf Point.isHexDigit t
  | _, _, some t => t.isEmpty || isRunOf (Ranges.has [(0x30, 0x37)]) t
  | none, none, none =>
    match parts s with
    | whole :: more => isDigits whole && more.all isSixtieth
    | [] => false

/-- The form of an exponent, which has a sign. -/
def isExponent (s : Text) : Bool :=
  match s with
  | e :: sign :: ds =>
    (e = Point.ofChar 'e' || e = Point.ofChar 'E') &&
      (sign = Point.ofChar '-' || sign = Point.ofChar '+') && !ds.isEmpty && ds.all Point.isDigit
  | _ => false

/-- The form of a fraction without its sign; `bare` says that it has none. -/
def isFraction (bare : Bool) (s : Text) : Bool :=
  match Text.cut? (Point.ofChar '.') s with
  | none => false
  | some (before, after) =>
    let power := after.dropWhile isDigitOrLow
    match parts before with
    | [whole] =>
      (isDigits whole || whole.isEmpty && bare && after.head?.any Point.isDigit) &&
        (power.isEmpty || isExponent power)
    | whole :: more => isDigits whole && more.all isSixtieth && power.isEmpty
    | [] => false

/-- The form of a number that is no integer. -/
def isFloat (s : Text) : Bool :=
  let (_, t) := Numeral.readSign s
  isFraction (t.length = s.length) t || isWord infinityWords t || isWord nanWords s

/-! ## The kind of a plain scalar -/

/-- The kind of a plain scalar. -/
def Tag.ofPlain (s : Text) : Tag :=
  if isTruthWord s then .bool
  else if isFloat s then .float
  else if isInteger (Numeral.readSign s).2 then .int
  else if s = "<<" then .merge
  else if isWord nullWords s then .null
  else if isMoment s then .timestamp
  else if s = "=" then .default_
  else .text

end HiveScript.Yaml
