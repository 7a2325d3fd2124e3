import HiveScript.Sorting.Basic
import HiveScript.Value.Display
import HiveScript.Value.Order

/-!
# Writing JSON

Values as JSON in two layouts. A *report* has one item on each line, sorted keys and ASCII alone; a
*line* has all on one line in the order of the value, and points beyond ASCII stand for themselves.

* `Json.report`: the report of a value.
* `Json.line`: the line of a value.
-/

namespace HiveScript.Json

/-! ## Strings -/

/-- The escape with the number of a unit of sixteen bits. -/
def codeEscape (n : Nat) : Text := "\\u" ++ Numeral.padded 16 4 n

/-- The escapes of a point, two of them for a point beyond the first plane. -/
def codeEscapes (p : Point) : Text :=
  if p.val < 0x10000 then codeEscape p.val
  else
    codeEscape (0xD800 + (p.val - 0x10000) / 0x400) ++
      codeEscape (0xDC00 + (p.val - 0x10000) % 0x400)

/-- A point inside of a string. -/
def stringPoint (ascii : Bool) (p : Point) : Text :=
  if p = Point.quotationMark ∨ p = Point.backslash then [Point.backslash, p]
  else if p = Point.lineFeed then "\\n"
  else if p = Point.carriageReturn then "\\r"
  else if p = Point.ofChar '\t' then "\\t"
  else if p.val = 0x08 then "\\b"
  else if p.val = 0x0C then "\\f"
  else if p.val < 0x20 ∨ ascii ∧ 0x7F ≤ p.val then codeEscapes p
  else [p]

def string (ascii : Bool) (s : Text) : Text :=
  [Point.quotationMark] ++ s.flatMap (stringPoint ascii) ++ [Point.quotationMark]

/-! ## Layouts -/

/-- How a value is laid out. -/
structure Layout where
  ascii : Bool
  sorted : Bool
  /-- The number of spaces by which items stand to the right of their brackets; without one, all
  is on one line. -/
  indent : Option Nat

def Layout.report : Layout := ⟨true, true, some 2⟩

def Layout.line : Layout := ⟨false, false, none⟩

namespace Layout

/-- The break before an item at some depth. -/
def breakAt (l : Layout) (depth : Nat) : Text :=
  match l.indent with
  | none => []
  | some n => Point.lineFeed :: List.replicate (n * depth) Point.space

/-- What stands between two items. -/
def separator (l : Layout) (depth : Nat) : Text :=
  match l.indent with
  | none => ", "
  | some _ => Point.ofChar ',' :: l.breakAt depth

/-- Items between brackets. -/
def enclose (l : Layout) (depth : Nat) (opening closing : Point) (items : List Text) : Text :=
  if items.isEmpty then [opening, closing]
  else
    [opening] ++ l.breakAt (depth + 1) ++ Text.join (l.separator (depth + 1)) items ++
      l.breakAt depth ++ [closing]

end Layout

/-! ## Values -/

/-- The numeral of an integer, if it is not too long. -/
def integer (i : Int) : Except Failure Text :=
  match Numeral.ofInt? i with
  | some t => .ok t
  | none => .error .numeralNotWritten

def number (x : Binary64) : Text := x.textWith "NaN" "Infinity"

/-- A scalar; dates are written as strings. -/
def scalar (ascii : Bool) : Scalar → Except Failure Text
  | .null => .ok "null"
  | .bool b => .ok (if b then "true" else "false")
  | .int i => integer i
  | .float x => .ok (number x)
  | .text s => .ok (string ascii s)
  | .date d => .ok (string ascii d.text)
  | .dateTime t => .ok (string ascii t.text)

/-- The string of a key. Dates are no keys. -/
def key (ascii : Bool) (k : Scalar) : Except Failure Text :=
  match k with
  | .text s => .ok (string ascii s)
  | .date _ | .dateTime _ => .error (.unfitKey (Value.scalar k).shortTypeName)
  | k => do return string ascii (← scalar ascii k)

/-- Fields in the order in which they are written. -/
def order (l : Layout) (fields : List (Scalar × β)) : Except Failure (List (Scalar × β)) :=
  if l.sorted then sortBy (fun a b => a.1.less b.1) fields else .ok fields

mutual

/-- A value inside of others, at some depth. Fields are ordered before any is written. -/
def write (l : Layout) (depth : Nat) : Value → Except Failure Text
  | .scalar s => scalar l.ascii s
  | .list items => do
    return l.enclose depth (Point.ofChar '[') (Point.ofChar ']') (← writeItems l (depth + 1) items)
  | .map entries => do
    let fields ← order l (writeFields l (depth + 1) entries)
    return l.enclose depth Point.openBrace Point.closeBrace (← fields.mapM (·.2))

def writeItems (l : Layout) (depth : Nat) : List Value → Except Failure (List Text)
  | [] => .ok []
  | v :: vs => do return (← write l depth v) :: (← writeItems l depth vs)

/-- The fields of an object under their keys. -/
def writeFields (l : Layout) (depth : Nat) :
    List (Scalar × Value) → List (Scalar × Except Failure Text)
  | [] => []
  | (k, v) :: es =>
    (k, do return (← key l.ascii k) ++ ": " ++ (← write l depth v)) :: writeFields l depth es

end

/-- The report of a value. -/
def report (v : Value) : Except Failure Text := write .report 0 v

/-- The line of a value. -/
def line (v : Value) : Except Failure Text := write .line 0 v

end HiveScript.Json
