import HiveScript.Binary64.Shortest
import HiveScript.Text.Quoted
import HiveScript.Value.Basic

/-!
# Texts of values

How values appear in messages: texts as they are at the top, quoted inside of other values.

* `Value.display?`: the text of a value, if its integers can be written.
* `Value.inspect?`: the same with quotes around texts.
-/

namespace HiveScript

/-- The decimal numeral of an integer, if it is not too long. -/
def Numeral.ofInt? (i : Int) : Option Text :=
  if i.natAbs < limit then some (Numeral.ofInt i) else none

namespace Scalar

def inspect? : Scalar → Option Text
  | null => some "None"
  | bool b => some (if b then "True" else "False")
  | int i => Numeral.ofInt? i
  | float x => some x.text
  | text s => some s.quoted
  | date d => some d.inspect
  | dateTime t => some t.inspect

def display? : Scalar → Option Text
  | text s => some s
  | date d => some d.text
  | dateTime t => some t.text
  | s => s.inspect?

end Scalar

namespace Value

mutual

/-- The text of a value inside of other values. -/
def inspect? : Value → Option Text
  | scalar s => s.inspect?
  | list items => do return "[" ++ Text.join ", " (← inspectItems items) ++ "]"
  | map entries => do return "\x7b" ++ Text.join ", " (← inspectEntries entries) ++ "\x7d"

def inspectItems : List Value → Option (List Text)
  | [] => some []
  | v :: vs => do return (← inspect? v) :: (← inspectItems vs)

def inspectEntries : List (Scalar × Value) → Option (List Text)
  | [] => some []
  | (k, v) :: es => do
    return ((← k.inspect?) ++ ": " ++ (← inspect? v)) :: (← inspectEntries es)

end

/-- The text of a value. -/
def display? : Value → Option Text
  | scalar s => s.display?
  | v => v.inspect?

end Value

end HiveScript
