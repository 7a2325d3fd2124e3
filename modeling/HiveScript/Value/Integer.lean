import HiveScript.Fault.Failure
import HiveScript.Value.Basic

/-!
# Integers of values

The integer that a value stands for: a number without its fraction, or a decimal numeral.
-/

namespace HiveScript.Value

def toInt : Value → Except Failure Int
  | bool b => .ok (Scalar.ofBool b)
  | int i => .ok i
  | float x =>
    match x.truncate? with
    | some i => .ok i
    | none => .error (if x = .nan then .undefinedInteger else .infiniteInteger)
  | text s =>
    match Numeral.read 10 s with
    | .ok i => .ok i
    | .error .malformed => .error (.malformedNumeral 10 s)
    | .error (.tooLong digits) => .error (.numeralTooLong digits)
  | v => .error (.notInteger v.typeName)

/-- The value with one added, for counting. -/
def successor : Value → Except Failure Value
  | bool b => .ok (int (Scalar.ofBool b + 1))
  | int i => .ok (int (i + 1))
  | float x => .ok (float (x.add (.ofInt 1)))
  | v@(text _) => .error (.notConcatenable v.typeName "int")
  | v@(list _) => .error (.notConcatenable v.typeName "int")
  | v => .error (.notAddable v.typeName "int")

end HiveScript.Value
