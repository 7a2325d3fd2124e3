import HiveScript.Conversion.Basic
import HiveScript.Fault.Basic

/-!
# Results of conversions

What a conversion came to, for those who report it: the script or the fault, and how many keys and
values the script has. Lines of a script are counted by the words they begin with.
-/

namespace HiveScript

/-- The outcome of one conversion. -/
structure Result where
  script : Option Text
  fault : Option Fault

namespace Result

def isOk (r : Result) : Bool := r.fault.isNone

def message (r : Result) : Text := (r.fault.map (·.message)).getD []

/-- The broken lines of the script that begin with some words. -/
def count (lead : Text) (r : Result) : Nat :=
  ((r.script.getD []).brokenLines.filter (Text.beginsWith lead)).length

def keys (r : Result) : Nat := r.count "New-Item "

def values (r : Result) : Nat := r.count "Set-ItemProperty "

/-- The fields of a report. -/
def fields (r : Result) : List (Text × Value) :=
  match r.fault with
  | some f =>
    [("ok", .bool false), ("error", .text f.kind.className), ("line", f.line),
      ("message", .text f.message)]
  | none => [("ok", .bool true), ("keys", .nat r.keys), ("values", .nat r.values)]

end Result

/-- The result of converting a text. Only a number that cannot be written is a failure. -/
def tryConvert (s : Text) : Except Failure Result :=
  match convert s with
  | .ok script => .ok ⟨some script, none⟩
  | .error (.rejected r) => .ok ⟨none, some (.ofRejection r)⟩
  | .error .numeralTooLong => .error .numeralNotWritten

end HiveScript
