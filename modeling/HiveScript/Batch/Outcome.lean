import HiveScript.Batch.Source
import HiveScript.Conversion.Result
import HiveScript.Json.Printer

/-!
# Outcomes

What a batch came to: one outcome for each source, and a report of all of them.

* `Outcome`, `Outcome.fields`.
* `Outcome.report`: the report of a batch.
-/

namespace HiveScript

/-- What one source of a batch came to. -/
structure Outcome where
  source : Source
  result : Result
  /-- The file that the script was written to. -/
  target : Option Path

namespace Outcome

/-- The fields of an outcome in a report, with the script if so wished. -/
def fields (withScript : Bool) (o : Outcome) : List (Text × Value) :=
  let target : List (Text × Value) :=
    match o.target with
    | some path => [("output", .text path.text)]
    | none => []
  let script : List (Text × Value) :=
    if withScript && o.result.isOk then [("script", .text (o.result.script.getD []))] else []
  ("input", o.source.toValue) :: (o.result.fields ++ target ++ script)

/-- The outcomes that failed. -/
def failed (os : List Outcome) : List Outcome := os.filter fun o => !o.result.isOk

/-- The report of a batch. It holds the scripts that were not written to files. -/
def report (os : List Outcome) : Value :=
  .object [
    ("ok", .bool (failed os).isEmpty),
    ("inputs", .list (os.map fun o => .object (o.fields o.target.isNone)))]

end Outcome

/-- A number of things. -/
def counted (n : Int) (word : Text) : Text :=
  Numeral.ofInt n ++ " " ++ word ++ (if n = 1 then [] else [Point.ofChar 's'])

end HiveScript
