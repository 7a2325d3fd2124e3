import HiveScript.Fault.Failure
import HiveScript.Value.Display

/-!
# Merging of configurations

Of two configurations the later one wins, and mappings in the same place are merged key by key.

* `Entries.merge`: one mapping over another.
* `Entries.withPlainKeys`: the keys at the top as settings name them.
-/

namespace HiveScript.Entries

mutual

/-- The entries of `later` put over those of `base`. -/
def merge (base : Entries) : Entries → Entries
  | [] => base
  | (k, v) :: later => merge (put k (mergeValue (find? k base) v) base) later

/-- A value put over what was there. -/
def mergeValue (old : Option Value) : Value → Value
  | .map later =>
    match old with
    | some (.map base) => .map (merge base later)
    | _ => .map later
  | v => v

end

/-- The name of a setting that a key stands for: its text, with low lines for hyphens. -/
def plainKey (k : Scalar) : Except Failure Text :=
  match k.display? with
  | some s => .ok (s.replacePoint (Point.ofChar '-') [Point.ofChar '_'])
  | none => .error .numeralNotWritten

/-- The entries under the names of settings; of several for one name the last wins. -/
def withPlainKeys (es : Entries) : Except Failure Entries := do
  return ofList (← es.mapM fun (k, v) => do return (.text (← plainKey k), v))

end HiveScript.Entries
