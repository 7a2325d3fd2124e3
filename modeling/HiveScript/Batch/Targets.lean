import HiveScript.Batch.Source
import HiveScript.Script.Layout
import HiveScript.Text.Lowercase

/-!
# Targets

Where the script of each source goes: to the output, to one file, or to a directory. In a directory
a script has the name of its source; a name that is taken, in capital or small letters, gets a
number.

* `Targets.candidate`, `Targets.choose`: the names that a script may get, and the one it gets.
* `Run.planTargets`: the targets that settings ask for.
-/

namespace HiveScript

namespace Targets

/-- The extension of scripts. -/
def scriptExtension : Text := ".ps1"

/-- The `n`-th name that a script may get; the first one has no number. -/
def candidate (stem : Text) (n : Nat) : Text :=
  if n = 1 then stem ++ scriptExtension
  else stem ++ "-" ++ Numeral.decimal n ++ scriptExtension

/-- The number of the first candidate from the `n`-th on that is not taken. -/
def chooseFrom (taken : List Text) (stem : Text) : Nat → Nat → Nat
  | 0, n => n
  | fuel + 1, n =>
    if taken.contains (candidate stem n).lowercase then chooseFrom taken stem fuel (n + 1) else n

/-- The number of the first candidate that is not taken. -/
def choose (taken : List Text) (stem : Text) : Nat := chooseFrom taken stem taken.length 1

end Targets

namespace Run

/-- The source of the records that a batch makes. -/
def batchRecordSource : Text := "orchestrator"

/-- Puts scripts of sources into a directory, beside names that are taken. -/
def targetsIn (directory : Path) (taken : List Text) : List Source → Run (List (Option Path))
  | [] => return []
  | source :: sources => do
    let stem ← ofExcept source.stem
    let n := Targets.choose taken stem
    let name := Targets.candidate stem n
    if 1 < n then
      log Level.info batchRecordSource
        ⟨"Output name %s is taken, writing %s as %s",
          [.text (Targets.candidate stem 1), source.toValue, .text name]⟩ []
    return some (directory.child name) ::
      (← targetsIn directory (name.lowercase :: taken) sources)

/-- The targets of the sources in settings; those without one go to the output. -/
def planTargets (s : Settings) : Run (List (Option Path)) := do
  if s.has "output" then
    let sources ← ofExcept s.sources
    sources.mapM fun _ => do return some (← pathOf (s.get "output"))
  else if s.has "output_dir" then
    let directory ← pathOf (s.get "output_dir")
    targetsIn directory [] (← ofExcept s.sources)
  else do return (← ofExcept s.sources).map fun _ => none

end Run

end HiveScript
