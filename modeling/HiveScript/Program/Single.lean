import HiveScript.Batch.Source
import HiveScript.Run.Conversion
import HiveScript.Script.Layout

/-!
# Converting one file

A small program on top of conversions: it reads one export and writes one script, with line ends and
a mark as the oldest readers of scripts want them.

* `Run.convertFile`: converts one file, and tells what came of it.
* `Run.single`: the whole program with a command line.
-/

namespace HiveScript

/-- What the small program tells about itself. -/
def singleUsage : List String := [
    "",
    "Example: converting a registry export with the reg2ps library.",
    "",
    "This example demonstrates:",
    "- Reading a regedit export (UTF-16 or ANSI)",
    "- Converting it without raising, via try_convert()",
    "- Writing a .ps1 file with the generator header",
    "",
    "Usage:",
    "    python library_convert.py /path/to/tweaks.reg /path/to/tweaks.ps1",
    ""]

namespace Run

/-- Tells something, with its level in front. -/
def tell (level : Level) (message : Text) : Run Unit :=
  printMessage (level.name ++ " - " ++ message)

/-- Converts one file; the answer is whether its text could be converted. -/
def convertFile (source target : Path) : Run Bool := do
  let result ← ofExcept (tryConvert (← readExport source))
  match result.fault with
  | some f =>
    let line ← display f.line
    tell Level.error
      (source.text ++ ": " ++ f.kind.className ++ " on line " ++ line ++ ": " ++ f.message)
    return false
  | none =>
    let script := Script.layout (some Script.defaultHeader) "\r\n" (result.script.getD [])
    writeAtomically target (Script.encode true script)
    tell Level.info
      ("Wrote " ++ target.text ++ " (" ++ Numeral.decimal result.keys ++ " keys, " ++
        Numeral.decimal result.values ++ " values)")
    return true

/-- The small program, which always ends with a status. -/
def single (arguments : List Text) : Run Unit := do
  match arguments with
  | [source, target] =>
    let converted ← convertFile (.ofText source) (.ofText target)
    exit (.code (if converted then 0 else 2))
  | _ =>
    print (singleUsage.flatMap fun l => Text.ofString l ++ [Point.lineFeed])
    exit (.code 1)

end Run

end HiveScript
