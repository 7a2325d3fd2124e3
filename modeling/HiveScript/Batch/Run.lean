import HiveScript.Batch.Outcome
import HiveScript.Batch.Targets
import HiveScript.Run.Conversion

/-!
# Running a batch

The targets are planned and checked before anything is written. Then each source is read, converted
and written or printed; a text that cannot be converted does not keep the others from it.

* `Settings.header`, `Settings.newline`: how scripts are to look.
* `Run.convertSource`: one source.
* `Run.batch`: all of them, with the status to exit with.
-/

namespace HiveScript

namespace Settings

/-- The header that scripts are to have, null for none. -/
def header (s : Settings) : Value :=
  if s.has "no_header" then .null
  else if s.has "header" then s.get "header"
  else .text Script.defaultHeader

/-- The header as a text. -/
def headerText (s : Settings) : Except Failure (Option Text) :=
  match s.header with
  | .null => .ok none
  | .text h => .ok (some h)
  | v => .error (.noMember v.typeName "startswith")

/-- The line end of scripts in files. -/
def newline (s : Settings) : Text := if s.has "crlf" then "\r\n" else "\n"

/-- The results are reported, and scripts not printed. -/
def reports (s : Settings) : Bool := s.has "json"

end Settings

namespace Run

/-! ## Scripts -/

/-- Ends with a message when there is something at a path that may not be replaced. -/
def checkTarget (s : Settings) (target : Path) : Run Unit := do
  if !s.has "force" then
    if ← pathExists target.text then
      die ("Output exists (use --force to overwrite): " ++ target.text)

/-- Writes a script to a file. -/
def writeScript (s : Settings) (target : Path) (script : Text) : Run Unit := do
  checkTarget s target
  let header ← ofExcept s.headerText
  let octets := Script.encode (s.has "bom") (Script.layout header s.newline script)
  dieOnRefusal ("Cannot write " ++ target.text) (writeAtomically target octets)

/-- Prints a script. -/
def printScript (s : Settings) (script : Text) : Run Unit := do
  let header ← if s.has "stdout_header" then ofExcept s.headerText else pure none
  print (Script.layout header [Point.lineFeed] script)

/-! ## Sources -/

/-- Tells that a text was not converted. -/
def tellFault (source : Source) (f : Fault) : Run Unit := do
  let f := f.withContext [("file", source.toValue)]
  fail (← ofOption .numeralNotWritten f.userMessage?) [("kind", .text f.kind.className)]

/-- Converts a source, and writes or prints its script. -/
def convertSource (s : Settings) (source : Source) (target : Option Path) : Run Outcome := do
  let name ← sourceName source
  let result ← step [("file", source.toValue)] ("Converting " ++ name) do
    convert (← readSource source)
  match result.fault with
  | some f =>
    tellFault source f
    return ⟨source, result, none⟩
  | none =>
    let script := result.script.getD []
    match target with
    | some target =>
      writeScript s target script
      ok ("Wrote " ++ target.text)
        [("keys", .nat result.keys), ("values", .nat result.values)]
    | none => if !s.reports then printScript s script
    return ⟨source, result, target⟩

/-! ## Batches -/

/-- What a batch came to: the outcomes, and the status to exit with or why it ended early. -/
structure BatchEnding where
  outcomes : List Outcome
  status : Except Stop Nat

/-- Goes on with what an action ends in. -/
def attempt (r : Run α) : Run (Except Stop α) :=
  tryCatch (do return .ok (← r)) fun stop => return .error stop

/-- Converts sources one after the other, as long as none of them ends the batch. -/
def convertAll (s : Settings) : List (Source × Option Path) →
    Run (List Outcome × Except Stop Unit)
  | [] => return ([], .ok ())
  | (source, target) :: rest => do
    match ← attempt (convertSource s source target) with
    | .error stop => return ([], .error stop)
    | .ok o =>
      let (os, e) ← convertAll s rest
      return (o :: os, e)

/-- The sources with their targets, once these are known to be free. -/
def prepareBatch (s : Settings) : Run (List (Source × Option Path)) := do
  heading toolName
  let targets ← planTargets s
  targets.forM fun target =>
    match target with
    | some target => checkTarget s target
    | none => pure ()
  return (← ofExcept s.sources).zip targets

/-- The word for sources. -/
def sourceWord : Text := "input"

/-- Tells what a batch came to, and with which status to exit. -/
def concludeBatch (s : Settings) (os : List Outcome) : Run Nat := do
  if s.reports then
    print ((← ofExcept (Json.report (Outcome.report os))) ++ [Point.lineFeed])
  let failed := (Outcome.failed os).length
  if failed ≠ 0 then
    log Level.warning batchRecordSource
      ⟨"%s of %s failed", [.text (counted failed sourceWord), .nat os.length]⟩ []
    return 2
  else
    log Level.info batchRecordSource
      ⟨"Converted %s", [.text (counted os.length sourceWord)]⟩ []
    return 0

/-- Runs a batch. -/
def batch (s : Settings) : Run BatchEnding := do
  match ← attempt (prepareBatch s) with
  | .error stop => return ⟨[], .error stop⟩
  | .ok pairs =>
    match ← convertAll s pairs with
    | (os, .error stop) => return ⟨os, .error stop⟩
    | (os, .ok ()) => return ⟨os, ← attempt (concludeBatch s os)⟩

end Run

end HiveScript
