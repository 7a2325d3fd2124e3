import HiveScript.Configuration.Document
import HiveScript.Configuration.Merging
import HiveScript.Log.Setup

/-!
# Configuration files

A directory stands for the files of configurations in it, in the order of their names.

* `Run.expandConfigurations`: the files that arguments stand for.
* `Run.loadConfiguration`: the entries of one file.
* `Run.mergedConfiguration`: those of all files, merged in order.
-/

namespace HiveScript

namespace Configuration

/-- The source of the records that are made here. -/
def recordSource : Text := "config_loader"

end Configuration

namespace Run

open HiveScript.Configuration

/-- The path leads to a file, and its name is that of a configuration. -/
def isConfiguration (path : Path) : Run Bool := do
  match ← find? path.text with
  | some (.file _) => return (formOf? path.extension).isSome
  | _ => return false

/-- The files of configurations in a directory, in the order of their names. Everything in it is
looked at, whatever it is called. -/
def configurationsIn (path : Path) : Run (List Path) := do
  let d := (← get).disk
  let place ← refuse path.text none (d.locate path.text)
  let names ← (d.namesIn place).filterM fun name => isConfiguration (path.child name)
  return (names.mergeSort Text.le).map path.child

/-- The files that an argument stands for. -/
def expandConfiguration (argument : Value) : Run (List Path) := do
  let path ← pathOf argument
  match ← find? path.text with
  | some .directory =>
    let files ← configurationsIn path
    if files.isEmpty then
      log Level.warning recordSource
        ⟨"Config directory has no config files: %s", [.text path.text]⟩ []
    return files
  | some (.file _) => return [path]
  | none => die ("Config file not found: " ++ path.text)

/-- The files that arguments stand for. -/
def expandConfigurations (arguments : List Value) : Run (List Path) := do
  return (← arguments.mapM expandConfiguration).flatten

/-- The octets of a file, or why it cannot be read. -/
def readConfiguration (path : Path) : Run (Except Text Bytes) :=
  tryCatch (do return .ok (← readFile path.text)) fun stop =>
    match stop with
    | .failure f => return .error f.message
    | _ => throw stop

/-- A file is no configuration. -/
def refuseConfiguration (path : Path) (message : Text) : Run α :=
  die ("Failed to load config " ++ path.text ++ ": " ++ message)

/-- The entries of a file. -/
def loadConfiguration (path : Path) : Run Entries := do
  match ← readConfiguration path with
  | .error message => refuseConfiguration path message
  | .ok octets =>
    match parse ((formOf? path.extension).getD .either) octets with
    | .error p =>
      match p.unexpected? with
      | some f => throw (.failure f)
      | none => refuseConfiguration path p.message
    | .ok es =>
      log Level.debug recordSource
        ⟨"Loaded config %s (%d keys)", [.text path.text, .nat es.length]⟩ []
      ofExcept es.withPlainKeys

/-- The entries of files, later ones over earlier ones. -/
def loadConfigurations (paths : List Path) : Run Entries := do
  paths.foldlM (fun merged path => do return merged.merge (← loadConfiguration path)) []

/-- The entries of the files that arguments stand for. -/
def mergedConfiguration (arguments : List Value) : Run Entries := do
  loadConfigurations (← expandConfigurations arguments)

end Run

end HiveScript
