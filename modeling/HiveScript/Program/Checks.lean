import HiveScript.Batch.Source

/-!
# Checks of settings

Settings that contradict each other or that name what is not there end the run with a message.

* `Settings.namedInputs`: the inputs as texts.
* `Run.checkSettings`: the settings with these, once all checks are passed.
-/

namespace HiveScript

/-- The texts of values. -/
def displayAll (vs : List Value) : Except Failure (List Text) :=
  vs.mapM fun v =>
    match v.display? with
    | some s => .ok s
    | none => .error .numeralNotWritten

/-- The inputs that settings name; without any, the standard input. -/
def Settings.namedInputs (s : Settings) : Except Failure (List Text) := do
  let v := s.get "inputs"
  let names ←
    match v with
    | .text name => pure (if name.isEmpty then [] else [name])
    | v => if v.isTrue then v.items >>= displayAll else pure []
  return if names.isEmpty then [Source.hyphenName] else names

namespace Run

/-- Ends with a message. -/
def exitWith (message : Text) : Run α := exit (.message message)

/-- What is at a path; nothing if it leads nowhere, for whatever reason. -/
def nodeAt (path : Text) : Run (Option Node) := do
  match checkPath path with
  | .error _ => return none
  | .ok () => return ((← get).disk.stat path).toOption

/-! ## Single checks -/

/-- An input must be a file that is there. -/
def checkInput (name : Text) : Run Unit := do
  if name ≠ Source.hyphenName then
    match ← nodeAt name with
    | none => exitWith ("input file not found: " ++ name)
    | some .directory => exitWith ("input is a directory: " ++ name)
    | some (.file _) => pure ()

/-- The inputs must be there, and the standard input is given at most once. -/
def checkInputs (inputs : List Text) : Run Unit := do
  if 1 < inputs.count Source.hyphenName then exitWith "stdin ('-') can only be given once"
  inputs.forM checkInput

/-- The directory for scripts must not be a file. -/
def checkDirectory (directory : Value) : Run Unit := do
  let name ← display directory
  match ← nodeAt name with
  | some (.file _) => exitWith ("--output-dir is not a directory: " ++ name)
  | _ => pure ()

/-- Scripts go to one file or to a directory, and only one script fits into a file. -/
def checkOutput (s : Settings) (inputs : List Text) : Run Unit := do
  let file := (s.get "output").isPresent
  let directory := (s.get "output_dir").isPresent
  if file && directory then exitWith "--output and --output-dir are mutually exclusive"
  if file && decide (1 < inputs.length) then
    exitWith "--output takes a single input; use --output-dir for several"
  if directory && inputs.contains Source.hyphenName && decide (1 < inputs.length) then
    exitWith "stdin cannot be mixed with files when using --output-dir"
  if directory then checkDirectory (s.get "output_dir")

/-- A header has no line ends. -/
def checkHeader (s : Settings) : Run Unit := do
  let header := s.get "header"
  if header.isPresent then
    let text ← display header
    if text.contains Point.lineFeed || text.contains Point.carriageReturn then
      exitWith "--header must be a single line"

/-! ## All checks -/

/-- The settings with the inputs as texts, once all checks are passed. -/
def checkSettings (s : Settings) : Run Settings := do
  let inputs ← ofExcept s.namedInputs
  checkInputs inputs
  checkOutput s inputs
  checkHeader s
  return s.put "inputs" (.texts inputs)

end Run

end HiveScript
