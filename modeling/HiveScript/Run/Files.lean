import HiveScript.Run.World

/-!
# Files in runs

Looking at files and changing them, with the failures that this may end in, and the writing of a
file in one step by way of a temporary one.

* `Run.pathOf`: the path that a value is.
* `Run.pathExists`, `Run.readFile`, `Run.makeDirectories`.
* `Run.atomically`: gives a block a temporary file that takes the place of the target when the
  block succeeds.
* `Run.writeAtomically`: writes a file in one step.
-/

namespace HiveScript

/-- The path that a value is. -/
def Value.toPath : Value → Except Failure Path
  | .text s => .ok (.ofText s)
  | v => .error (.notPath v.shortTypeName)

namespace Run

/-- The path that a value is, with the home directory in place of a tilde. -/
def pathOf (v : Value) : Run Path := do
  let home := (← get).home
  ofExcept (v.toPath >>= Path.expandHome home)

/-- Goes on with what an operation on the disk yields, or ends with its refusal. -/
def refuse (path : Text) (goal : Option Text) (r : Except FileProblem α) : Run α :=
  match r with
  | .ok a => pure a
  | .error problem => throw (.failure (.file ⟨problem, path, goal⟩))

/-- Does one operation on the disk. -/
def onDisk (path : Text) (goal : Option Text) (op : Disk → Except FileProblem Disk) : Run Unit := do
  ofExcept (checkPath path)
  let w ← get
  let disk ← refuse path goal (op w.disk)
  set { w with disk }

/-! ## Looking -/

/-- What a written path leads to; nothing if that is because of what is not there. -/
def find? (path : Text) : Run (Option Node) := do
  match checkPath path with
  | .error _ => return none
  | .ok () =>
    match (← get).disk.stat path with
    | .ok n => return some n
    | .error .noEntry | .error .notDirectory => return none
    | .error problem => throw (.failure (.file ⟨problem, path, none⟩))

/-- Something is there. -/
def pathExists (path : Text) : Run Bool := do return (← find? path).isSome

/-- The octets of a file. -/
def readFile (path : Text) : Run Bytes := do
  ofExcept (checkPath path)
  refuse path none ((← get).disk.read path)

/-! ## Changing -/

/-- Makes a directory; one that is there already will do. -/
def makeLast (path : Path) : Run Unit :=
  tryCatch (onDisk path.text none fun d => d.makeDirectory path.text) fun stop =>
    match stop with
    | .failure (.file ⟨.noEntry, _, _⟩) => throw stop
    | .failure (.file _) => do
      if (← find? path.text) = some .directory then return () else throw stop
    | _ => throw stop

/-- Makes a directory and those above it that are not there. -/
def makeDirectoriesFor : Nat → Path → Run Unit
  | 0, path => makeLast path
  | fuel + 1, path =>
    tryCatch (makeLast path) fun stop =>
      match stop with
      | .failure (.file ⟨.noEntry, _, _⟩) =>
        if path.parent = path then throw stop
        else do
          makeDirectoriesFor fuel path.parent
          makeLast path
      | _ => throw stop

def makeDirectories (path : Path) : Run Unit := makeDirectoriesFor path.names.length path

/-- The letters in the name of the first temporary file, and digits for further ones. -/
def token : Nat → Text
  | 0 => List.replicate 8 (Point.ofChar 'X')
  | n + 1 => Numeral.padded 10 8 n

/-- The path of a temporary file. -/
def temporaryPath (directory : Text) (name last : Text) (n : Nat) : Text :=
  let lead := if directory.getLast? = some slash then [] else [slash]
  directory ++ lead ++ [dot] ++ name ++ [dot] ++ token n ++ last

/-- Creates an empty file under the first name that is free. -/
def createTemporaryFrom (directory name last : Text) : Nat → Nat → Run Text
  | 0, n => do
    let path := temporaryPath directory name last n
    onDisk path none fun d => d.create path
    return path
  | fuel + 1, n =>
    let path := temporaryPath directory name last n
    tryCatch (do
      onDisk path none fun d => d.create path
      return path) fun stop =>
      match stop with
      | .failure (.file ⟨.alreadyThere, _, _⟩) =>
        createTemporaryFrom directory name last fuel (n + 1)
      | _ => throw stop

/-- Creates an empty file in a directory, whose path is written from the root. -/
def createTemporary (directory : Path) (name last : Text) : Run Text := do
  let d := (← get).disk
  createTemporaryFrom (d.absolute directory.text).text name last d.nodes.length 0

/-- Takes a file away; nothing happens if it is not there. -/
def removeIfThere (path : Text) : Run Unit :=
  tryCatch (onDisk path none fun d => d.remove path) fun stop =>
    match stop with
    | .failure (.file ⟨.noEntry, _, _⟩) => pure ()
    | _ => throw stop

/-- The sinks of the log lose a file that is replaced. -/
def Sink.detach (place : Place) (s : Sink) : Sink :=
  match s.target with
  | .file p _ => if p = place then { s with target := .file p false } else s
  | .console _ => s

/-- Gives a file another path, over the file that is there. -/
def replace (source target : Text) : Run Unit := do
  ofExcept (checkPath target)
  onDisk source (some target) fun d => d.rename source target
  let w ← get
  match w.disk.locate target with
  | .ok place => set { w with log := { w.log with sinks := w.log.sinks.map (Sink.detach place) } }
  | .error _ => pure ()

/-- The end of the names of temporary files. -/
def temporaryEnd : Text := ".part"

/-- Gives `body` a temporary file. When it succeeds the file takes the place of the target; when
it does not, the file is taken away if `clean` says so. -/
def atomically (target : Path) (last : Text) (directory : Option Path) (clean : Bool)
    (body : Text → Run Unit) : Run Unit := do
  let directory := directory.getD target.parent
  makeDirectories directory
  let temporary ← createTemporary directory target.name last
  tryCatch (do
    body temporary
    replace temporary target.text) fun stop => do
    if clean then removeIfThere temporary
    throw stop

/-- Writes a file in one step. -/
def writeAtomically (target : Path) (content : Bytes) : Run Unit :=
  atomically target temporaryEnd none true fun temporary =>
    onDisk temporary none fun d => d.write temporary content

end Run

end HiveScript
