import HiveScript.Program.Whole
import Std.Time.DateTime.Timestamp

/-!
# The command line

Loads what a run looks at into a world, runs in it, and carries out of it what the run changed and
wrote. Times are universal, and configurations are named file by file.

* `Disk.load`: a disk with what is at a path.
* `World.load`: a world with what a command line needs.
* `main`: the whole program.
-/

namespace HiveScript

/-! ## Paths -/

/-- A text as a string. -/
def Text.toString (t : Text) : String := String.ofList (t.map fun p => Char.ofNat p.val)

/-- A place as a path from the root. -/
def Place.path (p : Place) : String := (Text.join [] (p.map fun n => slash :: n)).toString

/-- What is at a place outside of the run. All places above it must be directories. -/
def Place.look (p : Place) : IO (Option Node) := do
  try return some (.file (← IO.FS.readBinFile p.path).toList)
  catch
    | .inappropriateType .. => return some .directory
    | .noFileOrDirectory .. => return none
    | e => throw e

/-! ## Loading -/

/-- The disk with what is on the way from a place along names. -/
def Disk.loadFrom (d : Disk) (p : Place) : List Text → IO Disk
  | [] => return d
  | n :: ns => do
    if !Path.isName n then d.loadFrom p ns
    else if n = [dot, dot] then d.loadFrom p.dropLast ns
    else
      let q := p ++ [n]
      match ← (match d.find? q with | some node => pure (some node) | none => q.look) with
      | some .directory => (d.put q .directory).loadFrom q ns
      | some node => return d.put q node
      | none => return d

/-- The disk with what is at a path and on the way there. -/
def Disk.load (d : Disk) (path : Text) : IO Disk :=
  d.loadFrom (if path.head? = some slash then [] else d.here) (path.fields (· = slash))

/-- The value of a run in a world, if it comes to one. What the run changes is forgotten. -/
def World.outcome? (w : World) (run : Run α) : Option α := (run.run.run w).1.toOption

/-- The world with what is at the paths that values name. -/
def World.loadValues (w : World) (vs : List Value) : IO World := do
  let disk ← vs.foldlM (fun (d : Disk) v =>
    match w.outcome? (Run.pathOf v) with
    | some path => d.load path.text
    | none => return d) w.disk
  return { w with disk }

/-- A value, or the items of a list. -/
def Value.spread : Value → List Value
  | .list vs => vs
  | v => [v]

/-- Ends if a value names a directory. -/
def World.refuseDirectory (w : World) (v : Value) : IO Unit :=
  match w.outcome? (Run.pathOf v >>= fun path => Run.find? path.text) with
  | some (some .directory) => throw (IO.userError "a configuration is named by its file")
  | _ => return ()

/-- The world with what the settings of a run need: its inputs, the standard input if it is one of
them, and what is at the places to be written to. -/
def World.loadSettings (w : World) (s : Settings) : IO World := do
  let w ← w.loadValues [s.get "output", s.get "output_dir", s.get "log_file"]
  let w ← w.loadValues (s.get "inputs").spread
  let targets := (w.outcome? (Run.planTargets s)).getD []
  let w ← w.loadValues (targets.filterMap fun p => p.map fun p => .text p.text)
  let sources := s.sources.toOption.getD []
  if sources.any Source.isStandardInput then
    return { w with input := .octets (← (← IO.getStdin).readBinToEnd).toList }
  return w

/-- The world with what a command line needs. -/
def World.load (w : World) (arguments : List Text) : IO World := do
  let .ok (.settings early) :=
    Catalogue.early.finish (.defaults Catalogue.early.switches) arguments | return w
  let configurations := (early.get "config").spread
  let w ← w.loadValues (early.get "log_file" :: configurations)
  configurations.forM w.refuseDirectory
  match w.outcome? (Run.mergedConfiguration configurations >>= (Run.settle · arguments)) with
  | some s => w.loadSettings s
  | none => return w

/-! ## The world outside -/

/-- The number of this process, zero where it cannot be told. -/
def processNumber : IO Nat := do
  try return ((← IO.FS.readFile "/proc/self/stat").takeWhile Char.isDigit).toNat?.getD 0
  catch _ => return 0

/-- The world at the start of a run, with nothing on its disk but the way to where it runs. -/
def World.outside : IO World := do
  let here := (Text.ofString (toString (← IO.currentDir))).fields (· = slash)
  return {
    disk := .empty (here.filter Path.isName)
    home := Text.ofString ((← IO.getEnv "HOME").getD "")
    moment := ⟨(← Std.Time.Timestamp.now).toMillisecondsSinceUnixEpoch.val.toNat⟩
    process := ← processNumber
    input := .octets []
    output := ⟨.strict, ← (← IO.getStdout).isTty, []⟩
    messages := ⟨.escaping (.utf8 false), ← (← IO.getStderr).isTty, []⟩
    log := .initial }

/-- Writes octets to a stream. -/
def emitOctets (stream : IO.FS.Stream) (bs : Bytes) : IO Unit := do
  stream.write ⟨bs.toArray⟩
  stream.flush

/-- Writes the files and directories that differ, those nearer to the root first. -/
def Disk.store (before after : Disk) : IO Unit := do
  let changed := after.nodes.filter fun e => before.find? e.1 ≠ some e.2
  for (p, node) in changed.mergeSort fun a b => a.1.length ≤ b.1.length do
    match node with
    | .directory => IO.FS.createDir p.path
    | .file bs => IO.FS.writeBinFile p.path ⟨bs.toArray⟩

/-- What a run that ends early tells, and the status to exit with. -/
def Stop.farewell : Stop → Text × Nat
  | .exit (.code n) => ([], n)
  | .exit (.message s) => (s ++ [Point.lineFeed], 1)
  | .interrupt => ([], Run.interruptedStatus)
  | .fault f => (f.kind.className ++ ": " ++ f.message ++ [Point.lineFeed], 1)
  | .failure f => (f.className ++ ": " ++ f.message ++ [Point.lineFeed], 1)

end HiveScript

open HiveScript in
/-- Converts exports as the command line asks for. -/
def main (arguments : List String) : IO UInt32 := do
  let arguments := arguments.map Text.ofString
  let before ← (← World.outside).load arguments
  let (ending, after) := (Run.program arguments).run.run before
  before.disk.store after.disk
  emitOctets (← IO.getStdout) after.output.octets
  emitOctets (← IO.getStderr) after.messages.octets
  let (farewell, status) :=
    match ending with
    | .ok status => ([], status)
    | .error stop => stop.farewell
  emitOctets (← IO.getStderr) ((Encoding.utf8 false).encode farewell)
  return UInt32.ofNat (status % 256)
