import HiveScript.Disk.Path
import HiveScript.Encoding.Utf8

/-!
# Disks

The files and directories that a run sees and changes. A *place* is the list of names from the
root; a written path leads to a place by way of directories that are there.

* `Disk.find?`, `Disk.put`, `Disk.erase`: the node at a place.
* `Disk.locate`: the place that a written path leads to.
* `Disk.makeDirectory`, `Disk.create`, `Disk.write`, `Disk.read`, `Disk.rename`, `Disk.remove`: one
  operation each, refused with the problem if it cannot be done.
-/

namespace HiveScript

/-- What is at a place. -/
inductive Node where
  | directory
  | file (content : Bytes)
  deriving DecidableEq

/-- The names from the root. -/
abbrev Place := List Text

/-- The files and directories, and the directory in which the tool runs. -/
structure Disk where
  here : Place
  nodes : List (Place × Node)

namespace Disk

/-! ## Places -/

/-- What is at a place. The root is a directory. -/
def find? (d : Disk) (p : Place) : Option Node :=
  if p = [] then some .directory else (d.nodes.find? fun e => e.1 = p).map (·.2)

/-- Puts a node at a place over what was there. -/
def put (d : Disk) (p : Place) (n : Node) : Disk :=
  { d with nodes := (p, n) :: d.nodes.filter fun e => e.1 ≠ p }

/-- Takes away what is at a place. -/
def erase (d : Disk) (p : Place) : Disk := { d with nodes := d.nodes.filter fun e => e.1 ≠ p }

/-- The places directly in a directory. -/
def children (d : Disk) (p : Place) : List (Place × Node) :=
  d.nodes.filter fun e => e.1.length = p.length + 1 && e.1.dropLast = p

/-- The names directly in a directory, in the order in which the disk tells them. -/
def namesIn (d : Disk) (p : Place) : List Text :=
  ((d.children p).filterMap fun e => e.1.getLast?).eraseDups

/-- A directory with nothing in it, at which the tool runs, and the directories above it. -/
def empty (here : Place) : Disk :=
  ⟨here, (List.range here.length).map fun i => (here.take (i + 1), .directory)⟩

/-! ## Written paths -/

/-- The most octets of a name. -/
def maxName : Nat := 255

/-- The most octets of a path. -/
def maxPath : Nat := 4095

/-- The octets of a name. -/
def octetCount (s : Text) : Nat :=
  s.foldl (fun n p => n + if p.isEscapedOctet then 1 else (Utf8.octets p).length) 0

/-- Goes from a place along names. Each name but the last must lead to a directory. -/
def walk (d : Disk) : Place → List Text → Except FileProblem Place
  | p, [] => .ok p
  | p, n :: ns =>
    match d.find? p with
    | none => .error .noEntry
    | some (.file _) => .error .notDirectory
    | some .directory =>
      if !Path.isName n then walk d p ns
      else if n = [dot, dot] then walk d p.dropLast ns
      else if maxName < octetCount n then .error .nameTooLong
      else walk d (p ++ [n]) ns

/-- The place that a written path leads to; something need not be there. -/
def locate (d : Disk) (path : Text) : Except FileProblem Place :=
  if path.isEmpty then .error .noEntry
  else if maxPath < octetCount path then .error .nameTooLong
  else
    d.walk (if path.head? = some slash then [] else d.here) (path.fields (· = slash))

/-- What a written path leads to. -/
def stat (d : Disk) (path : Text) : Except FileProblem Node := do
  match d.find? (← d.locate path) with
  | some n => return n
  | none => .error .noEntry

/-! ## Operations -/

def makeDirectory (d : Disk) (path : Text) : Except FileProblem Disk := do
  let p ← d.locate path
  match d.find? p with
  | some _ => .error .alreadyThere
  | none => return d.put p .directory

/-- Creates an empty file where nothing is. -/
def create (d : Disk) (path : Text) : Except FileProblem Disk := do
  let p ← d.locate path
  match d.find? p with
  | some _ => .error .alreadyThere
  | none => return d.put p (.file [])

/-- Writes a file over what it holds, or a new one. -/
def write (d : Disk) (path : Text) (content : Bytes) : Except FileProblem Disk := do
  let p ← d.locate path
  match d.find? p with
  | some .directory => .error .isDirectory
  | _ => return d.put p (.file content)

def read (d : Disk) (path : Text) : Except FileProblem Bytes := do
  match ← d.stat path with
  | .directory => .error .isDirectory
  | .file content => return content

/-- Opens a file for adding to it, a new one if it is not there, and tells its place. -/
def openForAppending (d : Disk) (path : Text) : Except FileProblem (Place × Disk) := do
  let p ← d.locate path
  match d.find? p with
  | some .directory => .error .isDirectory
  | some (.file _) => return (p, d)
  | none => return (p, d.put p (.file []))

/-- Adds to the file at a place. -/
def append (d : Disk) (p : Place) (more : Bytes) : Disk :=
  match d.find? p with
  | some (.file content) => d.put p (.file (content ++ more))
  | _ => d

/-- The last name of a written path is one that can be given to a file. -/
def endsInName (path : Text) : Bool :=
  match (path.fields (· = slash)).getLast? with
  | some n => Path.isName n && n ≠ [dot, dot]
  | none => false

/-- Gives a file another path, over the file that is there. A directory is never replaced. -/
def rename (d : Disk) (source target : Text) : Except FileProblem Disk := do
  let p ← d.locate source
  let q ← d.locate target
  if !endsInName target then .error .busy
  else
    match d.find? p with
    | some (.file content) =>
      if q.isPrefixOf p && q ≠ p then .error .notEmpty
      else if d.find? q = some .directory then .error .isDirectory
      else return (d.erase p).put q (.file content)
    | _ => .error .noEntry

/-- Takes a file away. -/
def remove (d : Disk) (path : Text) : Except FileProblem Disk := do
  let p ← d.locate path
  match d.find? p with
  | some (.file _) => return d.erase p
  | some .directory => .error .isDirectory
  | none => .error .noEntry

/-! ## Names without regard to what is there -/

/-- A path from the root, with two dots taken as the directory above. -/
def absolute (d : Disk) (path : Text) : Path :=
  let p := Path.ofText path
  let start : Path := if p.root.isEmpty then ⟨[slash], d.here⟩ else ⟨p.root, []⟩
  p.names.foldl (fun q n => if n = [dot, dot] then q.parent else q.child n) start

end Disk

end HiveScript
