import HiveScript.Fault.Failure

/-!
# Paths

Paths as they are written: a root and names. Empty names and single dots are dropped in writing,
two dots stay.

* `Path.ofText`, `Path.text`: reading and writing.
* `Path.stem`, `Path.extension`: the parts of the last name.
* `Path.expandHome`: writes the home directory for a tilde.
-/

namespace HiveScript

def slash : Point := Point.ofChar '/'

def dot : Point := Point.ofChar '.'

/-- A path. The root is empty for a path that starts where the tool runs. -/
structure Path where
  root : Text
  names : List Text
  deriving DecidableEq

namespace Path

/-- The root of a written path; exactly two slashes are a root of their own. -/
def rootOf (s : Text) : Text :=
  match s.takeWhile (· = slash) with
  | [] => []
  | [a, b] => [a, b]
  | a :: _ => [a]

/-- A name that is kept in a path. -/
def isName (n : Text) : Bool := !n.isEmpty && n ≠ [dot]

def ofText (s : Text) : Path := ⟨rootOf s, (s.fields (· = slash)).filter isName⟩

def text (p : Path) : Text :=
  if p.root.isEmpty && p.names.isEmpty then [dot] else p.root ++ Text.join [slash] p.names

/-- The last name. -/
def name (p : Path) : Text := p.names.getLast?.getD []

/-- The path without its last name. -/
def parent (p : Path) : Path := ⟨p.root, p.names.dropLast⟩

/-- The path of a name in a directory. -/
def child (p : Path) (n : Text) : Path := ⟨p.root, p.names ++ [n]⟩

/-- The last name cut at its last dot, unless that is its first or its last point. -/
def cutName? (p : Path) : Option (Text × Text) :=
  (Text.cutLast? dot p.name).filter fun (a, b) => !a.isEmpty && 1 < b.length

/-- The last name without its extension. -/
def stem (p : Path) : Text := (p.cutName?.map (·.1)).getD p.name

/-- The end of the last name from its last dot on. -/
def extension (p : Path) : Text := (p.cutName?.map (·.2)).getD []

/-- The path with the home directory in place of a tilde; nobody else's home is known. -/
def expandHome (home : Text) (p : Path) : Except Failure Path :=
  match p.root, p.names with
  | [], first :: rest =>
    if first = [Point.ofChar '~'] then
      let start := ofText home
      .ok ⟨start.root, start.names ++ rest⟩
    else if first.head? = some (Point.ofChar '~') then .error .homeUnknown
    else .ok p
  | _, _ => .ok p

end Path

/-! ## Texts that can be paths -/

/-- Surrogates that stand for octets in paths. -/
def Point.isEscapedOctet (p : Point) : Bool := 0xDC80 ≤ p.val && p.val ≤ 0xDCFF

/-- A point that no path can hold. -/
def Point.isUnfitForPath (p : Point) : Bool := p.isSurrogate && !p.isEscapedOctet

/-- Refuses a text that can be no path: one with a surrogate that stands for no octet, or with a
null point. -/
def checkPath (s : Text) : Except Failure Unit :=
  match s.dropWhile fun p => !p.isUnfitForPath with
  | p :: rest =>
    .error (.unencodable p (s.length - (rest.length + 1))
      ((p :: rest).takeWhile Point.isSurrogate).length)
  | [] => if s.contains Point.nul then .error .embeddedNull else .ok ()

end HiveScript
