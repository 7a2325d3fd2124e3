import HiveScript.Conversion.Reason
import HiveScript.Registry.Hive
import HiveScript.Script.Command
import HiveScript.Text.Line

/-!
# Conversion

The text of an export becomes one command for each significant line, or is refused because of the
first line that cannot be converted.

* `significantLines`: the trimmed lines that are neither empty nor a banner, with their numbers.
* `Conversion.command`: the command of a significant line under the key that is open.
* `Conversion.run`: the commands before the first refusal, and that refusal.
* `convert`: the script of a text, all or nothing.
-/

namespace HiveScript

/-! ## Significant lines -/

/-- The beginning of the line that opens an export. -/
def banner : Text := "Windows Registry Editor"

/-- Takes blanks, then byte order marks, then blanks off both ends. -/
def trimLine (s : Text) : Text := (s.trim.trimBy (· = Point.byteOrderMark)).trim

/-- A trimmed line that means something. -/
def isSignificant (line : Text) : Bool := !line.isEmpty && !Text.beginsWith banner line

/-- The physical lines, trimmed, with their numbers from one on. -/
def numberedLines (s : Text) : List (Nat × Text) :=
  (s.physicalLines.zipIdx 1).map fun (line, n) => (n, trimLine line)

def significantLines (s : Text) : List (Nat × Text) :=
  (numberedLines s).filter fun (_, line) => isSignificant line

/-! ## Commands of lines -/

/-- Why a text is refused. -/
inductive Refusal where
  | rejected (r : Rejection)
  /-- A number is too long to be written. -/
  | numeralTooLong
  deriving DecidableEq

namespace Conversion

/-- A refusal because of line `n`. -/
def reject (reason : Reason) (n : Nat) : Except Refusal α := .error (.rejected ⟨reason, some n⟩)

/-- The command of a line that opens a section. -/
def header (n : Nat) (line : Text) : Except Refusal Command :=
  if line.getLast? = some (Point.ofChar ']') then
    match Hive.drivePath? line.tail.dropLast with
    | some path => .ok (.createKey path)
    | none => reject .unknownHive n
  else reject .malformedSectionHeader n

/-- The command of a value line under the key that is open, if one is. -/
def value (key : Option Text) (n : Nat) (line : Text) : Except Refusal Command :=
  match key with
  | none => reject .valueOutsideSection n
  | some path =>
    match Text.cut? (Point.ofChar '=') line with
    | none => reject .missingEquals n
    | some (name, rest) =>
      match Datum.read rest.trim with
      | .ok datum => .ok (.setValue path (Datum.unquote name) datum)
      | .error .invalidDword => reject .invalidDword n
      | .error .numeralTooLong => .error .numeralTooLong

/-- The command of a significant line. -/
def command (key : Option Text) (n : Nat) (line : Text) : Except Refusal Command :=
  if line.head? = some (Point.ofChar '[') then header n line else value key n line

/-- The commands of lines up to the first refusal, with the numbers of their lines. -/
def runFrom : Option Text → List (Nat × Text) → List (Nat × Command) × Option Refusal
  | _, [] => ([], none)
  | key, (n, line) :: rest =>
    match command key n line with
    | .error r => ([], some r)
    | .ok c =>
      let (cs, r) := runFrom (some c.key) rest
      ((n, c) :: cs, r)

/-- The commands of a text before the first refusal, and that refusal. -/
def run (s : Text) : List (Nat × Command) × Option Refusal :=
  if s.isBlank then ([], some (.rejected ⟨.emptyInput, none⟩))
  else runFrom none (significantLines s)

end Conversion

/-! ## The script of a text -/

/-- The lines of some commands. -/
def scriptOf (cs : List Command) : Text := cs.flatMap Command.line

/-- The script of an export, or why there is none. -/
def convert (s : Text) : Except Refusal Text :=
  match Conversion.run s with
  | (cs, none) => .ok (scriptOf (cs.map (·.2)))
  | (_, some r) => .error r

end HiveScript
