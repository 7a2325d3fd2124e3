import HiveScript.Log.Colour
import HiveScript.Options.Settings
import HiveScript.Text.Fill

/-!
# The manual

The usage of a command line in short, and the manual that explains each switch with its default.

* `Synopsis`: what a command line may hold.
* `Synopsis.usage`: the usage.
* `Synopsis.manual?`: the manual, with the values in some settings as the defaults.
-/

namespace HiveScript

/-- Switches under a title. -/
structure SwitchGroup where
  title : String
  switches : List Switch

/-- The operands of a command line. -/
structure Operands where
  /-- The word that stands for one of them. -/
  word : String
  key : String
  summary : String

/-- What a command line may hold. -/
structure Synopsis where
  program : Text
  groups : List SwitchGroup
  operands : Option Operands

namespace Synopsis

def switches (s : Synopsis) : List Switch := s.groups.flatMap (·.switches)

def operandKey (s : Synopsis) : Option Text := s.operands.map fun o => Text.ofString o.key

/-- What a command line comes to, from settings. -/
def finish (s : Synopsis) (settings : Settings) (arguments : List Text) :
    Except Failure Ending :=
  match CommandLine.ofTexts s.switches s.operands.isSome arguments with
  | .ok c => settings.finish s.operandKey c
  | .error e => .ok (.misused e)

/-! ## The usage -/

/-- The columns of a page. -/
def width : Nat := 78

/-- Some spaces. -/
def spaces (n : Nat) : Text := List.replicate n Point.space

/-- Lines of words, which are never broken; `line` is the line so far. -/
def packFrom (room : Nat) (line : Text) : List Text → List Text
  | [] => [line]
  | w :: ws =>
    if line.length + 1 + w.length ≤ room then packFrom room (line ++ " " ++ w) ws
    else line :: packFrom room w ws

def pack (room : Nat) : List Text → List Text
  | [] => []
  | w :: ws => packFrom room w ws

/-- A name of a switch with its argument. -/
def withArgument (w : Switch) (name : Text) : Text :=
  if w.effect.takesArgument then name ++ " " ++ w.argumentName else name

/-- A switch in a usage. -/
def switchUsage (w : Switch) : Text :=
  "[" ++ withArgument w (w.shortName.getD w.longName) ++ "]"

/-- Operands in a usage. -/
def operandUsage (o : Operands) : Text := "[" ++ Text.ofString o.word ++ " ...]"

/-- The usage, without the end of its last line. Operands begin a line of their own. -/
def usage (s : Synopsis) : Text :=
  let lead := "usage: " ++ s.program ++ " "
  let lines := pack (width - lead.length) (s.switches.map switchUsage) ++
    s.operands.toList.map operandUsage
  lead ++ Text.join (Point.lineFeed :: spaces lead.length) lines

/-- What is shown about an error, without the end of the last line: the usage and the message. -/
def complaint (s : Synopsis) (e : UsageError) : Text :=
  s.usage ++ "\n" ++ s.program ++ ": error: " ++ e.message

/-! ## The manual -/

/-- The column in which explanations begin. -/
def column : Nat := 24

/-- An entry with a name and an explanation, each line with its end. -/
def entry (name explanation : Text) : Text :=
  let lines := Text.fill (width - column) explanation
  let lead :=
    if name.length ≤ column - 4 then "  " ++ name.padRight (column - 4) Point.space ++ "  "
    else "  " ++ name ++ "\n" ++ spaces column
  lead ++ Text.join (Point.lineFeed :: spaces column) lines ++ "\n"

/-- The points that an explanation may have between its words. -/
def isGap (p : Point) : Bool := Ranges.has [(0x09, 0x0D), (0x20, 0x20)] p

/-- An explanation with the default, if there is one. -/
def explanation? (summary : Text) (value : Option Value) : Option Text := do
  let s : Text ←
    match value with
    | none => some summary
    | some v => do
      let v ← v.display?
      some (summary ++ " (default: " ++ v ++ ")")
  return (Text.join " " ((s.fields isGap).filter fun w => !w.isEmpty)).trim

/-- The entry of a switch. -/
def switchLines? (settings : Settings) (w : Switch) : Option Text := do
  let names := Text.join ", " (w.names.map (withArgument w))
  return entry names (← explanation? w.summary (settings.get? w.key))

/-- The entry of the operands. -/
def operandLines? (settings : Settings) (o : Operands) : Option Text := do
  return entry o.word (← explanation? o.summary (settings.get? o.key))

/-- Entries under a title. -/
def part (title : Text) (entries : List Text) : Text := title ++ ":\n" ++ entries.flatten

/-- The manual: the usage, what the program is, the entries, and notes. Parts stand one empty line
apart. -/
def manual? (s : Synopsis) (settings : Settings) (about notes : Text) : Option Text := do
  let operands ← s.operands.toList.mapM fun o => do
    return part "positional arguments" [← operandLines? settings o]
  let groups ← s.groups.mapM fun g => do
    return part g.title (← g.switches.mapM (switchLines? settings))
  let lines := Text.join "\n\n" ([s.usage, about] ++
    (operands ++ groups).map (·.dropLast) ++ [notes])
  return (lines.reverse.dropWhile (· = Point.lineFeed)).reverse ++ "\n"

end Synopsis

end HiveScript
