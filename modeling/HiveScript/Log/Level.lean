import HiveScript.Text.Numeral

/-!
# Levels of records

How much a record matters, as a number. Six levels have names, marks and colours.

* `Level.ofCounts`: the level from which on the console shows records.
-/

namespace HiveScript

/-- How much a record matters. -/
abbrev Level := Int

namespace Level

def trace : Level := 5
def debug : Level := 10
def info : Level := 20
def warning : Level := 30
def error : Level := 40
def critical : Level := 50

/-- A level that has a name. -/
structure Named where
  level : Level
  name : String
  mark : String
  /-- The number of its colour. -/
  colour : Nat

def named : List Named := [
    ⟨trace, "TRACE", "🧬", 36⟩, ⟨debug, "DEBUG", "🔍", 34⟩, ⟨info, "INFO", "✅", 32⟩,
    ⟨warning, "WARNING", "⚠️", 33⟩, ⟨error, "ERROR", "💥", 31⟩, ⟨critical, "CRITICAL", "🧨", 31⟩]

def named? (l : Level) : Option Named := named.find? fun n => n.level = l

/-- The name of a level, or one made from its number. -/
def name (l : Level) : Text :=
  match named? l with
  | some n => n.name
  | none => if l = 0 then "NOTSET" else "Level " ++ Numeral.ofInt l

/-- The mark of a level on a stream that can show marks. -/
def mark (l : Level) : Text :=
  match named? l with
  | some n => n.mark
  | none => "•"

/-- The level for counts of wishes for more and for fewer records. Fewer wins over more. -/
def ofCounts (verbose quiet : Int) : Level :=
  if 2 ≤ quiet then critical
  else if quiet = 1 then error
  else if 3 ≤ verbose then trace
  else if 2 ≤ verbose then debug
  else if verbose = 1 then info
  else warning

end Level

end HiveScript
