import HiveScript.Text.Quoted

/-!
# Switches

The options that a command line may use. A switch has one or two names; giving it does something to
the setting of its key, or shows a text and ends the run.

* `Switch`, `SwitchEffect`: one option and what it does.
* `UsageError`: what is wrong with a command line, with `UsageError.message`.
-/

namespace HiveScript

/-- What giving a switch does. -/
inductive SwitchEffect where
  /-- The setting becomes the argument. -/
  | store
  /-- The argument is added to the list in the setting. -/
  | append
  /-- The setting becomes true. -/
  | turnOn
  /-- The setting is counted up. -/
  | count
  | showManual
  | showVersion
  deriving DecidableEq

/-- The switch needs an argument. -/
def SwitchEffect.takesArgument : SwitchEffect → Bool
  | store | append => true
  | turnOn | count | showManual | showVersion => false

/-- An option of the command line. -/
structure Switch where
  /-- The letter of its short name. -/
  letter : Option Char
  /-- Its long name. -/
  word : String
  /-- The key of its setting. -/
  key : String
  effect : SwitchEffect
  /-- What it is for. -/
  summary : String
  deriving DecidableEq

namespace Switch

/-- The name of a letter. -/
def letterName (p : Point) : Text := [Point.ofChar '-', p]

/-- The short name, if it has one. -/
def shortName (s : Switch) : Option Text := s.letter.map fun c => letterName c

/-- The long name. -/
def longName (s : Switch) : Text := "--" ++ Text.ofString s.word

/-- The names, the short one first. -/
def names (s : Switch) : List Text := s.shortName.toList ++ [s.longName]

/-- The word that stands for an argument. -/
def argumentName (s : Switch) : Text := s.key.toUpper

/-- The switch as messages name it. -/
def title (s : Switch) : Text := Text.join "/" s.names

end Switch

/-! ## Errors -/

/-- What is wrong with a command line. -/
inductive UsageError where
  /-- An abbreviation stands for several names. -/
  | ambiguous (argument : Text) (names : List Text)
  /-- A switch that needs none is given an argument in place. -/
  | unwantedArgument (s : Switch) (argument : Text)
  /-- A switch is not given the argument that it needs. -/
  | missingArgument (s : Switch)
  /-- Arguments that are neither options nor operands. -/
  | unrecognized (arguments : List Text)
  deriving DecidableEq

namespace UsageError

/-- An error that a switch has part in. -/
def about (s : Switch) (what : Text) : Text := "argument " ++ s.title ++ ": " ++ what

def message : UsageError → Text
  | ambiguous argument names =>
    "ambiguous option: " ++ argument ++ " could match " ++ Text.join ", " names
  | unwantedArgument s argument => about s ("ignored explicit argument " ++ argument.quoted)
  | missingArgument s => about s "expected one argument"
  | unrecognized arguments => "unrecognized arguments: " ++ Text.join " " arguments

end UsageError

end HiveScript
