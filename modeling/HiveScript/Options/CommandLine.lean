import HiveScript.Options.Argument
import HiveScript.Value.Basic

/-!
# Command lines

What a command line says as a whole: which switches are given with which arguments, what the
operands are, and what is left over. The operands are one run of arguments; operands after a later
option are left over. Letters may share one hyphen.

* `CommandLine`: the switches in order, and how the reading ends.
* `CommandLine.read`, `CommandLine.ofTexts`.
-/

namespace HiveScript

/-- A switch as it is given. -/
structure Given where
  switch : Switch
  /-- The argument, if the switch takes one. -/
  argument : Option Value

/-- What is on a command line besides switches. -/
structure Remainder where
  operands : List Text
  rest : List Text
  deriving DecidableEq

/-- The switches of a command line, up to the first error if there is one. -/
structure CommandLine where
  given : List Given
  remainder : Except UsageError Remainder

namespace CommandLine

/-! ## One option -/

/-- The value of an argument in place. The divider there stands for nothing. -/
def attachedValue (s : Text) : Value :=
  if s = Argument.dividerText then .list [] else .text s

/-- What one option amounts to. -/
structure Opened where
  /-- The switches that it gives. -/
  given : List Given
  /-- A switch that still needs an argument. -/
  waiting : Option Switch

/-- The switches of letters after one hyphen. The first one is given, with what follows in place. -/
def openLetters (switches : List Switch) (w : Switch) (attached : Text) :
    Except UsageError Opened :=
  if w.effect.takesArgument then .ok ⟨[⟨w, some (attachedValue attached)⟩], none⟩
  else
    match attached with
    | [] => .error (.unwantedArgument w [])
    | p :: rest =>
      match Argument.switchNamed? switches (Switch.letterName p) with
      | none => .error (.unwantedArgument w (p :: rest))
      | some (w', _) =>
        if rest.isEmpty then
          if w'.effect.takesArgument then .ok ⟨[⟨w, none⟩], some w'⟩
          else .ok ⟨[⟨w, none⟩, ⟨w', none⟩], none⟩
        else do
          let o ← openLetters switches w' rest
          return { o with given := ⟨w, none⟩ :: o.given }
termination_by attached.length

/-- The switches that an option gives. -/
def openOption (switches : List Switch) (use : SwitchUse) : Except UsageError Opened :=
  let w := use.switch
  match use.attached with
  | none =>
    .ok (if w.effect.takesArgument then ⟨[], some w⟩ else ⟨[⟨w, none⟩], none⟩)
  | some attached =>
    if use.isShort then openLetters switches w attached
    else if w.effect.takesArgument then .ok ⟨[⟨w, some (attachedValue attached)⟩], none⟩
    else .error (.unwantedArgument w attached)

/-! ## All of them -/

/-- Where a reading stands with regard to the run of operands. -/
inductive Phase where
  | before
  | within
  | after
  deriving DecidableEq

/-- The phase after an option. -/
def Phase.interrupted : Phase → Phase
  | before => before
  | within | after => after

/-- Puts switches before those that come later. -/
def consGiven (given : List Given) (c : CommandLine) : CommandLine :=
  { c with given := given ++ c.given }

/-- Puts an operand before those that come later. -/
def consOperand (s : Text) (c : CommandLine) : CommandLine :=
  { c with remainder := c.remainder.map fun r => { r with operands := s :: r.operands } }

/-- Puts what is left over before what comes later. -/
def consRest (s : Text) (c : CommandLine) : CommandLine :=
  { c with remainder := c.remainder.map fun r => { r with rest := s :: r.rest } }

/-- Reads arguments from a phase on. -/
def read (switches : List Switch) : Phase → List Argument → CommandLine
  | _, [] => ⟨[], .ok ⟨[], []⟩⟩
  | .after, .operand s :: as => consRest s (read switches .after as)
  | _, .operand s :: as => consOperand s (read switches .within as)
  | .after, .divider :: as => consRest Argument.dividerText (read switches .after as)
  | _, .divider :: as => read switches .within as
  | phase, .unknown s :: as => consRest s (read switches phase.interrupted as)
  | phase, .option use :: as =>
    match openOption switches use with
    | .error e => ⟨[], .error e⟩
    | .ok ⟨given, none⟩ => consGiven given (read switches phase.interrupted as)
    | .ok ⟨given, some w⟩ =>
      match as with
      | .operand s :: as =>
        consGiven (given ++ [⟨w, some (.text s)⟩]) (read switches phase.interrupted as)
      | _ => ⟨[], .error (.missingArgument w)⟩

/-- The command line of some texts; where there are no operands, all that are given are left
over. -/
def ofTexts (switches : List Switch) (takesOperands : Bool) (ss : List Text) :
    Except UsageError CommandLine := do
  return read switches (if takesOperands then .before else .after) (← Argument.list switches ss)

end CommandLine

end HiveScript
