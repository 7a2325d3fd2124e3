import HiveScript.Options.Switch

/-!
# Arguments

What each argument of a command line is by itself: an option, an operand, or the divider after which
there are only operands. The long name of a switch may be cut short as long as no other begins like
it, and an argument may be given in place.

* `Argument`, `Argument.ofText`, `Argument.list`.
-/

namespace HiveScript

/-- A switch that an argument names, in which form, and with which argument in place. -/
structure SwitchUse where
  switch : Switch
  /-- It is named by its letter. -/
  isShort : Bool
  attached : Option Text
  deriving DecidableEq

/-- An argument of a command line. -/
inductive Argument where
  | operand (s : Text)
  /-- All that follows is an operand. -/
  | divider
  | option (use : SwitchUse)
  /-- It has the form of an option, but names no switch. -/
  | unknown (s : Text)
  deriving DecidableEq

namespace Argument

/-- The text of the divider. -/
def dividerText : Text := "--"

/-- The switch with a name, and whether the name is the short one. -/
def switchNamed? (switches : List Switch) (name : Text) : Option (Switch × Bool) :=
  (switches.find? fun s => s.names.contains name).map fun s => (s, s.shortName = some name)

/-! ## Abbreviations -/

/-- A name that an argument may stand for. -/
structure Reading where
  name : Text
  use : SwitchUse

/-- The long names that an argument may abbreviate; what follows an equals sign is given in
place. -/
def longReadings (switches : List Switch) (s : Text) : List Reading :=
  let (lead, attached) :=
    match Text.cut? (Point.ofChar '=') s with
    | some (lead, attached) => (lead, some attached)
    | none => (s, none)
  (switches.filter fun w => Text.beginsWith lead w.longName).map fun w =>
    ⟨w.longName, ⟨w, false, attached⟩⟩

/-- The short name that an argument begins with; the rest of it is given in place. -/
def shortReadings (switches : List Switch) (s : Text) : List Reading :=
  switches.filterMap fun w =>
    match w.shortName with
    | some name => (Text.after? name s).map fun attached => ⟨name, ⟨w, true, some attached⟩⟩
    | none => none

def readings (switches : List Switch) (s : Text) : List Reading :=
  if Text.beginsWith "--" s then longReadings switches s else shortReadings switches s

/-! ## Operands that begin like options -/

/-- Decimal digits, at least one. -/
def isDigits (s : Text) : Bool := !s.isEmpty && s.all fun p => p.decimalDigit?.isSome

/-- A negative number, as an integer or with a point; a line feed at the end does not matter. -/
def isNegativeNumber (s : Text) : Bool :=
  match s with
  | [] => false
  | sign :: s =>
    let s := if s.getLast? = some Point.lineFeed then s.dropLast else s
    sign = Point.ofChar '-' && (isDigits s ||
      match Text.cut? (Point.ofChar '.') s with
      | some (whole, fraction) => (whole.isEmpty || isDigits whole) && isDigits fraction
      | none => false)

/-! ## Arguments by themselves -/

/-- An argument that begins with a hyphen, and is neither a name nor a hyphen alone. -/
def ofHyphened (switches : List Switch) (s : Text) : Except UsageError Argument :=
  match readings switches s with
  | [r] => .ok (.option r.use)
  | r₁ :: r₂ :: rs => .error (.ambiguous s ((r₁ :: r₂ :: rs).map (·.name)))
  | [] =>
    .ok (if isNegativeNumber s || s.contains Point.space then .operand s else .unknown s)

/-- What an argument before the divider is. -/
def ofText (switches : List Switch) (s : Text) : Except UsageError Argument :=
  if s.head? ≠ some (Point.ofChar '-') then .ok (.operand s)
  else if let some (w, isShort) := switchNamed? switches s then .ok (.option ⟨w, isShort, none⟩)
  else if s.length = 1 then .ok (.operand s)
  else
    match Text.cut? (Point.ofChar '=') s with
    | some (name, attached) =>
      match switchNamed? switches name with
      | some (w, isShort) => .ok (.option ⟨w, isShort, some attached⟩)
      | none => ofHyphened switches s
    | none => ofHyphened switches s

/-- The arguments of a command line. -/
def list (switches : List Switch) : List Text → Except UsageError (List Argument)
  | [] => .ok []
  | s :: ss =>
    if s = dividerText then .ok (.divider :: ss.map .operand)
    else do return (← ofText switches s) :: (← list switches ss)

end Argument

end HiveScript
