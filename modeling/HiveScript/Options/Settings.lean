import HiveScript.Fault.Basic
import HiveScript.Options.CommandLine

/-!
# Settings

Values under keys. Each switch has a setting, which starts from a default that a configuration may
replace, so that a value may be of any type.

* `Settings.defaults`: the settings when nothing is given.
* `Settings.give`: the settings after a switch is given.
* `Settings.finish`: what a whole command line comes to.
-/

namespace HiveScript

/-- Values under keys. -/
abbrev Settings := List (Text × Value)

/-- A text that a command line asks to be shown. -/
inductive Shown where
  | manual
  | version
  deriving DecidableEq

/-- What a command line comes to. -/
inductive Ending where
  | settings (s : Settings)
  | shown (what : Shown)
  | misused (e : UsageError)

/-- The value of a setting before it is given. -/
def SwitchEffect.default? : SwitchEffect → Option Value
  | store => some .null
  | append => some (.list [])
  | turnOn => some (.bool false)
  | count => some (.int 0)
  | showManual | showVersion => none

namespace Settings

/-- The value under a key, if there is one. -/
def get? (s : Settings) (k : Text) : Option Value := (s.find? fun e => e.1 = k).map (·.2)

/-- The value under a key, null if there is none. -/
def get (s : Settings) (k : Text) : Value := (s.get? k).getD .null

def put (s : Settings) (k : Text) (v : Value) : Settings := putNamed k v s

/-- The value under a key counts as set. -/
def has (s : Settings) (k : Text) : Bool := (s.get k).isTrue

/-- The settings of switches when nothing is given. -/
def defaults (switches : List Switch) : Settings :=
  switches.filterMap fun w => w.effect.default?.map fun v => (w.key, v)

/-! ## Giving switches -/

/-- A list with a further item. Null counts as an empty list. -/
def appended (v : Value) (item : Value) : Except Failure Value :=
  match v with
  | .null => .ok (.list [item])
  | .list items => .ok (.list (items ++ [item]))
  | v => .error (.noMember v.typeName "append")

/-- A count with one added. Null counts as zero. -/
def counted (v : Value) : Except Failure Value :=
  match v with
  | .null => .ok (.int 1)
  | v => v.successor

/-- The settings after a switch is given. -/
def give (s : Settings) (g : Given) : Except Failure Settings :=
  let k : Text := g.switch.key
  match g.switch.effect with
  | .store => .ok (s.put k (g.argument.getD .null))
  | .append => do return s.put k (← appended (s.get k) (g.argument.getD .null))
  | .turnOn => .ok (s.put k (.bool true))
  | .count => do return s.put k (← counted (s.get k))
  | .showManual | .showVersion => .ok s

/-- What a switch asks to be shown. -/
def shownBy (g : Given) : Option Shown :=
  match g.switch.effect with
  | .showManual => some .manual
  | .showVersion => some .version
  | _ => none

/-- The settings after switches are given one after the other, up to one that asks for a text. -/
def giveAll (s : Settings) : List Given → Except Failure (Settings × Option Shown)
  | [] => .ok (s, none)
  | g :: gs =>
    match shownBy g with
    | some what => .ok (s, some what)
    | none => do giveAll (← s.give g) gs

/-- Puts operands under their key; without any, what is there stays, and null becomes no
operands. -/
def giveOperands (s : Settings) (k : Text) (operands : List Text) : Settings :=
  if !operands.isEmpty then s.put k (.texts operands)
  else
    match s.get? k with
    | some .null => s.put k (.list [])
    | _ => s

/-- What a command line comes to, from settings. Where operands have a key nothing may be left
over. -/
def finish (s : Settings) (operandKey : Option Text) (c : CommandLine) :
    Except Failure Ending := do
  match ← s.giveAll c.given, c.remainder, operandKey with
  | (_, some what), _, _ => return .shown what
  | (_, none), .error e, _ => return .misused e
  | (s, none), .ok _, none => return .settings s
  | (s, none), .ok r, some k =>
    if r.rest.isEmpty then return .settings (s.giveOperands k r.operands)
    else return .misused (.unrecognized r.rest)

end Settings

end HiveScript
