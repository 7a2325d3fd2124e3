import HiveScript.Fault.Failure
import HiveScript.Text.Line
import HiveScript.Value.Display

/-!
# Foreign errors

Errors that come from elsewhere with a class and arguments, and the line on which they are shown.

* `Foreign.make`: an error of some class; not all arguments make one.
* `Foreign.line?`: the line.
-/

namespace HiveScript

/-- The classes of foreign errors. -/
inductive ForeignClass where
  | value
  | key
  | runtime
  | type
  | system
  deriving DecidableEq

def ForeignClass.name : ForeignClass → Text
  | value => "ValueError"
  | key => "KeyError"
  | runtime => "RuntimeError"
  | type => "TypeError"
  | system => "OSError"

def ForeignClass.all : List ForeignClass := [value, key, runtime, type, system]

/-- A foreign error. -/
structure Foreign where
  kind : ForeignClass
  arguments : List Value

namespace Foreign

/-- The texts of values inside of round brackets. -/
def tuple? (vs : List Value) : Option Text := do
  return "(" ++ Text.join ", " (← vs.mapM Value.inspect?) ++ ")"

/-- The class, which for a system error depends on its number. -/
def className (e : Foreign) : Text :=
  match e.kind, e.arguments with
  | .system, .scalar number :: _ :: rest =>
    if 3 < rest.length then e.kind.name
    else (number.int?.map systemClass).getD e.kind.name
  | _, _ => e.kind.name

/-- How much was done before the error, which an error of something busy may tell in the place of a
path. -/
def progress? (e : Foreign) : Option Scalar :=
  match e.arguments with
  | _ :: _ :: .scalar s :: _ =>
    if e.className = systemClass 11 ∧ s.number?.isSome then some s else none
  | _ => none

/-- An error of some class. What it tells of its progress has to be an integer of 64 bits. -/
def make (kind : ForeignClass) (arguments : List Value) : Except Failure Foreign :=
  let e : Foreign := ⟨kind, arguments⟩
  match e.progress? with
  | none => .ok e
  | some s =>
    match s.int? with
    | none => .error (.notCount s.typeName)
    | some i =>
      if -0x8000000000000000 ≤ i ∧ i < 0x8000000000000000 then .ok e
      else .error (.countTooGreat s.typeName)

/-- The path in one place of a system error, unless it is null. -/
def path? (v : Option Value) : Option Value :=
  match v with
  | some .null => none
  | v => v

/-- The paths of a system error, of which the second one counts only beside the first. -/
def paths (e : Foreign) : Option Value × Option Value :=
  if e.progress?.isSome then (none, none)
  else (path? e.arguments[2]?, path? e.arguments[4]?)

/-- The text of an error. -/
def text? (e : Foreign) : Option Text :=
  match e.kind, e.arguments with
  | _, [] => some []
  | .key, [v] => v.inspect?
  | _, [v] => v.display?
  | .system, number :: message :: rest =>
    if 3 < rest.length then tuple? e.arguments
    else do
      let head := "[Errno " ++ (← number.display?) ++ "] " ++ (← message.display?)
      match e.paths with
      | (some path, some goal) =>
        return head ++ ": " ++ (← path.inspect?) ++ " -> " ++ (← goal.inspect?)
      | (some path, none) => return head ++ ": " ++ (← path.inspect?)
      | (none, _) => return head
  | _, vs => tuple? vs

/-- The line on which an error with this class and text is shown; the class is named if the text
is empty or if much is to be told. -/
def lineOf (verbosity : Int) (className text : Text) : Text :=
  if 2 ≤ verbosity then className ++ ": " ++ text.oneLine
  else if text.oneLine.isEmpty then className else text.oneLine

def line? (verbosity : Int) (e : Foreign) : Option Text :=
  e.text?.map (lineOf verbosity e.className)

end Foreign

/-- The line on which a failure is shown. -/
def Failure.line (verbosity : Int) (f : Failure) : Text :=
  Foreign.lineOf verbosity f.className f.message

end HiveScript
