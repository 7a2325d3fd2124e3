import HiveScript.Conversion.Reason
import HiveScript.Text.Line
import HiveScript.Value.Display
import HiveScript.Value.Integer

/-!
# Faults

The errors that the tool reports: each has an exit code, a message on one line, and a context that
tells where it happened.

* `Fault.make`: a fault from whatever is given for its parts.
* `Fault.withContext`, `Fault.addContext`: add to the context.
* `Fault.userMessage?`, `Fault.toValue`: how a fault is shown.
-/

namespace HiveScript

/-- The kinds of faults. A conversion fault may name a line. -/
inductive Fault.Kind where
  | general
  | fatal
  | conversion (reason : Reason) (line : Option Int)
  deriving DecidableEq

/-- An error that the tool reports. -/
structure Fault where
  kind : Fault.Kind
  code : Nat
  message : Text
  context : List (Text × Value)

/-! ## Associations of names -/

/-- Puts a value under a name: in the place of the name if it is there, and at the end otherwise. -/
def putNamed (k : Text) (v : α) : List (Text × α) → List (Text × α)
  | [] => [(k, v)]
  | e :: es => if e.1 = k then (k, v) :: es else e :: putNamed k v es

/-- Puts values under names, one after the other. -/
def putAllNamed (new old : List (Text × α)) : List (Text × α) :=
  new.foldl (fun es e => putNamed e.1 e.2 es) old

/-- Associations in the order of their names. -/
def sortNamed (es : List (Text × α)) : List (Text × α) :=
  es.mergeSort fun a b => a.1.le b.1

namespace Fault

/-! ## Kinds -/

namespace Kind

def className : Kind → Text
  | general => "Reg2PsError"
  | fatal => "Fatal"
  | conversion reason _ => reason.name

/-- The kind of a name, and of a line where one is given. -/
def ofName? (name : Text) (line : Option (Option Int)) : Option (Except Failure Kind) :=
  match Reason.all.find? fun r => r.name = name, line with
  | some reason, line => some (.ok (conversion reason line.join))
  | none, some _ =>
    if name = general.className ∨ name = fatal.className then some (.error .noLine) else none
  | none, none =>
    if name = general.className then some (.ok general)
    else if name = fatal.className then some (.ok fatal)
    else none

/-- The exit code of a fault that is given none. -/
def defaultCode : Kind → Int
  | conversion .. => 2
  | _ => 1

/-- The message of a fault that is given none. -/
def defaultMessage : Kind → Text
  | conversion .. => []
  | _ => "error"

/-- The line that the message names: one that is given names none. -/
def namedLine? (kind : Kind) (message : Text) : Option Int :=
  match kind with
  | conversion reason line => if message.isEmpty && reason.namesLine then line else none
  | _ => none

/-- The number of the line that the message names is not too long for it. -/
def isWritable (kind : Kind) (message : Text) : Bool :=
  (kind.namedLine? message).all fun i => (Numeral.ofInt? i).isSome

end Kind

/-! ## Making faults -/

/-- The exit code of an integer: what is negative becomes one, what is above 255 becomes 255. -/
def clampCode (code : Int) : Nat :=
  if code < 0 then 1 else if 255 < code then 255 else code.toNat

/-- The exit code of a value; what stands for no integer becomes one. Infinity is refused. -/
def codeOf (v : Value) : Except Failure Nat :=
  match v.toInt with
  | .ok i => .ok (clampCode i)
  | .error .infiniteInteger => .error .infiniteInteger
  | .error _ => .ok 1

/-- The text of a line in messages. -/
def lineText : Option Int → Text
  | none => "None"
  | some i => Numeral.ofInt i

/-- The message of a fault: an empty one becomes that of the reason for the conversion to fail, and
one without words the name of the class. -/
def messageOf (kind : Kind) (message : Text) : Text :=
  let message :=
    match kind with
    | .conversion reason line => if message.isEmpty then reason.message (lineText line) else message
    | _ => message
  if message.oneLine.isEmpty then kind.className else message.oneLine

/-- A fault from its parts, where each may be missing. The message comes before the code. -/
def make (kind : Kind) (code : Option Value) (message : Option Text)
    (context : List (Text × Value)) : Except Failure Fault :=
  let message := message.getD kind.defaultMessage
  if kind.isWritable message then do
    let code ← codeOf (code.getD (.int kind.defaultCode))
    return ⟨kind, code, messageOf kind message, context⟩
  else .error .numeralNotWritten

/-- A fatal fault with exit code one. -/
def fatal (message : Text) : Fault := ⟨.fatal, 1, messageOf .fatal message, []⟩

/-- The fault of a rejection. -/
def ofRejection (r : Rejection) : Fault :=
  let kind := Kind.conversion r.reason (r.line.map Int.ofNat)
  ⟨kind, clampCode kind.defaultCode, messageOf kind [], []⟩

def withContext (new : List (Text × Value)) (f : Fault) : Fault :=
  { f with context := putAllNamed new f.context }

/-- The name that a fault itself goes by where its context is added to. -/
def ownName : Text := "self"

/-- Adds to the context, unless one of the names is the fault's own. -/
def addContext (new : List (Text × Value)) (f : Fault) : Except Failure Fault :=
  if new.any fun e => e.1 = ownName then
    .error (.foreign "TypeError"
      "Reg2PsError.with_context() got multiple values for argument 'self'")
  else .ok (f.withContext new)

/-! ## Showing faults -/

/-- The context on one line, in the order of the names. -/
def contextText? (context : List (Text × Value)) : Option Text := do
  let parts ← (sortNamed context).mapM fun (k, v) => do return k ++ "=" ++ (← v.inspect?)
  return (Text.join ", " parts).oneLine

/-- The message, followed by the context if there is any. -/
def userMessage? (f : Fault) : Option Text :=
  if f.context.isEmpty then some f.message
  else do return f.message ++ " [" ++ (← contextText? f.context) ++ "]"

/-- The line on which a fault is shown. -/
def line? (verbosity : Int) (f : Fault) : Option Text :=
  if 1 ≤ verbosity then f.userMessage? else some f.message

/-- The line of the export that a conversion fault is about. -/
def line (f : Fault) : Value :=
  match f.kind with
  | .conversion _ (some i) => .int i
  | _ => .null

/-- A fault as a report. -/
def toValue (f : Fault) : Value :=
  let common : List (Text × Value) :=
    [("type", .text f.kind.className), ("code", .nat f.code), ("message", .text f.message),
      ("context", .object f.context)]
  match f.kind with
  | .conversion .. => .object (common ++ [(Text.ofString "line", f.line)])
  | _ => .object common

end Fault

end HiveScript
