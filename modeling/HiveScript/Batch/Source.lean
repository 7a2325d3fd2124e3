import HiveScript.Encoding.Export
import HiveScript.Log.Setup
import HiveScript.Options.Settings

/-!
# Sources

What a batch converts: the standard input, or a file. Settings may hold values that are neither;
such a source cannot be read.

* `Source`, `Settings.sources`: the sources that settings name.
* `Run.readSource`: the text of a source.
-/

namespace HiveScript

/-- Something to convert. -/
inductive Source where
  | standardInput
  | file (path : Text)
  /-- A value that is no path. -/
  | unfit (v : Value)

namespace Source

/-- The name of the standard input. -/
def hyphenName : Text := "-"

def ofText (s : Text) : Source := if s = hyphenName then standardInput else file s

def ofValue : Value → Source
  | .text s => ofText s
  | v => unfit v

def isStandardInput : Source → Bool
  | standardInput => true
  | _ => false

def toValue : Source → Value
  | standardInput => .text hyphenName
  | file path => .text path
  | unfit v => v

/-- The name of a script, without its extension. -/
def stem : Source → Except Failure Text
  | standardInput => .ok "stdin"
  | file path => .ok (Path.ofText path).stem
  | unfit v => .error (.notPath v.shortTypeName)

end Source

/-- The items that go through a value one by one. -/
def Value.items : Value → Except Failure (List Value)
  | .list vs => .ok vs
  | .map es => .ok (es.map fun e => .scalar e.1)
  | .text s => .ok (s.map fun p => .text [p])
  | v => .error (.notIterable v.typeName)

/-- The sources that settings name; without any, the standard input. -/
def Settings.sources (s : Settings) : Except Failure (List Source) :=
  let v := s.get "inputs"
  if v.isTrue then do return (← v.items).map .ofValue else .ok [.standardInput]

namespace Run

/-- The name of a source in messages. -/
def sourceName (s : Source) : Run Text := display s.toValue

/-- What stands ready on the standard input, of which then nothing is left. -/
def readInput : Run Text := do
  let w ← get
  match w.input with
  | .octets bs =>
    set { w with input := .octets [] }
    return decodeExport bs
  | .text s =>
    set { w with input := .text [] }
    return s
  | .interrupted => throw .interrupt

/-- The text of an export in a file. -/
def readExport (path : Path) : Run Text := do return decodeExport (← readFile path.text)

/-- Ends with a message when the file system refuses what a block does. -/
def dieOnRefusal (lead : Text) (body : Run α) : Run α :=
  tryCatch body fun stop =>
    match stop with
    | .failure (.file e) => die (lead ++ ": " ++ e.message)
    | _ => throw stop

/-- The text of a source. -/
def readSource : Source → Run Text
  | .standardInput => readInput
  | .file path => dieOnRefusal ("Cannot read " ++ path) (readExport (.ofText path))
  | .unfit v => throw (.failure (.notPath v.shortTypeName))

end Run

end HiveScript
