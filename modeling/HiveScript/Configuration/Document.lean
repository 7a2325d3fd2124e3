import HiveScript.Encoding.Utf8
import HiveScript.Fault.Failure
import HiveScript.Json.Reader
import HiveScript.Text.Line
import HiveScript.Text.Lowercase
import HiveScript.Yaml.Reader

/-!
# Configuration documents

A configuration is a mapping, written as JSON or as YAML. The name of its file tells which; if it
does not, the text is read as JSON if it is that, and as YAML otherwise.

* `Configuration.parse`: the entries of a document.
* `Configuration.Problem`: why there are none.
-/

namespace HiveScript.Configuration

/-- How a document is written. -/
inductive Form where
  | json
  | yaml
  | either
  deriving DecidableEq

/-- The extensions that files of configurations have in a directory, and what they say. -/
def extensions : List (String × Form) := [(".yaml", .yaml), (".yml", .yaml), (".json", .json)]

/-- The form that an extension says, in capital or small letters. -/
def formOf? (extension : Text) : Option Form :=
  (extensions.find? fun e => extension.lowercase = Text.ofString e.1).map (·.2)

/-! ## Problems -/

/-- Why a document is no configuration. -/
inductive Problem where
  | json (document : Text) (cause : Json.Cause) (left : Nat)
  | yaml (document : Text) (p : Yaml.Problem)
  | failure (f : Failure)
  | notMapping
  deriving DecidableEq

namespace Problem

def message : Problem → Text
  | json document cause left => Json.ReadError.placeMessage document cause left
  | yaml document p => p.message document
  | failure f => f.message
  | notMapping => "top-level config must be a mapping/object (dict)"

/-- The failure that nobody expects of a document: all but those of values that are wrong. -/
def unexpected? (p : Problem) : Option Failure :=
  let of (f : Failure) : Option Failure := if f.isOfValue then none else some f
  match p with
  | yaml _ (.failure f) | failure f => of f
  | _ => none

end Problem

/-! ## Reading -/

/-- What is told of a JSON text that is too deep. -/
def jsonActivity (isArray : Bool) : Text :=
  " while decoding a JSON " ++ (if isArray then "array" else "object") ++ " from a unicode string"

/-- The value of a JSON text. -/
def parseJson (s : Text) : Except Problem Value :=
  match Json.read s with
  | .ok v => .ok v
  | .error (.malformed cause left) => .error (.json s cause left)
  | .error (.numeralTooLong digits) => .error (.failure (.numeralTooLong digits))
  | .error (.tooDeep isArray) => .error (.failure (.tooDeep (jsonActivity isArray)))

/-- The value of a YAML text. -/
def parseYaml (s : Text) : Except Problem Value := (Yaml.read s).mapError (.yaml s)

/-- The value of a text in some form. -/
def parseValue (form : Form) (s : Text) : Except Problem Value :=
  match form with
  | .json => parseJson s
  | .yaml => parseYaml s
  | .either =>
    match parseJson s with
    | .error (.json ..) => parseYaml s
    | r => r

/-- The entries of a value; null has none. -/
def entriesOf : Value → Except Problem Entries
  | .null => .ok []
  | .map es => .ok es
  | _ => .error .notMapping

/-- The entries of the octets of a document. -/
def parse (form : Form) (bs : Bytes) : Except Problem Entries :=
  parseValue form (Utf8.decodeLossy bs).unifyBreaks >>= entriesOf

end HiveScript.Configuration
