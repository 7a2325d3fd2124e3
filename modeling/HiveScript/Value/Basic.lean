import HiveScript.Binary64.Basic
import HiveScript.Calendar.DateTime

/-!
# Values

What settings, contexts and reports are made of. Mappings keep the order in which their keys came.

* `Scalar`, `Value`: values; the keys of a mapping are scalars.
* `Scalar.equals`: equality of keys, where numbers are equal by what they count.
* `Value.isTrue`: the values that count as set.
* `Value.typeName`: the names of types in messages.
-/

namespace HiveScript

/-- A value without parts. -/
inductive Scalar where
  | null
  | bool (b : Bool)
  | int (i : Int)
  | float (x : Binary64)
  | text (s : Text)
  | date (d : Date)
  | dateTime (t : DateTime)
  deriving DecidableEq

/-- A value. -/
inductive Value where
  | scalar (s : Scalar)
  | list (items : List Value)
  | map (entries : List (Scalar × Value))

/-- The entries of a mapping. -/
abbrev Entries := List (Scalar × Value)

/-! ## Scalars -/

namespace Scalar

/-- The integer that a truth value counts as. -/
def ofBool (b : Bool) : Int := if b then 1 else 0

/-- The integer that a scalar is, truth values included. -/
def int? : Scalar → Option Int
  | bool b => some (ofBool b)
  | int i => some i
  | _ => none

/-- The number that a scalar counts as, exactly. -/
def number? : Scalar → Option (Int ⊕ Binary64)
  | float x => some (.inr x)
  | s => s.int?.map .inl

/-- Equality of keys: `1`, `1.0` and true are one key, and what is no number is one key too. -/
def equals (a b : Scalar) : Bool :=
  match a, b with
  | float x, float y => x.equals y || x = .nan && y = .nan
  | dateTime s, dateTime t => s.equals t
  | float x, b => b.int?.any x.equalsInt
  | a, float y => a.int?.any y.equalsInt
  | a, b =>
    match a.int?, b.int? with
    | some i, some j => i = j
    | none, none => a = b
    | _, _ => false

def isTrue : Scalar → Bool
  | null => false
  | bool b => b
  | int i => i ≠ 0
  | float x => !x.isZero
  | text s => !s.isEmpty
  | date _ => true
  | dateTime _ => true

/-- The name of the type of a scalar. -/
def typeName : Scalar → Text
  | null => "NoneType"
  | bool _ => "bool"
  | int _ => "int"
  | float _ => "float"
  | text _ => "str"
  | date _ => "datetime.date"
  | dateTime _ => "datetime.datetime"

end Scalar

/-! ## Values -/

namespace Value

@[match_pattern] abbrev null : Value := scalar .null
@[match_pattern] abbrev bool (b : Bool) : Value := scalar (.bool b)
@[match_pattern] abbrev int (i : Int) : Value := scalar (.int i)
@[match_pattern] abbrev float (x : Binary64) : Value := scalar (.float x)
@[match_pattern] abbrev text (s : Text) : Value := scalar (.text s)
@[match_pattern] abbrev date (d : Date) : Value := scalar (.date d)
@[match_pattern] abbrev dateTime (t : DateTime) : Value := scalar (.dateTime t)

instance : Inhabited Value := ⟨null⟩

def nat (n : Nat) : Value := int n

def ofOption (v : Option Value) : Value := v.getD null

/-- A list of texts. -/
def texts (ss : List Text) : Value := list (ss.map text)

/-- A mapping whose keys are texts. -/
def object (fields : List (Text × Value)) : Value := map (fields.map fun (k, v) => (.text k, v))

/-- The value counts as set. -/
def isTrue : Value → Bool
  | scalar s => s.isTrue
  | list items => !items.isEmpty
  | map entries => !entries.isEmpty

/-- The value is there and is not a blank text. -/
def isPresent : Value → Bool
  | null => false
  | text s => !s.isBlank
  | _ => true

/-- The name of the type of a value. -/
def typeName : Value → Text
  | scalar s => s.typeName
  | list _ => "list"
  | map _ => "dict"

/-- The last part of the name of a type. -/
def shortTypeName (v : Value) : Text :=
  match v with
  | date _ => "date"
  | dateTime _ => "datetime"
  | v => v.typeName

end Value

/-! ## Mappings -/

namespace Entries

def find? (k : Scalar) (es : Entries) : Option Value :=
  (List.find? (fun e => e.1.equals k) es).map (·.2)

/-- The value of a key that is a text. -/
def get? (k : Text) (es : Entries) : Option Value := find? (.text k) es

/-- Puts a value under a key: in the place of the key if it is there, and at the end otherwise. -/
def put (k : Scalar) (v : Value) : Entries → Entries
  | [] => [(k, v)]
  | e :: es => if e.1.equals k then (e.1, v) :: es else e :: put k v es

/-- A mapping of entries in order, of which later ones go over earlier ones. -/
def ofList (es : List (Scalar × Value)) : Entries := es.foldl (fun m e => put e.1 e.2 m) []

end Entries

end HiveScript
