import HiveScript.Encoding.Utf16
import HiveScript.Text.Numeral

/-!
# Data of values

What stands to the right of the equals sign of a value line. Some data are lists of octets: numerals
of base 16 between commas. Pairs of octets, low octet first, are units of UTF-16.

* `Payload.numbers`, `Payload.text`: the numbers of such a list, and its text.
* `Datum.read`: the datum that a line part denotes. Tags are tried in order; what has none is a
  string.
-/

namespace HiveScript

/-! ## Payloads -/

namespace Payload

/-- The number of a token of a list; what is no numeral counts as zero. -/
def tokenValue (token : Text) : Int :=
  match Numeral.read 16 token.trim with
  | .ok i => i
  | .error _ => 0

/-- One number for each token between commas. -/
def numbers (s : Text) : List Int := (s.fields (· = Point.ofChar ',')).map tokenValue

/-- The low octet of a number. -/
def lowOctet (i : Int) : UInt8 := UInt8.ofNat (i % 0x100).toNat

/-- The text of pairs of numbers, taken modulo 256; a single number at the end is dropped. -/
def pairText (ns : List Int) : Text := Utf16.decode (ns.map lowOctet)

/-- The text of a payload. -/
def text (s : Text) : Text := pairText (numbers s)

end Payload

/-! ## Types -/

/-- The types of registry values that a script sets. -/
inductive PropertyType where
  | string
  | expandString
  | multiString
  | dword
  | binary
  deriving DecidableEq

namespace PropertyType

def all : List PropertyType := [string, expandString, multiString, dword, binary]

/-- The name of a type in a script. -/
def name : PropertyType → Text
  | string => "String"
  | expandString => "ExpandString"
  | multiString => "MultiString"
  | dword => "DWord"
  | binary => "Binary"

end PropertyType

/-- The datum of a registry value. -/
inductive Datum where
  | string (s : Text)
  | expandString (s : Text)
  | multiString (items : List Text)
  | dword (n : Nat)
  | binary (digits : Text)
  deriving DecidableEq

namespace Datum

def type : Datum → PropertyType
  | string _ => .string
  | expandString _ => .expandString
  | multiString _ => .multiString
  | dword _ => .dword
  | binary _ => .binary

/-- Why a line part denotes no datum that can be written. -/
inductive Error where
  /-- The number is not one or more hexadecimal digits. -/
  | invalidDword
  /-- The decimal numeral has more than `Numeral.maxDigits` digits. -/
  | numeralTooLong
  deriving DecidableEq

/-! ## The parts of a value line -/

/-- Takes one quotation mark off the left end. -/
def dropOpenQuote (s : Text) : Text := (Text.after? [Point.quotationMark] s).getD s

/-- Takes one quotation mark off the right end. -/
def dropCloseQuote (s : Text) : Text :=
  if s.getLast? = some Point.quotationMark then s.dropLast else s

/-- Takes one quotation mark off each end, where there is one. -/
def unquote (s : Text) : Text := dropCloseQuote (dropOpenQuote s)

/-- The number of a hexadecimal numeral of any length. -/
def readDword (s : Text) : Except Error Nat :=
  if s.isEmpty || !s.all Point.isHexDigit then .error .invalidDword
  else
    let n := Numeral.ofDigits 16 (s.map fun p => p.digit?.getD 0)
    if n < Numeral.limit then .ok n else .error .numeralTooLong

/-- The non-empty items between the null points of a text. -/
def items (s : Text) : List Text := (s.fields (· = Point.nul)).filter fun w => !w.isEmpty

/-- The datum of a line part. -/
def read (s : Text) : Except Error Datum :=
  if let some rest := Text.after? "dword:" s then dword <$> readDword rest
  else if let some rest := Text.after? "hex(7):" s then
    .ok (multiString (items (Payload.text rest)))
  else if let some rest := Text.after? "hex(2):" s then
    .ok (expandString ((Payload.text rest).filter (· ≠ Point.nul)))
  else if let some rest := Text.after? "hex:" s then
    .ok (binary (rest.filter (· ≠ Point.ofChar ',')))
  else if s.head? = some Point.quotationMark ∧ s.getLast? = some Point.quotationMark then
    .ok (string (unquote s))
  else .ok (string s)

end Datum

end HiveScript
