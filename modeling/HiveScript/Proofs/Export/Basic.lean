import HiveScript.Proofs.Conversion.Step
import HiveScript.Proofs.Registry.Payload
import HiveScript.Proofs.Text.Lines

/-!
# Exports

What an export is before it is a text, how it is written, and what its script is. The parts carry
what is asked of them, so every export can be written.

* `WideText`, `Content`, `Entry`, `Section`: the parts of an export.
* `Style`: the choices that are left when an export is written.
* `Export.write`: the text of an export.
* `Export.script`: its script, put together section by section.
-/

namespace HiveScript

namespace Export

/-! ## Parts -/

/-- A text that a payload can hold. -/
structure WideText where
  points : Text
  nulFree : Point.nul ∉ points
  unpaired : Utf16.Unpaired points

/-- The content of a value. -/
inductive Content where
  | string (s : Text) (oneLine : Point.lineFeed ∉ s)
  | dword (n : UInt32)
  | expandString (s : WideText)
  | multiString (items : List WideText) (nonempty : ∀ w ∈ items, w.points ≠ [])
  | binary (bs : Bytes)

/-- A value with its name. -/
structure Entry where
  name : Text
  oneLine : Point.lineFeed ∉ name
  noEquals : Point.ofChar '=' ∉ name
  content : Content

/-- A key with its values. -/
structure Section where
  hive : Hive
  suffix : Text
  oneLine : Point.lineFeed ∉ suffix
  entries : List Entry

/-! ## Writing -/

/-- Whether digits are capital letters, and how each line ends. -/
structure Style where
  capital : Bool
  ends : Nat → LineEnd

variable (capital : Bool)

/-- The octets of a text with a null point at its end. -/
def closedOctets (s : Text) : Bytes := Utf16.encode .lowFirst (s ++ [Point.nul])

/-- What a content is as a part of its line. -/
def Content.text : Content → Text
  | string s _ => Script.doubleQuoted s
  | dword n => Datum.dwordTag ++ Numeral.hexDigits capital 8 n.toNat
  | expandString s =>
    Datum.expandStringTag ++ Payload.write capital (closedOctets s.points)
  | multiString items _ =>
    Datum.multiStringTag ++ Payload.write capital
      (closedOctets (items.flatMap fun w => w.points ++ [Point.nul]))
  | binary bs => Datum.binaryTag ++ Payload.write capital bs

def Entry.line (e : Entry) : Text :=
  Script.doubleQuoted e.name ++ Point.ofChar '=' :: e.content.text capital

def Section.lines (s : Section) : List Text :=
  Conversion.headerLine (s.hive.name ++ s.suffix) :: s.entries.map (Entry.line capital)

/-- The first line of an export. -/
def bannerLine : Text := banner ++ " Version 5.00"

/-! ## Scripts -/

/-- What a content is for a script. Octets stay as they are written. -/
def Content.datum : Content → Datum
  | string s _ => .string s
  | dword n => .dword n.toNat
  | expandString s => .expandString s.points
  | multiString items _ => .multiString (items.map WideText.points)
  | binary bs => .binary (bs.flatMap (Payload.numeral capital))

def Section.path (s : Section) : Text := s.hive.drive ++ s.suffix

def Section.script (s : Section) : List Text :=
  Script.newItem s.path :: s.entries.map fun e =>
    Script.setItemProperty s.path e.name (e.content.datum capital).literal
      (e.content.datum capital).type

end Export

/-- The sections of an export. -/
abbrev Export := List Export.Section

namespace Export

def lines (capital : Bool) (e : Export) : List Text :=
  bannerLine :: [] :: e.flatMap (Section.lines capital)

/-- The text of an export. -/
def write (style : Style) (e : Export) : Text := Text.unlines style.ends (lines style.capital e)

/-- The script of an export. -/
def script (capital : Bool) (e : Export) : Text :=
  (e.flatMap (Section.script capital)).flatMap (· ++ [Point.lineFeed])

end Export

end HiveScript
