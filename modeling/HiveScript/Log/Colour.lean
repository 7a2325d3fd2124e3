import HiveScript.Fault.Failure

/-!
# Colours

Text between the sequences that set and reset colours and attributes of a terminal.

* `Colour.apply`: text in a colour; later attributes stand farther out.
-/

namespace HiveScript

/-- The colours that have names, with their numbers. -/
def colourNumbers : List (String × Nat) := [
    ("black", 30), ("grey", 30), ("red", 31), ("green", 32), ("yellow", 33), ("blue", 34),
    ("magenta", 35), ("cyan", 36), ("light_grey", 37), ("dark_grey", 90), ("light_red", 91),
    ("light_green", 92), ("light_yellow", 93), ("light_blue", 94), ("light_magenta", 95),
    ("light_cyan", 96), ("white", 97)]

/-- The attributes that have names, with their numbers. -/
def attributeNumbers : List (String × Nat) := [
    ("bold", 1), ("dark", 2), ("italic", 3), ("underline", 4), ("blink", 5), ("reverse", 7),
    ("concealed", 8), ("strike", 9)]

/-- The number of a style. -/
def styleNumber (styles : List (String × Nat)) (name : Text) : Except Failure Nat :=
  match styles.find? fun s => name = Text.ofString s.1 with
  | some s => .ok s.2
  | none => .error (.unknownName name)

/-- The point that begins a control sequence. -/
def escapePoint : Point := 0x1B

/-- The sequence that sets a style. -/
def styleSequence (n : Nat) : Text := escapePoint :: "[" ++ Numeral.decimal n ++ "m"

/-- Text with styles around it, if it is to be coloured and a colour is given. -/
def coloured (enable : Bool) (colour : Option Text) (attributes : List Text) (s : Text) :
    Except Failure Text :=
  match colour with
  | none | some [] => .ok s
  | some name =>
    if enable then do
      let n ← styleNumber colourNumbers name
      let as ← attributes.mapM (styleNumber attributeNumbers)
      return (as.reverse.map styleSequence).flatten ++ styleSequence n ++ s ++ styleSequence 0
    else .ok s

/-- Text with the styles of numbers around it, if it is to be coloured. -/
def paint (enable : Bool) (colour : Option Nat) (bold : Bool) (s : Text) : Text :=
  match enable, colour with
  | true, some n =>
    (if bold then styleSequence 1 else []) ++ styleSequence n ++ s ++ styleSequence 0
  | _, _ => s

end HiveScript
