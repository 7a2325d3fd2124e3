import HiveScript.Text.Blank

/-!
# Numerals

Integers written in a base. Reading is liberal: blanks around the numeral, a sign, decimal digits
of any script, and single low lines between digits. Decimal numerals of more than `maxDigits`
digits are neither read nor written.

* `Numeral.read`: the integer that a text denotes in a base.
* `Numeral.decimal`, `Numeral.ofInt`: the canonical decimal numeral.
-/

namespace HiveScript

/-- The zeros of Unicode 14; the other decimal digits follow each of them in order. -/
def decimalZeros : List Nat := [
    0x30, 0x660, 0x6F0, 0x7C0, 0x966, 0x9E6, 0xA66, 0xAE6, 0xB66, 0xBE6, 0xC66, 0xCE6, 0xD66,
    0xDE6, 0xE50, 0xED0, 0xF20, 0x1040, 0x1090, 0x17E0, 0x1810, 0x1946, 0x19D0, 0x1A80, 0x1A90,
    0x1B50, 0x1BB0, 0x1C40, 0x1C50, 0xA620, 0xA8D0, 0xA900, 0xA9D0, 0xA9F0, 0xAA50, 0xABF0,
    0xFF10, 0x104A0, 0x10D30, 0x11066, 0x110F0, 0x11136, 0x111D0, 0x112F0, 0x11450, 0x114D0,
    0x11650, 0x116C0, 0x11730, 0x118E0, 0x11950, 0x11C50, 0x11D50, 0x11DA0, 0x16A60, 0x16AC0,
    0x16B50, 0x1D7CE, 0x1D7D8, 0x1D7E2, 0x1D7EC, 0x1D7F6, 0x1E140, 0x1E2F0, 0x1E950, 0x1FBF0]

/-- The value of a decimal digit of any script. -/
def Point.decimalDigit? (p : Point) : Option Nat :=
  (decimalZeros.find? fun z => z ≤ p.val && p.val ≤ z + 9).map (p.val - ·)

/-- The value of a digit in the bases up to 36, small and capital letters alike. -/
def Point.digit? (p : Point) : Option Nat :=
  if 0x61 ≤ p.val ∧ p.val ≤ 0x7A then some (p.val - 0x61 + 10)
  else if 0x41 ≤ p.val ∧ p.val ≤ 0x5A then some (p.val - 0x41 + 10)
  else p.decimalDigit?

/-- A hexadecimal digit of ASCII. -/
def Point.isHexDigit (p : Point) : Bool :=
  Ranges.has [(0x30, 0x39), (0x41, 0x46), (0x61, 0x66)] p

/-- A decimal digit of ASCII. -/
def Point.isDigit (p : Point) : Bool := Ranges.has [(0x30, 0x39)] p

/-- The digit of a value below 16, in small letters. -/
def Point.ofDigit (d : Nat) : Point :=
  if d < 10 then Point.ofNat (0x30 + d) else Point.ofNat (0x61 + d - 10)

namespace Numeral

/-- The most digits of a decimal numeral that is read or written. -/
def maxDigits : Nat := 4300

/-- The least number whose decimal numeral is too long. -/
def limit : Nat := Nat.pow 10 maxDigits

/-- Why a text denotes no integer. -/
inductive Error where
  | malformed
  | tooLong (digits : Nat)
  deriving DecidableEq

/-- The value of a list of digits, the first one the highest. -/
def ofDigits (base : Nat) (ds : List Nat) : Nat := ds.foldl (fun n d => n * base + d) 0

/-! ## Writing -/

/-- The digits of a number, lowest first; none of zero. -/
def digitsFrom (base : Nat) : Nat → Nat → List Nat
  | 0, _ => []
  | fuel + 1, n => if n = 0 then [] else n % base :: digitsFrom base fuel (n / base)

/-- The numeral of a number, zero as one digit. -/
def write (base n : Nat) : Text :=
  if n = 0 then [Point.ofDigit 0]
  else ((digitsFrom base (Nat.log2 n + 1) n).reverse).map Point.ofDigit

def decimal (n : Nat) : Text := write 10 n

def ofInt (i : Int) : Text :=
  match i with
  | .ofNat n => decimal n
  | .negSucc n => Point.ofChar '-' :: decimal (n + 1)

/-- A numeral of at least `width` digits, filled with zeros. -/
def padded (base width n : Nat) : Text := Text.padLeft width (Point.ofDigit 0) (write base n)

/-! ## Reading -/

/-- The blanks that reading skips: all but the information separators. -/
def isMargin (p : Point) : Bool := p.isBlank && !(0x1C ≤ p.val && p.val ≤ 0x1F)

/-- Reads digits up to the end, a single low line allowed before each but the first. -/
def readDigits (base : Nat) : Text → Option (List Nat)
  | [] => some []
  | p :: s =>
    if p = Point.ofChar '_' then
      match s with
      | [] => none
      | q :: s => do
        let d ← q.digit?
        if d < base then (d :: ·) <$> readDigits base s else none
    else do
      let d ← p.digit?
      if d < base then (d :: ·) <$> readDigits base s else none

/-- Drops the mark of base 16, and the low line that may follow it. -/
def dropMark (base : Nat) : Text → Text
  | p :: q :: s =>
    if base = 16 ∧ p.decimalDigit? = some 0 ∧ (q = Point.ofChar 'x' ∨ q = Point.ofChar 'X') then
      if s.head? = some (Point.ofChar '_') then s.tail else s
    else p :: q :: s
  | s => s

/-- The digits of a numeral without sign; there is at least one. -/
def readBody (base : Nat) (s : Text) : Option (List Nat) :=
  let s := dropMark base s
  if s.head? = some (Point.ofChar '_') then none
  else (readDigits base s).filter fun ds => !ds.isEmpty

/-- The sign of a numeral and what follows it. -/
def readSign : Text → Bool × Text
  | [] => (false, [])
  | p :: s =>
    if p = Point.ofChar '-' then (true, s)
    else if p = Point.ofChar '+' then (false, s)
    else (false, p :: s)

/-- The integer that a text denotes in a base. Only bases that are powers of two have no limit. -/
def read (base : Nat) (s : Text) : Except Error Int :=
  let (negative, s) := readSign (s.trimBy isMargin)
  match readBody base s with
  | none => .error .malformed
  | some ds =>
    if base = 10 ∧ maxDigits < ds.length then .error (.tooLong ds.length)
    else
      let n := ofDigits base ds
      .ok (if negative then -(n : Int) else n)

end Numeral

end HiveScript
