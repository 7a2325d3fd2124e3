import HiveScript.Text.Numeral

/-!
# Binary floating point numbers

Numbers with 53 binary digits, as settings may hold them. Arithmetic is exact, followed by rounding
to the nearest number, of two equally near ones to the even one.

* `Binary64.ofRatio`: the number nearest to a quotient.
* `Binary64.ofDecimal`: the number nearest to a decimal fraction.
* `Binary64.add`, `Binary64.mul`: rounded sums and products.
* `Binary64.truncate?`: the integer part.
* `Binary64.read?`: the number of a text.
-/

namespace HiveScript

/-- A number `± significand * 2 ^ exponent`. A significand has at most 53 binary digits, and 53 of
them unless the exponent is the least one. -/
inductive Binary64 where
  | nan
  | infinite (negative : Bool)
  | finite (negative : Bool) (significand : Nat) (exponent : Int)
  deriving DecidableEq

namespace Binary64

/-- A power of two. -/
def twoTo (n : Nat) : Nat := Nat.pow 2 n

/-- A power of ten. -/
def tenTo (n : Nat) : Nat := Nat.pow 10 n

/-- The binary digits of a significand. -/
def precision : Nat := 53

/-- The exponent of the least positive number. -/
def leastExponent : Int := -1074

/-- The exponent of the greatest number. -/
def greatestExponent : Int := 971

def zero (negative : Bool) : Binary64 := finite negative 0 leastExponent

/-- The nearest integer to a quotient, of two equally near ones the even one. -/
def roundQuotient (num den : Nat) : Nat :=
  let q := num / den
  let r := num % den
  if 2 * r < den then q
  else if den < 2 * r then q + 1
  else if q % 2 = 0 then q else q + 1

/-- A significand that rounding may have carried to one digit more, and infinity beyond range. -/
def pack (negative : Bool) (significand : Nat) (exponent : Int) : Binary64 :=
  let (m, e) :=
    if significand = twoTo precision then (twoTo (precision - 1), exponent + 1)
    else (significand, exponent)
  if greatestExponent < e then infinite negative else finite negative m e

/-- The exponent at which the quotient has `precision` binary digits before the point. -/
def exponentFor (num den : Nat) : Int :=
  let guess : Int := (num.log2 : Int) - den.log2 - (precision - 1)
  let scaled : Nat × Nat :=
    if 0 ≤ guess then (num, den * twoTo guess.toNat) else (num * twoTo (-guess).toNat, den)
  if scaled.1 < twoTo (precision - 1) * scaled.2 then guess - 1 else guess

/-- The number nearest to `± num / den`. -/
def ofRatio (negative : Bool) (num den : Nat) : Binary64 :=
  if num = 0 then zero negative
  else
    let e := max (exponentFor num den) leastExponent
    let m :=
      if 0 ≤ e then roundQuotient num (den * twoTo e.toNat)
      else roundQuotient (num * twoTo (-e).toNat) den
    pack negative m e

/-- The number nearest to `± significand * 10 ^ exponent`. What is far out of range is not computed:
the binary digits of the significand tell a power of ten that it reaches, and one that it does
not. -/
def ofDecimal (negative : Bool) (significand : Nat) (exponent : Int) : Binary64 :=
  let size : Int := significand.log2
  if significand = 0 then zero negative
  else if 400 ≤ exponent + 3 * size / 10 then infinite negative
  else if exponent + (size + 1) / 3 + 1 < -400 then zero negative
  else if 0 ≤ exponent then ofRatio negative (significand * tenTo exponent.toNat) 1
  else ofRatio negative significand (tenTo (-exponent).toNat)

/-- The number nearest to an integer, infinite beyond range. -/
def ofInt (i : Int) : Binary64 := ofRatio (decide (i < 0)) i.natAbs 1

/-- The number nearest to an integer, if it is in range. -/
def ofInt? (i : Int) : Option Binary64 :=
  match ofInt i with
  | infinite _ => none
  | x => some x

/-- A signed multiple of a power of two, rounded; `zeroSign` is the sign of a sum of nothing. -/
def ofScaled (zeroSign : Bool) (m : Int) (e : Int) : Binary64 :=
  if m = 0 then zero zeroSign
  else if 0 ≤ e then ofRatio (m < 0) (m.natAbs * twoTo e.toNat) 1
  else ofRatio (m < 0) m.natAbs (twoTo (-e).toNat)

/-- The significand with its sign. -/
def signed (negative : Bool) (m : Nat) : Int := if negative then -(m : Int) else m

def add : Binary64 → Binary64 → Binary64
  | nan, _ => nan
  | _, nan => nan
  | infinite a, infinite b => if a = b then infinite a else nan
  | infinite a, _ => infinite a
  | _, infinite b => infinite b
  | finite a m e, finite b n f =>
    let low := min e f
    let sum := signed a (m * twoTo (e - low).toNat) + signed b (n * twoTo (f - low).toNat)
    ofScaled (a && b) sum low

def mul : Binary64 → Binary64 → Binary64
  | nan, _ => nan
  | _, nan => nan
  | infinite a, infinite b => infinite (a != b)
  | infinite a, finite b n _ => if n = 0 then nan else infinite (a != b)
  | finite a m _, infinite b => if m = 0 then nan else infinite (a != b)
  | finite a m e, finite b n f => ofScaled (a != b) (signed (a != b) (m * n)) (e + f)

def negate : Binary64 → Binary64
  | nan => nan
  | infinite a => infinite !a
  | finite a m e => finite (!a) m e

/-- The integer part; what is no number or infinite has none. -/
def truncate? : Binary64 → Option Int
  | finite a m e =>
    some (signed a (if 0 ≤ e then m * twoTo e.toNat else m / twoTo (-e).toNat))
  | _ => none

def isZero : Binary64 → Bool
  | finite _ m _ => m = 0
  | _ => false

/-- The number is this integer. -/
def equalsInt (x : Binary64) (i : Int) : Bool :=
  match x with
  | finite a m e =>
    if 0 ≤ e then signed a (m * twoTo e.toNat) = i
    else signed a m = i * twoTo (-e).toNat
  | _ => false

/-- Equality of numbers: zeros of either sign are equal, and what is no number equals nothing. -/
def equals : Binary64 → Binary64 → Bool
  | infinite a, infinite b => a = b
  | finite a m e, finite b n f =>
    let low := min e f
    signed a (m * twoTo (e - low).toNat) = signed b (n * twoTo (f - low).toNat)
  | _, _ => false

/-- The order of numbers; what is no number is below nothing. -/
def less : Binary64 → Binary64 → Bool
  | nan, _ => false
  | _, nan => false
  | infinite a, infinite b => a && !b
  | infinite a, finite .. => a
  | finite .., infinite b => !b
  | finite a m e, finite b n f =>
    let low := min e f
    signed a (m * twoTo (e - low).toNat) < signed b (n * twoTo (f - low).toNat)

/-! ## Reading

Numbers in decimal notation: a sign, digits of any script with or without a point, and an exponent.
Blanks around the number are skipped, and words stand for infinity and for what is no number. -/

/-- The words that stand for numbers, in small letters. -/
def words : List (String × Binary64) :=
  [("inf", infinite false), ("infinity", infinite false), ("nan", nan)]

/-- The number of a word in small or capital letters. -/
def word? (s : Text) : Option Binary64 :=
  let isSame (p q : Point) : Bool :=
    p = q || 0x41 ≤ p.val && p.val ≤ 0x5A && p.val + 0x20 = q.val
  let isWord (w : Text) : Bool := s.length = w.length && (s.zip w).all fun (p, q) => isSame p q
  (words.find? fun w => isWord (Text.ofString w.1)).map (·.2)

/-- The values of the digits at the beginning of a text, and what follows them. -/
def spanDigits (s : Text) : List Nat × Text :=
  let isDigit (p : Point) : Bool := p.decimalDigit?.isSome
  ((s.takeWhile isDigit).filterMap Point.decimalDigit?, s.dropWhile isDigit)

/-- The exponent that ends a number; without one it is zero. -/
def readExponent? : Text → Option Int
  | [] => some 0
  | e :: s =>
    if e = Point.ofChar 'e' ∨ e = Point.ofChar 'E' then
      let (negative, s) := Numeral.readSign s
      let (ds, rest) := spanDigits s
      if ds.isEmpty || !rest.isEmpty then none
      else some (signed negative (Numeral.ofDigits 10 ds))
    else none

/-- The number of digits, a point and an exponent. -/
def readDigits? (negative : Bool) (s : Text) : Option Binary64 := do
  let (whole, rest) := spanDigits s
  let (part, rest) :=
    match Text.after? "." rest with
    | some rest => spanDigits rest
    | none => ([], rest)
  if whole.isEmpty && part.isEmpty then none
  else
    let n := Numeral.ofDigits 10 (whole ++ part)
    return ofDecimal negative n ((← readExponent? rest) - part.length)

/-- The number of a text. -/
def read? (s : Text) : Option Binary64 :=
  let (negative, t) := Numeral.readSign (s.trimBy Numeral.isMargin)
  match word? t with
  | some x => some (if negative then x.negate else x)
  | none => readDigits? negative t

end Binary64

end HiveScript
