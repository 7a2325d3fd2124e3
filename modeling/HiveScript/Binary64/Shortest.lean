import HiveScript.Binary64.Basic

/-!
# Decimal text of binary floating point numbers

A number is written with the fewest decimal digits that read back as the same number, and of the
texts with as many digits with the nearest one. It is written positionally from a ten-thousandth on
and below ten to the sixteenth, and with an exponent otherwise.

* `Binary64.shortest`: the digits and the decimal exponent.
* `Binary64.text`: the text.
-/

namespace HiveScript.Binary64

/-- The reals that round to a positive number, as a numerator over `den`. -/
structure Interval where
  low : Nat
  value : Nat
  high : Nat
  den : Nat
  /-- The ends belong to it. -/
  closed : Bool

/-- The interval of `significand * 2 ^ exponent`. -/
def interval (significand : Nat) (exponent : Int) : Interval :=
  let below :=
    if significand = twoTo (precision - 1) ∧ leastExponent < exponent then 1 else 2
  let (unit, den) : Nat × Nat :=
    if 2 ≤ exponent then (twoTo (exponent - 2).toNat, 1) else (1, twoTo (2 - exponent).toNat)
  { low := (4 * significand - below) * unit
    value := 4 * significand * unit
    high := (4 * significand + 2) * unit
    den
    closed := significand % 2 = 0 }

/-- The interval holds `n * 10 ^ place`. -/
def Interval.holds (i : Interval) (n : Nat) (place : Int) : Bool :=
  let (x, scale) : Nat × Nat :=
    if 0 ≤ place then (n * tenTo place.toNat * i.den, 1) else (n * i.den, tenTo (-place).toNat)
  if i.closed then i.low * scale ≤ x && x ≤ i.high * scale
  else i.low * scale < x && x < i.high * scale

/-- The quotient of the value by `10 ^ place`, as numerator and denominator. -/
def Interval.quotient (i : Interval) (place : Int) : Nat × Nat :=
  if 0 ≤ place then (i.value, i.den * tenTo place.toNat)
  else (i.value * tenTo (-place).toNat, i.den)

/-- The multiple of `10 ^ place` in the interval that is nearest to the value. -/
def Interval.pick? (i : Interval) (place : Int) : Option Nat :=
  let (num, den) := i.quotient place
  let q := num / den
  match i.holds q place && 0 < q, i.holds (q + 1) place with
  | true, true => some (roundQuotient num den)
  | true, false => some q
  | false, true => some (q + 1)
  | false, false => none

/-- The number of decimal digits before the point, negative for zeros after it: an estimate from
the binary digits, raised as long as the value is not below that power of ten. -/
def Interval.magnitude (i : Interval) : Nat → Int → Int
  | 0, p => p
  | fuel + 1, p =>
    let (num, den) := i.quotient p
    if den ≤ num then i.magnitude fuel (p + 1) else p

/-- An estimate that is never too great. -/
def Interval.estimate (i : Interval) : Int :=
  ((i.value.log2 : Int) - i.den.log2 - 1) * 30103 / 100000 - 1

/-- The first place, from high to low, at which the interval holds a multiple. -/
def Interval.search (i : Interval) : Nat → Int → Nat × Int
  | 0, place => (roundQuotient (i.quotient place).1 (i.quotient place).2, place)
  | fuel + 1, place =>
    match i.pick? place with
    | some n => (n, place)
    | none => i.search fuel (place - 1)

/-- The shortest significand that reads back, and the power of ten it is multiplied by. -/
def shortest (significand : Nat) (exponent : Int) : Nat × Int :=
  let i := interval significand exponent
  i.search 20 (i.magnitude 8 i.estimate - 1)

/-- Takes zeros off the end of some digits; the first digit stays. -/
def dropZeros (ds : Text) : Text :=
  match (ds.reverse.dropWhile (· = Point.ofDigit 0)).reverse with
  | [] => [Point.ofDigit 0]
  | ds => ds

/-- The text of digits whose point stands after the first `point` of them. -/
def positional (ds : Text) (point : Int) : Text :=
  if point ≤ 0 then "0." ++ List.replicate (-point).toNat (Point.ofDigit 0) ++ ds
  else
    let whole := ds.take point.toNat
    let part := ds.drop point.toNat
    Text.padRight point.toNat (Point.ofDigit 0) whole ++ "." ++
      (if part.isEmpty then [Point.ofDigit 0] else part)

/-- The text of digits with an exponent of at least two digits. -/
def scientific (ds : Text) (exponent : Int) : Text :=
  let mantissa : Text :=
    match ds with
    | [] => []
    | [d] => [d]
    | d :: part => d :: Point.ofChar '.' :: part
  mantissa ++ (if exponent < 0 then "e-" else "e+") ++ Numeral.padded 10 2 exponent.natAbs

/-- The text of a number, with given texts of what is no number and of infinity. -/
def textWith (nanText infinityText : Text) : Binary64 → Text
  | nan => nanText
  | infinite negative => (if negative then "-" else "") ++ infinityText
  | finite negative m e =>
    let digits : Text :=
      if m = 0 then "0.0"
      else
        let (n, place) := shortest m e
        let all := Numeral.decimal n
        let point : Int := all.length + place
        if -4 < point ∧ point ≤ 16 then positional (dropZeros all) point
        else scientific (dropZeros all) (point - 1)
    (if negative then "-" else "") ++ digits

def text : Binary64 → Text := textWith "nan" "inf"

end HiveScript.Binary64
