import HiveScript.Binary64.Shortest

/-!
# Decimal text with a chosen number of digits

A number is rounded to a number of digits, to the nearest decimal and of two equally near ones to
the even one, and written in one of three layouts.

* `Binary64.rounded`: the digits and the power of ten of the first one.
* `Binary64.roundedText`: the text.
-/

namespace HiveScript.Binary64

/-- How rounded numbers are laid out. -/
inductive Layout where
  /-- Positionally, with a number of digits after the point. -/
  | fixed
  /-- With an exponent, and a number of digits after the point. -/
  | scientific
  /-- With a number of digits in all: positionally if the exponent is small, and with an exponent
  otherwise. Zeros at the end are left out. -/
  | general
  deriving DecidableEq

/-- The multiple of `10 ^ place` that is nearest to `significand * 2 ^ exponent`, counted in units
of that power. -/
def multiple (significand : Nat) (exponent place : Int) : Nat :=
  let (num, den) := (interval significand exponent).quotient place
  roundQuotient num den

/-- The number of `count` digits, at least one, to which a number is rounded, and the power of ten
of its first digit. -/
def rounded (count significand : Nat) (exponent : Int) : Nat × Int :=
  if significand = 0 then (0, 0)
  else
    let i := interval significand exponent
    let top := i.magnitude 8 i.estimate - 1
    let n := multiple significand exponent (top - (count - 1 : Nat))
    if n = tenTo count then (tenTo (count - 1), top + 1) else (n, top)

/-- A number of units of `10 ^ -places`. A point without digits after it is written if `point`. -/
def withPlaces (point : Bool) (places n : Nat) : Text :=
  let ds := Numeral.padded 10 (places + 1) n
  let whole := ds.take (ds.length - places)
  if places = 0 then (if point then whole ++ "." else whole)
  else whole ++ "." ++ ds.drop (ds.length - places)

/-- Leaves out the zeros at the end of a fraction, and its point if nothing follows it. -/
def dropFraction (s : Text) : Text :=
  if s.contains (Point.ofChar '.') then
    let s := s.reverse.dropWhile (· = Point.ofDigit 0)
    (if s.head? = some (Point.ofChar '.') then s.tail else s).reverse
  else s

/-- An exponent of at least two digits, with its sign. -/
def exponentText (exponent : Int) : Text :=
  (if exponent < 0 then "e-" else "e+") ++ Numeral.padded 10 2 exponent.natAbs

/-- The text of `significand * 2 ^ exponent`. If `full`, then a point and zeros at the end stay. -/
def magnitudeText (layout : Layout) (full : Bool) (precision significand : Nat) (exponent : Int) :
    Text :=
  match layout with
  | .fixed => withPlaces full precision (multiple significand exponent (-precision))
  | .scientific =>
    let (n, top) := rounded (precision + 1) significand exponent
    withPlaces full precision n ++ exponentText top
  | .general =>
    let count := max 1 precision
    let (n, top) := rounded count significand exponent
    let trim (s : Text) : Text := if full then s else dropFraction s
    if -4 ≤ top ∧ top < count then trim (withPlaces full (count - 1 - top).toNat n)
    else trim (withPlaces full (count - 1) n) ++ exponentText top

/-- Whether a number has a sign before it, and its text without the sign. -/
def roundedText (layout : Layout) (full : Bool) (precision : Nat) : Binary64 → Bool × Text
  | nan => (false, "nan")
  | infinite negative => (negative, "inf")
  | finite negative m e => (negative, magnitudeText layout full precision m e)

end HiveScript.Binary64
