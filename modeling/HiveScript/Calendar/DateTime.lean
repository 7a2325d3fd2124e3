import HiveScript.Calendar.Date

/-!
# Times of days

A day with a time, to the microsecond, and perhaps with the difference to universal time. Two times
are compared by the moment that they tell; those with and those without a difference have no order.

* `DateTime.make`: the time of some numbers.
* `DateTime.text`, `DateTime.inspect`: a time in digits, and as it shows inside of other values.
* `DateTime.moment`: what times are compared by.
-/

namespace HiveScript

/-- A time on a day. -/
structure DateTime where
  date : Date
  hour : Nat
  minute : Nat
  second : Nat
  microsecond : Nat
  /-- The minutes by which the clock is ahead of universal time, if that is told. -/
  offset : Option Int
  deriving DecidableEq

namespace DateTime

/-- The minutes of a day. -/
def dayMinutes : Int := 1440

/-- The time of some numbers on a day. -/
def make (date : Except CalendarError Date) (hour minute second microsecond : Nat)
    (offset : Option Int) : Except CalendarError DateTime := do
  if let some m := offset then
    if dayMinutes ≤ m.natAbs then throw (.offset m)
  let date ← date
  if 24 ≤ hour then throw .hour
  if 60 ≤ minute then throw .minute
  if 60 ≤ second then throw .second
  return ⟨date, hour, minute, second, microsecond, offset⟩

/-! ## Texts -/

/-- A number of two digits. -/
def two (n : Nat) : Text := Numeral.padded 10 2 n

/-- A difference to universal time. -/
def offsetText (m : Int) : Text :=
  (if m < 0 then "-" else "+") ++ two (m.natAbs / 60) ++ ":" ++ two (m.natAbs % 60)

def text (t : DateTime) : Text :=
  let fraction : Text := if t.microsecond = 0 then [] else "." ++ Numeral.padded 10 6 t.microsecond
  t.date.text ++ " " ++ two t.hour ++ ":" ++ two t.minute ++ ":" ++ two t.second ++ fraction ++
    (match t.offset with
    | none => []
    | some m => offsetText m)

/-- Minutes as days and seconds, of which the seconds are not negative. -/
def durationText (m : Int) : Text :=
  let days := m / dayMinutes
  let seconds := m % dayMinutes * 60
  let part (name : Text) (n : Int) : List Text :=
    if n = 0 then [] else [name ++ "=" ++ Numeral.ofInt n]
  "datetime.timedelta(" ++ Text.join ", " (part "days" days ++ part "seconds" seconds) ++ ")"

/-- A time as a value inside of other values. -/
def inspect (t : DateTime) : Text :=
  let fraction : List Nat :=
    if t.microsecond ≠ 0 then [t.second, t.microsecond]
    else if t.second ≠ 0 then [t.second]
    else []
  let numbers := [t.date.year, t.date.month, t.date.day, t.hour, t.minute] ++ fraction
  let zone : List Text :=
    match t.offset with
    | none => []
    | some m =>
      if m = 0 then ["tzinfo=datetime.timezone.utc"]
      else ["tzinfo=datetime.timezone(" ++ durationText m ++ ")"]
  "datetime.datetime(" ++ Text.join ", " (numbers.map Numeral.decimal ++ zone) ++ ")"

/-! ## Order -/

/-- The microseconds from the beginning of the year 1, in universal time if the difference to it is
told. -/
def moment (t : DateTime) : Int :=
  let minutes : Int := (t.date.ordinal * 24 + t.hour) * 60 + t.minute
  (((minutes - t.offset.getD 0) * 60 + t.second) * 1000000 + t.microsecond : Int)

/-- The difference to universal time is told of both or of none. -/
def areComparable (a b : DateTime) : Bool := a.offset.isSome = b.offset.isSome

def equals (a b : DateTime) : Bool := a.areComparable b && a.moment = b.moment

def less (a b : DateTime) : Bool := a.moment < b.moment

end DateTime

/-! ## Errors -/

def CalendarError.message : CalendarError → Text
  | year n => "year " ++ Numeral.decimal n ++ " is out of range"
  | month => "month must be in 1..12"
  | day => "day is out of range for month"
  | hour => "hour must be in 0..23"
  | minute => "minute must be in 0..59"
  | second => "second must be in 0..59"
  | offset m =>
    "offset must be a timedelta strictly between -timedelta(hours=24) and timedelta(hours=24), not "
      ++ DateTime.durationText m ++ "."

end HiveScript
