import HiveScript.Text.Numeral

/-!
# Days

Days of the Gregorian calendar, from the year 1 to the year 9999.

* `Date.make`: the day of three numbers.
* `Date.text`: a day in digits, and `Date.inspect`: the same as it shows inside of other values.
* `Date.ordinal`: the number of days up to a day.
-/

namespace HiveScript

/-- Why numbers are no day and no time. -/
inductive CalendarError where
  | year (n : Nat)
  | month
  | day
  | hour
  | minute
  | second
  /-- A difference to universal time of a day or more, in minutes. -/
  | offset (minutes : Int)
  deriving DecidableEq

/-- A day of the calendar. -/
structure Date where
  year : Nat
  month : Nat
  day : Nat
  deriving DecidableEq

namespace Date

def isLeapYear (y : Nat) : Bool := y % 4 = 0 && (y % 100 ≠ 0 || y % 400 = 0)

def daysOf (year month : Nat) : Nat :=
  if month = 2 then (if isLeapYear year then 29 else 28)
  else if [4, 6, 9, 11].contains month then 30
  else 31

/-- The day of three numbers. -/
def make (year month day : Nat) : Except CalendarError Date :=
  if year = 0 ∨ 9999 < year then .error (.year year)
  else if month = 0 ∨ 12 < month then .error .month
  else if day = 0 ∨ daysOf year month < day then .error .day
  else .ok ⟨year, month, day⟩

def text (d : Date) : Text :=
  Numeral.padded 10 4 d.year ++ "-" ++ Numeral.padded 10 2 d.month ++ "-" ++
    Numeral.padded 10 2 d.day

/-- A date as a value inside of other values. -/
def inspect (d : Date) : Text :=
  "datetime.date(" ++ Text.join ", " [Numeral.decimal d.year, Numeral.decimal d.month,
    Numeral.decimal d.day] ++ ")"

/-- The number of days up to a day, counted from the beginning of the year 1. -/
def ordinal (d : Date) : Nat :=
  let y := d.year - 1
  let months := (List.range (d.month - 1)).foldl (fun n m => n + daysOf d.year (m + 1)) 0
  365 * y + y / 4 - y / 100 + y / 400 + months + d.day

/-- The order of dates. -/
def less (a b : Date) : Bool := a.ordinal < b.ordinal

end Date

end HiveScript
