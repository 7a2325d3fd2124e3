import HiveScript.Text.Numeral

/-!
# Moments

A moment is a number of milliseconds since the beginning of 1970, and is written in universal time.

* `Moment.clock`, `Moment.fineClock`: the time of the day.
* `Moment.date`: the day in the Gregorian calendar.
* `Moment.stamp`: day and time in one text.
-/

namespace HiveScript

/-- A moment from the beginning of 1970 on. -/
structure Moment where
  milliseconds : Nat
  deriving DecidableEq

namespace Moment

/-! ## The time of the day -/

def seconds (m : Moment) : Nat := m.milliseconds / 1000

/-- A number of two digits. -/
def two (n : Nat) : Text := Numeral.padded 10 2 n

/-- Hours, minutes and seconds. -/
def clock (m : Moment) : Text :=
  two (m.seconds / 3600 % 24) ++ ":" ++ two (m.seconds / 60 % 60) ++ ":" ++ two (m.seconds % 60)

/-- The clock with milliseconds. -/
def fineClock (m : Moment) : Text :=
  m.clock ++ "." ++ Numeral.padded 10 3 (m.milliseconds % 1000)

/-! ## The day -/

/-- The days since the first of March of the year 0. -/
def day (m : Moment) : Nat := m.seconds / 86400 + 719468

/-- The days of four hundred years. -/
def cycleDays : Nat := 146097

/-- The year of a day within four hundred years that begin in March; the days that leap years put in
are taken off first. -/
def yearOfCycle (d : Nat) : Nat := (d - d / 1460 + d / 36524 - d / 146096) / 365

/-- The day within the year of a day within four hundred years. -/
def dayOfYear (d : Nat) : Nat :=
  let y := yearOfCycle d
  d - (365 * y + y / 4 - y / 100)

/-- The number of a month, counted from March, by a day of the year. -/
def monthFromMarch (d : Nat) : Nat := (5 * d + 2) / 153

/-- Year, month and day. -/
def date (m : Moment) : Text :=
  let d := m.day % cycleDays
  let month := monthFromMarch (dayOfYear d)
  let early := 10 ≤ month
  let year := m.day / cycleDays * 400 + yearOfCycle d + if early then 1 else 0
  Numeral.padded 10 4 year ++ "-" ++ two (if early then month - 9 else month + 3) ++ "-" ++
    two (dayOfYear d - (153 * month + 2) / 5 + 1)

/-- Day and time, with the difference to universal time. -/
def stamp (m : Moment) : Text := m.date ++ "T" ++ m.fineClock ++ "+00:00"

end Moment

end HiveScript
