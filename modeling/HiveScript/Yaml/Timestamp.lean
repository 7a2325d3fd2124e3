import HiveScript.Value.Basic

/-!
# Timestamps

Days and times on days as scalars of YAML write them.

* `Yaml.moment?`: the day or the time of a text that has the form of one.
-/

namespace HiveScript.Yaml

/-- The parts between colons. -/
def parts (s : Text) : List Text := s.fields (· = Point.ofChar ':')

/-- The number of one or two digits. -/
def short? (s : Text) : Option Nat :=
  if (s.length = 1 || s.length = 2) && s.all Point.isDigit then
    some (Numeral.ofDigits 10 (s.filterMap Point.digit?))
  else none

/-- The number of exactly `n` digits. -/
def exactly? (n : Nat) (s : Text) : Option Nat :=
  if s.length = n && s.all Point.isDigit then
    some (Numeral.ofDigits 10 (s.filterMap Point.digit?))
  else none

/-- The difference to universal time after its sign, in minutes: hours, and perhaps minutes after a
colon. -/
def offset? (s : Text) : Option Nat :=
  match parts s with
  | [h] => (short? h).map (· * 60)
  | [h, m] => do return (← short? h) * 60 + (← exactly? 2 m)
  | _ => none

/-- What follows the seconds of a time: nothing, or the difference to universal time. -/
def zone? (s : Text) : Option (Option Int) :=
  match s.dropWhile fun p => p = Point.space || p = Point.ofChar '\t' with
  | [] => if s.isEmpty then some none else none
  | p :: t =>
    if p = Point.ofChar 'Z' then (if t.isEmpty then some (some 0) else none)
    else if p = Point.ofChar '+' then (offset? t).map fun n => some (n : Int)
    else if p = Point.ofChar '-' then (offset? t).map fun n => some (-(n : Int))
    else none

/-- The microseconds of the digits after a point. -/
def microseconds (ds : Text) : Nat :=
  let ds := Text.padRight 6 (Point.ofDigit 0) (ds.take 6)
  Numeral.ofDigits 10 (ds.filterMap Point.digit?)

/-- The seconds of a time, with their fraction and the difference to universal time. -/
def seconds? (s : Text) : Option (Nat × Nat × Option Int) := do
  let second ← exactly? 2 (s.take 2)
  let rest := s.drop 2
  match Text.after? "." rest with
  | some rest =>
    return (second, microseconds (rest.takeWhile Point.isDigit),
      ← zone? (rest.dropWhile Point.isDigit))
  | none => return (second, 0, ← zone? rest)

/-- The time of day after the day, and the difference to universal time. -/
def time? (s : Text) : Option (Nat × Nat × Nat × Nat × Option Int) := do
  let (h, s) ← Text.cut? (Point.ofChar ':') s
  let (m, s) ← Text.cut? (Point.ofChar ':') s
  let (second, micro, zone) ← seconds? s
  return (← short? h, ← exactly? 2 m, second, micro, zone)

/-- The numbers of a day, and what follows it. -/
def day? (s : Text) : Option (Nat × Nat × Nat × Text) := do
  let (y, s) ← Text.cut? (Point.ofChar '-') s
  let (m, s) ← Text.cut? (Point.ofChar '-') s
  let d := (s.take 2).takeWhile Point.isDigit
  return (← exactly? 4 y, ← short? m, ← short? d, s.drop d.length)

/-- What stands between a day and a time, and the time. -/
def afterGap? (s : Text) : Option Text :=
  match s with
  | p :: t =>
    if p = Point.ofChar 'T' ∨ p = Point.ofChar 't' then some t
    else if p = Point.space ∨ p = Point.ofChar '\t' then
      some (t.dropWhile fun p => p = Point.space || p = Point.ofChar '\t')
    else none
  | [] => none

/-- A day, or a day with a time, if a text has the form of one. -/
def moment? (s : Text) : Option (Except CalendarError Scalar) := do
  let (y, m, d, rest) ← day? s
  let date := Date.make y m d
  if rest.isEmpty then return date.map .date
  else
    let (hour, minute, second, micro, zone) ← time? (← afterGap? rest)
    return (DateTime.make date hour minute second micro zone).map .dateTime

/-- The form of a day or of a time on a day. A day alone has two digits for month and day. -/
def isMoment (s : Text) : Bool := 10 ≤ s.length && (moment? s).isSome

end HiveScript.Yaml
