import HiveScript.Conversion.Result
import HiveScript.Json.Printer
import HiveScript.Log.Colour
import HiveScript.Log.Level
import HiveScript.Log.Moment
import HiveScript.Log.Template

/-!
# Records of a log

A record says what happened where, and may carry a context and an error. It is written as a line
for people or as a JSON object on one line.

* `Record.plain`, `Record.json`: the two forms; a record that has neither is not written.
-/

namespace HiveScript

/-! ## Records -/

/-- What happened where. -/
structure Record where
  level : Level
  logger : Text
  source : Text
  message : Template
  context : List (Text × Value)
  /-- The class of an error and its text after the class. -/
  trouble : Option (Text × Text)

/-- How lines for people are written. -/
structure LineStyle where
  colour : Bool
  /-- Marks can be shown. -/
  marks : Bool
  /-- With fractions of seconds, the logger and the source. -/
  detailed : Bool
  deriving DecidableEq

namespace Record

/-- The context after a message, in the order of the names. -/
def contextText? (context : List (Text × Value)) : Option Text := do
  let parts ← (sortNamed context).mapM fun (k, v) => do return k ++ "=" ++ (← v.display?)
  return parts.flatMap fun part =>
    Point.space :: part.replacePoint Point.lineFeed [Point.space]

/-- An error as it is shown. -/
def troubleText (class_ text : Text) : Text :=
  if text.isEmpty then class_ else class_ ++ ": " ++ text

/-- The line for people at some moment, without its end. -/
def plain (style : LineStyle) (m : Moment) (r : Record) : Option Text := do
  let message ← r.message.fill
  let context ← contextText? r.context
  let colour := (Level.named? r.level).map (·.colour)
  let time := if style.detailed then m.fineClock else m.clock
  let mark := if style.marks then r.level.mark else "·"
  let name := paint style.colour colour false (r.level.name.padRight 8 Point.space)
  let place : Text :=
    if style.detailed then " [" ++ r.logger ++ " " ++ r.source ++ ":0]" else []
  let message :=
    if Level.warning ≤ r.level then paint style.colour colour true message else message
  let trouble : Text :=
    match r.trouble with
    | none => []
    | some (class_, text) =>
      let lines : List Text := (troubleText class_ text).brokenLines.map fun l =>
        Point.space :: Point.space :: l
      Point.lineFeed :: paint style.colour (some 31) false (Text.join [Point.lineFeed] lines)
  return time ++ " " ++ mark ++ " " ++ name ++ place ++ " " ++ message ++ context ++ trouble

/-- The fields of the JSON object at some moment. -/
def fields (m : Moment) (r : Record) (message : Text) : List (Text × Value) :=
  let common : List (Text × Value) := [
    ("ts", .text m.stamp), ("level", .text r.level.name), ("logger", .text r.logger),
    ("msg", .text message), ("module", .text r.source), ("lineno", .nat 0)]
  let context : List (Text × Value) :=
    if r.context.isEmpty then [] else [("ctx", .object r.context)]
  let trouble : List (Text × Value) :=
    match r.trouble with
    | none => []
    | some (class_, text) =>
      [("exc_type", .text class_), ("traceback", .text (troubleText class_ text))]
  common ++ context ++ trouble

/-- The JSON object at some moment on one line, without its end. -/
def json (m : Moment) (r : Record) : Option Text := do
  let message ← r.message.fill
  (Json.line (.object (r.fields m message))).toOption

end Record

end HiveScript
