import HiveScript.Console.Stream
import HiveScript.Disk.Basic
import HiveScript.Log.Record

/-!
# Runs

A run reads and changes a world: files, streams, and the log. It may end early, and then the world
is as it was left.

* `World`, `Stop`: what a run works on, and why it ends early.
* `Run`: actions on a world.
-/

namespace HiveScript

/-! ## The log -/

/-- A stream that the log may write to. -/
inductive Channel where
  /-- The stream for messages. -/
  | messages
  /-- One of the streams that stand ready for the log alone. -/
  | further (n : Nat)
  deriving DecidableEq

/-- Where records are written to. -/
inductive SinkTarget where
  | console (channel : Channel)
  /-- The file at a place, unless it has been replaced since. -/
  | file (place : Place) (attached : Bool)
  deriving DecidableEq

/-- How records are written. -/
inductive RecordStyle where
  | plain (style : LineStyle)
  | json
  deriving DecidableEq

/-- Where and how records from some level on are written. -/
structure Sink where
  target : SinkTarget
  level : Level
  style : RecordStyle
  deriving DecidableEq

/-- The log: the level from which on records are made, and the sinks that get them. -/
structure Log where
  level : Level
  sinks : List Sink

/-- The log before it is set up. -/
def Log.initial : Log := ⟨Level.warning, []⟩

/-! ## Worlds -/

/-- What a run works on. -/
structure World where
  disk : Disk
  /-- The path of the home directory. -/
  home : Text
  /-- The moment at which all of the run happens. -/
  moment : Moment
  /-- The number of the process that the run is in. -/
  process : Nat
  input : Input
  output : Stream
  messages : Stream
  log : Log
  /-- The streams that stand ready for the log alone, by their numbers. -/
  further : Nat → Stream := fun _ => ⟨.verbatim, false, []⟩

namespace World

/-- The stream of a channel. -/
def stream (w : World) : Channel → Stream
  | .messages => w.messages
  | .further n => w.further n

/-- The world with a stream in the place of the one of a channel. -/
def putStream (w : World) (c : Channel) (s : Stream) : World :=
  { w with
    messages := if c = .messages then s else w.messages
    further := fun n => if c = .further n then s else w.further n }

end World

/-- The status that a run asks to end with. -/
inductive ExitStatus where
  | code (n : Nat)
  | message (s : Text)
  deriving DecidableEq

/-- Why a run ends early. -/
inductive Stop where
  | fault (f : Fault)
  | exit (status : ExitStatus)
  | interrupt
  | failure (f : Failure)

/-- An action on a world. -/
abbrev Run := ExceptT Stop (StateM World)

namespace Run

/-- Goes on with the value of a computation, or ends with its failure. -/
def ofExcept (r : Except Failure α) : Run α :=
  match r with
  | .ok a => pure a
  | .error f => throw (.failure f)

/-- Goes on with a value, or ends with a failure if there is none. -/
def ofOption (f : Failure) (r : Option α) : Run α :=
  match r with
  | some a => pure a
  | none => throw (.failure f)

/-- The text of a value; one with an integer that is too long has none. -/
def display (v : Value) : Run Text := ofOption .numeralNotWritten v.display?

/-- Ends with a status. -/
def exit (status : ExitStatus) : Run α := throw (.exit status)

/-- The text of why a run ends early. -/
def stopText : Stop → Text
  | .fault f => f.message
  | .exit (.code n) => Numeral.decimal n
  | .exit (.message s) => s
  | .interrupt => []
  | .failure f => f.message

/-- Writes to the output. -/
def print (t : Text) : Run Unit := do
  let w ← get
  let output ← ofExcept (w.output.write t)
  set { w with output }

/-- Writes a line to the stream for messages. -/
def printMessage (t : Text) : Run Unit := do
  let w ← get
  let messages ← ofExcept (w.messages.write (t ++ [Point.lineFeed]))
  set { w with messages }

end Run

end HiveScript
