import HiveScript.Run.World
import HiveScript.Tool

/-!
# Emission of records

A record reaches each sink whose level it has, if it has the level of the log. One that cannot be
written in the form of a sink does not reach that sink.

* `World.emit`: the world after a record.
* `Run.log`, `Run.ok`, `Run.fail`, `Run.heading`, `Run.step`, `Run.die`: records of runs.
-/

namespace HiveScript

/-- A record at some moment in the style of a sink, with the end of its line. -/
def RecordStyle.line? (style : RecordStyle) (m : Moment) (r : Record) : Option Text :=
  let line :=
    match style with
    | .plain style => r.plain style m
    | .json => r.json m
  line.map (· ++ [Point.lineFeed])

/-- Writes a line to a sink, if the sink takes it. -/
def World.writeTo (target : SinkTarget) (line : Text) (w : World) : World :=
  match target with
  | .console channel =>
    match (w.stream channel).write line with
    | .ok s => w.putStream channel s
    | .error _ => w
  | .file place attached =>
    match attached, Utf8.encode? line with
    | true, .ok bs => { w with disk := w.disk.append place bs }
    | _, _ => w

/-- The sink gets a record. -/
def World.emitTo (r : Record) (w : World) (s : Sink) : World :=
  if s.level ≤ r.level then
    match s.style.line? w.moment r with
    | some line => w.writeTo s.target line
    | none => w
  else w

/-- The world after a record. -/
def World.emit (r : Record) (w : World) : World :=
  if w.log.level ≤ r.level then w.log.sinks.foldl (World.emitTo r) w else w

/-- The name of the log. -/
def mainLogger : Text := toolName

/-- The name under which conversions make records. -/
def conversionLogger : Text := toolName ++ ".converter"

namespace Run

/-- Makes a record. -/
def emit (r : Record) : Run Unit := modify (World.emit r)

/-- Makes a record of a message from some source. -/
def log (level : Level) (source : Text) (message : Template)
    (context : List (Text × Value)) : Run Unit :=
  emit ⟨level, mainLogger, source, message, context, none⟩

/-- Makes a record of a text without context. -/
def note (level : Level) (source message : Text) : Run Unit :=
  log level source (.plain message) []

/-- Makes a record of something that went well. -/
def ok (message : Text) (context : List (Text × Value)) : Run Unit :=
  log Level.info "logger" (.plain message) context

/-- Makes a record of something that went wrong. -/
def fail (message : Text) (context : List (Text × Value)) : Run Unit :=
  log Level.error "logger" (.plain message) context

/-- The columns of a heading. -/
def headingWidth : Nat := 72

/-- Makes a record of a title in the middle of a rule. -/
def heading (title : Text) : Run Unit :=
  note Level.info "logger" ((" " ++ title.trim ++ " ").center headingWidth 0x2500)

/-- Makes records of the start and of the end of a step, and of the error that it ends in. All of a
run happens at one moment, so that a step takes no time. -/
def step (context : List (Text × Value)) (description : Text) (body : Run α) : Run α := do
  let tell (level : Level) (message : Text) : Run Unit :=
    log level "logging_utils" (.plain message) context
  tell Level.info (description ++ " ...")
  let a ← tryCatch body fun stop => do
    match stop with
    | .fault _ | .failure _ =>
      tell Level.error (description ++ " failed (0.00s): " ++ stopText stop)
    | .exit _ | .interrupt => pure ()
    throw stop
  tell Level.info (description ++ " done (0.00s)")
  return a

/-- Makes a record of a message and ends with it as a fatal fault. -/
def die (message : Text) : Run α := do
  note Level.error "utils" message
  throw (.fault (.fatal message))

end Run

end HiveScript
