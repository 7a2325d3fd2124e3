import HiveScript.Log.Emission
import HiveScript.Run.Files

/-!
# Setting up the log

The log gets a sink for the console, and one for a file if there is to be one. Setting it up again
replaces the sinks; a file is always added to.

* `Run.setUpLog`.
-/

namespace HiveScript

/-- What the log is to be like. -/
structure LogSettings where
  verbose : Int
  quiet : Int
  /-- The path of a file for records; what does not count as set asks for none. -/
  file : Value
  json : Bool
  /-- The stream of the console. -/
  channel : Channel

namespace LogSettings

/-- The level from which on the console shows records. -/
def level (s : LogSettings) : Level := Level.ofCounts s.verbose s.quiet

/-- The level from which on the file keeps records. -/
def fileLevel (s : LogSettings) : Level := min s.level Level.info

/-- The sink for the console. -/
def consoleSink (s : LogSettings) (stream : Stream) : Sink where
  target := .console s.channel
  level := s.level
  style :=
    if s.json then .json
    else .plain ⟨stream.isTerminal, stream.canShow 0x2705, decide (3 ≤ s.verbose)⟩

/-- The sink for the file at a place. -/
def fileSink (s : LogSettings) (place : Place) : Sink where
  target := .file place true
  level := s.fileLevel
  style := if s.json then .json else .plain ⟨false, true, true⟩

end LogSettings

namespace Run

/-- Sets the level and the sinks of the log. -/
def setLog (log : Log) : Run Unit := modify fun w => { w with log }

/-- Opens the file for records. -/
def openLogFile (s : LogSettings) : Run Sink := do
  let path ← pathOf s.file
  ofExcept (checkPath path.text)
  let path := (← get).disk.absolute path.text
  makeDirectories path.parent
  let w ← get
  let (place, disk) ← refuse path.text none (w.disk.openForAppending path.text)
  set { w with disk }
  return s.fileSink place

/-- Sets up the log. -/
def setUpLog (s : LogSettings) : Run Unit := do
  let console := s.consoleSink ((← get).stream s.channel)
  setLog ⟨s.level, [console]⟩
  if s.file.isTrue then
    let file ← openLogFile s
    setLog ⟨s.fileLevel, [console, file]⟩
  log Level.debug "logger"
    ⟨"Logger initialized (level=%s, pid=%s)", [.text s.level.name, .nat (← get).process]⟩ []
  note Level.trace "logger" "TRACE enabled"

end Run

end HiveScript
