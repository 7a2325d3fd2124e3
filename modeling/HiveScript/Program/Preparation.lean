import HiveScript.Configuration.Files
import HiveScript.Options.Catalogue
import HiveScript.Program.Checks

/-!
# Preparation of a run

The settings of a run come from the configurations that the command line names, and from the command
line itself, which goes over them. The options that say where the configurations are and what is to
be told are read first.

* `Run.settle`: the settings over a configuration.
* `Run.prepare`: the checked settings, and the configuration that they rest on.
-/

namespace HiveScript

/-- The settings of a run, and the configuration that they rest on. -/
structure Prepared where
  settings : Settings
  configuration : Entries

namespace Settings

/-- What the log is to be like, where counts may be missing. -/
def logSettings (s : Settings) : Except Failure LogSettings := do
  let count (k : Text) : Except Failure Int := if s.has k then (s.get k).toInt else .ok 0
  let verbose ← count "verbose"
  let quiet ← count "quiet"
  return ⟨verbose, quiet, s.get "log_file", s.has "json_logs", .messages⟩

/-- The keys of a configuration that concern the log. -/
def logKeys : List Text := ["verbose", "quiet", "log_file", "json_logs"]

end Settings

/-- A configuration has something to say on the log. -/
def Entries.concernsLog (es : Entries) : Bool :=
  Settings.logKeys.any fun k => ((get? k es).getD .null).isTrue

namespace Run

/-- Ends with a report on the output. -/
def exitWithReport (v : Value) : Run α := do
  print ((← ofExcept (Json.report v)) ++ [Point.lineFeed])
  exit (.code 0)

/-- Reads a command line over settings. Texts that it asks for, and complaints, end the run. -/
def readCommandLine (synopsis : Synopsis) (s : Settings) (arguments : List Text) :
    Run Settings := do
  match ← ofExcept (synopsis.finish s arguments) with
  | .settings s => return s
  | .shown .manual =>
    let colour := (← get).output.isTerminal
    print (← ofOption .numeralNotWritten (Catalogue.manual? colour s))
    exit (.code 0)
  | .shown .version =>
    print (toolVersion ++ [Point.lineFeed])
    exit (.code 0)
  | .misused e =>
    printMessage (synopsis.complaint e)
    exit (.code 2)

/-- The settings with those of a configuration over them. Keys of no setting are told. -/
def applyConfiguration (s : Settings) : Entries → Run Settings
  | [] => return s
  | (.text k, v) :: es => do
    if Catalogue.keys.contains k then applyConfiguration (s.put k v) es
    else do
      log Level.warning Configuration.recordSource
        ⟨"Ignoring unknown config key: %s", [.text k]⟩ []
      applyConfiguration s es
  | _ :: es => applyConfiguration s es

/-- The settings that a command line comes to over a configuration. -/
def settle (configuration : Entries) (arguments : List Text) : Run Settings := do
  readCommandLine Catalogue.full (← applyConfiguration Catalogue.defaults configuration) arguments

/-- The checked settings that a command line comes to. The log is set up unless it is kept as it
is. -/
def prepare (keepLog : Bool) (arguments : List Text) : Run Prepared := do
  let early ← readCommandLine Catalogue.early (.defaults Catalogue.early.switches) arguments
  if !keepLog then setUpLog (← ofExcept early.logSettings)
  let configuration ← mergedConfiguration (← ofExcept (early.get "config").items)
  if early.has "dump_config" then exitWithReport (.map configuration)
  let settings ← settle configuration arguments
  if !keepLog && configuration.concernsLog then setUpLog (← ofExcept settings.logSettings)
  if early.has "dump_args" then exitWithReport (.object settings)
  return ⟨← checkSettings settings, configuration⟩

end Run

end HiveScript
