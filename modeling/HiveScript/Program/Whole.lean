import HiveScript.Batch.Run
import HiveScript.Fault.Foreign
import HiveScript.Program.Preparation

/-!
# Whole runs

A run prepares its settings and runs the batch that they ask for. What ends the batch early becomes
a status to exit with.

* `Run.program`: a whole run with a command line.
-/

namespace HiveScript.Run

/-- The status of a run that is interrupted. -/
def interruptedStatus : Nat := 130

/-- What is told when a run is interrupted. -/
def interruptedMessage : Text := "Interrupted by user (Ctrl+C)."

/-- The source of the records that a whole run makes. -/
def programRecordSource : Text := "__main__"

/-- Runs the batch of some settings; how much is told of an unforeseen failure is given. -/
def programBatch (s : Settings) (verbosity : Int) : Run Nat := do
  let unforeseen (className line : Text) : Run Nat := do
    note Level.error programRecordSource ("UNHANDLED " ++ className ++ ": " ++ line)
    return 1
  match (← batch s).status with
  | .ok status => return status
  | .error (.fault f) =>
    match f.kind with
    | .fatal => return f.code
    | kind => unforeseen kind.className (← ofOption .numeralNotWritten (f.line? verbosity))
  | .error .interrupt =>
    note Level.warning programRecordSource interruptedMessage
    return interruptedStatus
  | .error (.failure f) => unforeseen f.className (f.line verbosity)
  | .error (.exit status) => exit status

/-- A whole run, once it is known how to prepare it. -/
def programAfter (preparation : Run Prepared) : Run Nat := do
  match ← attempt preparation with
  | .ok p =>
    let verbose := p.settings.get "verbose"
    let verbosity ← if verbose.isTrue then ofExcept verbose.toInt else pure 0
    programBatch p.settings verbosity
  | .error .interrupt =>
    printMessage interruptedMessage
    return interruptedStatus
  | .error (.fault f) => if f.kind = .fatal then return f.code else throw (.fault f)
  | .error stop => throw stop

/-- A whole run with a command line. -/
def program (arguments : List Text) : Run Nat := programAfter (prepare false arguments)

end HiveScript.Run
