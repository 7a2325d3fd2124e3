import HiveScript.Log.Emission

/-!
# Conversions in runs

A conversion makes a record of each command and of the fault that it ends in.

* `Run.convert`: the result of a text, with these records.
-/

namespace HiveScript.Run

/-- The record of a command. -/
def commandTemplate (line : Nat) (c : Command) : Template :=
  match c with
  | .createKey path => ⟨"line %d: key %s", [.nat line, .text path]⟩
  | .setValue _ name datum =>
    ⟨"line %d: %s (%s)", [.nat line, .text name, .text datum.type.name]⟩

/-- Makes a record of a conversion. -/
def noteConversion (level : Level) (message : Template) : Run Unit :=
  emit ⟨level, conversionLogger, "converter", message, [], none⟩

/-- The result of converting a text. -/
def convert (s : Text) : Run Result := do
  for (line, c) in (Conversion.run s).1 do
    noteConversion Level.trace (commandTemplate line c)
  let result ← ofExcept (tryConvert s)
  match result.fault with
  | some f =>
    noteConversion Level.debug
      ⟨"conversion failed: %s (%s)", [.text f.message, .text f.kind.className]⟩
  | none => pure ()
  return result

end HiveScript.Run
