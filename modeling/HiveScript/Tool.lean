import HiveScript.Text.Basic

/-!
# The tool

The name and the version by which the tool speaks of itself.
-/

namespace HiveScript

def toolName : Text := "reg2ps"

def toolVersion : Text := "0.1.0"

end HiveScript
