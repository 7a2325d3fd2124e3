import HiveScript.Text.Numeral

/-!
# Reasons of rejection

Why the text of an export is rejected, the name of each reason, and its message.
-/

namespace HiveScript

/-- Why a text is rejected. -/
inductive Reason where
  | unspecified
  | emptyInput
  | malformedSectionHeader
  | unknownHive
  | valueOutsideSection
  | missingEquals
  | invalidDword
  deriving DecidableEq

namespace Reason

def all : List Reason :=
  [unspecified, emptyInput, malformedSectionHeader, unknownHive, valueOutsideSection,
    missingEquals, invalidDword]

def name : Reason → Text
  | unspecified => "ConversionError"
  | emptyInput => "EmptyInput"
  | malformedSectionHeader => "MalformedSectionHeader"
  | unknownHive => "UnknownHive"
  | valueOutsideSection => "ValueOutsideSection"
  | missingEquals => "MissingEquals"
  | invalidDword => "InvalidDword"

/-- The message up to the number of the line, which only `emptyInput` does not name. -/
def message (reason : Reason) (line : Text) : Text :=
  match reason with
  | unspecified => "Conversion failed on line " ++ line
  | emptyInput => "Input is empty. Please provide REG file content."
  | malformedSectionHeader => "Invalid registry key format on line " ++ line
  | unknownHive => "Unknown registry hive on line " ++ line
  | valueOutsideSection => "Value outside of registry path on line " ++ line
  | missingEquals => "Missing '=' on line " ++ line
  | invalidDword => "Invalid DWORD value on line " ++ line

/-- The message names the number of the line. -/
def namesLine : Reason → Bool
  | emptyInput => false
  | _ => true

end Reason

/-- A reason and the line that gave it; none for a text as a whole. -/
structure Rejection where
  reason : Reason
  line : Option Nat
  deriving DecidableEq

end HiveScript
