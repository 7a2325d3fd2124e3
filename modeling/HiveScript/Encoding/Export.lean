import HiveScript.Encoding.Utf16
import HiveScript.Encoding.Windows1252

/-!
# Encodings of exports

An export announces its encoding by a mark. One without a mark is read as UTF-8 if it is
well-formed as such, and as Windows-1252 otherwise.
-/

namespace HiveScript

/-- What follows `lead` in some octets, if they begin with it. -/
def Bytes.after? (lead bs : Bytes) : Option Bytes :=
  match lead, bs with
  | [], bs => some bs
  | _ :: _, [] => none
  | a :: lead, b :: bs => if a = b then after? lead bs else none

/-- The text of the octets of an export; what is ill in them becomes replacement characters. -/
def decodeExport (bs : Bytes) : Text :=
  if let some rest := Bytes.after? (Utf16.mark .lowFirst) bs then Utf16.decodeLossy .lowFirst rest
  else if let some rest := Bytes.after? (Utf16.mark .highFirst) bs then
    Utf16.decodeLossy .highFirst rest
  else if let some rest := Bytes.after? Utf8.mark bs then Utf8.decodeLossy rest
  else (Utf8.decode? false bs).getD (Windows1252.decodeLossy bs)

end HiveScript
