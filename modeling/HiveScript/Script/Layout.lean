import HiveScript.Encoding.Utf8
import HiveScript.Text.Line
import HiveScript.Tool

/-!
# Layout of scripts

A script file is a header comment, an empty line and the commands, with line ends of one kind, in
UTF-8 and with or without a mark.
-/

namespace HiveScript

namespace Script

/-- The header of scripts that are given no other one. -/
def defaultHeader : Text := "# Script generated with " ++ toolName ++ " " ++ toolVersion

/-- A header as a comment. -/
def comment (header : Text) : Text :=
  if header.head? = some (Point.ofChar '#') then header else "# " ++ header

/-- Puts a header before the commands; an empty one counts as none. -/
def withHeader (header : Option Text) (body : Text) : Text :=
  match header with
  | none | some [] => body
  | some h => comment h ++ "\n\n" ++ body

/-- Writes every line end as `newline`; line feeds alone stay as they are. -/
def withNewline (newline s : Text) : Text :=
  if newline = [Point.lineFeed] then s
  else s.dropPairedReturns.replacePoint Point.lineFeed newline

/-- The text of a script file. -/
def layout (header : Option Text) (newline body : Text) : Text :=
  withNewline newline (withHeader header body)

/-- The octets of a script file. Surrogates are written each on its own, so this never fails. -/
def encode (mark : Bool) (s : Text) : Bytes := (if mark then Utf8.mark else []) ++ Utf8.encode s

end Script

end HiveScript
