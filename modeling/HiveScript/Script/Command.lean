import HiveScript.Registry.Datum

/-!
# Commands

The commands of a script, each on a line of its own.

* `Command.text`: a command as it is written.
* `Datum.literal`: a datum as it is written in a command.
-/

namespace HiveScript

namespace Script

def singleQuoted (s : Text) : Text := [Point.apostrophe] ++ s ++ [Point.apostrophe]

def doubleQuoted (s : Text) : Text := [Point.quotationMark] ++ s ++ [Point.quotationMark]

/-- An array of strings; no items are written like one empty item. -/
def stringArray (items : List Text) : Text := "@(\"" ++ Text.join "\",\"" items ++ "\")"

/-- Creates a key. -/
def newItem (path : Text) : Text := "New-Item -Path " ++ singleQuoted path ++ " -Force"

/-- Sets a value of a key. -/
def setItemProperty (path name literal : Text) (type : PropertyType) : Text :=
  "Set-ItemProperty -Path " ++ singleQuoted path ++ " -Name " ++ singleQuoted name ++
    " -Value " ++ literal ++ " -Type " ++ type.name

end Script

/-- A datum as it is written in a command. -/
def Datum.literal : Datum → Text
  | string s => Script.singleQuoted s
  | expandString s => Script.doubleQuoted s
  | multiString items => Script.stringArray items
  | dword n => Numeral.decimal n
  | binary digits => Script.doubleQuoted digits

/-- A command of a script. -/
inductive Command where
  | createKey (path : Text)
  | setValue (path name : Text) (datum : Datum)
  deriving DecidableEq

namespace Command

def text : Command → Text
  | createKey path => Script.newItem path
  | setValue path name datum => Script.setItemProperty path name datum.literal datum.type

/-- A command and the end of its line. -/
def line (c : Command) : Text := c.text ++ [Point.lineFeed]

/-- The key that the commands after this one belong to. -/
def key : Command → Text
  | createKey path => path
  | setValue path _ _ => path

end Command

end HiveScript
