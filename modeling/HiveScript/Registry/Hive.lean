import HiveScript.Text.Basic

/-!
# Hives

The five roots of the registry and the drives under which a script reaches them.
-/

namespace HiveScript

/-- A root of the registry. -/
inductive Hive where
  | localMachine
  | currentUser
  | classesRoot
  | users
  | currentConfig
  deriving DecidableEq

namespace Hive

/-- The hives in the order in which names are compared. -/
def all : List Hive := [localMachine, currentUser, classesRoot, users, currentConfig]

/-- The name in an export. -/
def name : Hive → Text
  | localMachine => "HKEY_LOCAL_MACHINE"
  | currentUser => "HKEY_CURRENT_USER"
  | classesRoot => "HKEY_CLASSES_ROOT"
  | users => "HKEY_USERS"
  | currentConfig => "HKEY_CURRENT_CONFIG"

/-- The drive in a script. -/
def drive : Hive → Text
  | localMachine => "HKLM:"
  | currentUser => "HKCU:"
  | classesRoot => "HKCR:"
  | users => "HKU:"
  | currentConfig => "HKCC:"

/-- The first of some hives whose name `path` begins with, and what follows the name. -/
def matchIn? (hives : List Hive) (path : Text) : Option (Hive × Text) :=
  hives.findSome? fun h => (Text.after? h.name path).map fun rest => (h, rest)

/-- The hive whose name `path` begins with, and what follows the name. -/
def match? (path : Text) : Option (Hive × Text) := matchIn? all path

/-- The path on the drive of its hive; only the name of the hive is exchanged. -/
def drivePath? (path : Text) : Option Text := (match? path).map fun (h, rest) => h.drive ++ rest

end Hive

end HiveScript
