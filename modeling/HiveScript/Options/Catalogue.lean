import HiveScript.Options.Manual
import HiveScript.Tool

/-!
# The options of the tool

* `Catalogue.full`: all options and operands.
* `Catalogue.early`: those that say where configurations are and what is to be told, which are read
  before all others.
* `Catalogue.manual`: the manual of the tool.
-/

namespace HiveScript.Catalogue

/-! ## Configuration and log -/

def help : Switch :=
  ⟨some 'h', "help", "help", .showManual, "show this help message and exit"⟩

def config : Switch :=
  ⟨none, "config", "config", .append,
    "YAML/JSON config file or directory (repeatable; later overrides earlier)."⟩

def dumpConfig : Switch :=
  ⟨none, "dump-config", "dump_config", .turnOn, "Print merged config and exit."⟩

def dumpArgs : Switch :=
  ⟨none, "dump-args", "dump_args", .turnOn, "Print final parsed args and exit."⟩

def version : Switch :=
  ⟨none, "version", "version", .showVersion, "show program's version number and exit"⟩

def verbose : Switch := ⟨some 'v', "verbose", "verbose", .count, "Verbosity: -v, -vv, -vvv"⟩

def quiet : Switch :=
  ⟨some 'q', "quiet", "quiet", .count, "Only errors (-q) or nothing (-qq)."⟩

def logFile : Switch := ⟨none, "log-file", "log_file", .store, "Write logs to file."⟩

def jsonLogs : Switch :=
  ⟨none, "json-logs", "json_logs", .turnOn, "Emit logs as NDJSON on stderr."⟩

/-! ## Output -/

def output : Switch :=
  ⟨some 'o', "output", "output", .store, "Write the script to FILE (single input)."⟩

def outputDir : Switch :=
  ⟨none, "output-dir", "output_dir", .store,
    "Write <name>.ps1 per input into DIR (default: print to stdout)."⟩

def force : Switch := ⟨none, "force", "force", .turnOn, "Overwrite existing output files."⟩

def json : Switch := ⟨none, "json", "json", .turnOn, "Print a JSON report instead of scripts."⟩

/-! ## Script format -/

def header : Switch :=
  ⟨none, "header", "header", .store, "Generator comment on the first line of written scripts."⟩

def noHeader : Switch :=
  ⟨none, "no-header", "no_header", .turnOn, "Do not write a generator comment."⟩

def stdoutHeader : Switch :=
  ⟨none, "stdout-header", "stdout_header", .turnOn,
    "Also print the generator comment when writing to stdout."⟩

def crlf : Switch :=
  ⟨none, "crlf", "crlf", .turnOn, "Use CRLF line endings in written scripts."⟩

def bom : Switch := ⟨none, "bom", "bom", .turnOn, "Prefix written scripts with a UTF-8 BOM."⟩

/-! ## Synopses -/

/-- The inputs. -/
def inputs : Operands :=
  ⟨"INPUT", "inputs", "Registry export (.reg) files; '-' or nothing reads stdin."⟩

/-- All options and operands. -/
def full : Synopsis where
  program := toolName
  groups := [
    ⟨"options", [help]⟩,
    ⟨"config and logging",
      [config, dumpConfig, dumpArgs, version, verbose, quiet, logFile, jsonLogs]⟩,
    ⟨"output", [output, outputDir, force, json]⟩,
    ⟨"script format", [header, noHeader, stdoutHeader, crlf, bom]⟩]
  operands := some inputs

/-- The options that are read before all others. -/
def early : Synopsis where
  program := toolName
  groups :=
    [⟨"options", [config, verbose, quiet, logFile, jsonLogs, dumpConfig, dumpArgs]⟩]
  operands := none

/-- The keys of settings. -/
def keys : List Text :=
  full.operandKey.toList ++ full.switches.map fun w => Text.ofString w.key

/-- The settings when nothing is given. -/
def defaults : Settings :=
  (Text.ofString inputs.key, .list []) :: Settings.defaults full.switches

/-! ## The manual -/

/-- What the tool is. -/
def about : Text := toolName ++ ": Windows Registry export (.reg) → PowerShell converter"

/-- Lines with an empty line before them, each with its end. -/
def block (lines : List String) : Text :=
  Point.lineFeed :: lines.flatMap fun l => Text.ofString l ++ [Point.lineFeed]

/-- Titles and blocks of notes. -/
def notes : List (String × List String) := [
    ("YAML example:", [
      "  # reg2ps.yaml",
      "  output_dir: ./scripts",
      "  header: \"# Deployment tweaks, generated by reg2ps\"",
      "  crlf: true",
      "  bom: true",
      "",
      "  reg2ps --config reg2ps.yaml tweaks.reg policies.reg"]),
    ("Feature summary:", [
      "  • [HKEY_*\\...] sections become New-Item -Path 'HK??:\\...' -Force",
      "  • values become Set-ItemProperty with -Type String, ExpandString,",
      "    MultiString, DWord or Binary",
      "  • regedit exports are read as UTF-16 (with BOM), UTF-8 or cp1252",
      "  • the first malformed line aborts that file: kind + line number reported",
      "  • several inputs convert independently; exit code 2 if any failed"]),
    ("Exit codes:", [
      "  0  all inputs converted",
      "  1  usage, config or I/O error",
      "  2  at least one input could not be converted",
      "  130 interrupted"])]

/-- Green. -/
def aboutColour : Nat := 32

/-- Cyan. -/
def notesColour : Nat := 36

/-- A note, in colour if so wished. -/
def note (colour : Bool) (n : String × List String) : Text :=
  paint colour (some notesColour) true (Text.ofString n.1 ++ "\n") ++
    paint colour (some notesColour) false (block n.2)

/-- The manual, with the values in some settings as the defaults. -/
def manual? (colour : Bool) (settings : Settings) : Option Text :=
  full.manual? settings (paint colour (some aboutColour) true about)
    (Text.join "\n" (notes.map (note colour)))

end HiveScript.Catalogue
