/-
The manual of the program.

* `Switch` — a word after two dashes, and what may be given with it.
* `Manual` — a part of the program with its switches; `Manual.verbs` are the parts
  that there are.
* `Manual.page`, `Manual.frontPage` — the pages as they are printed.
-/
import AgentWorkflow.Text.Basic

namespace AgentWorkflow.CommandLine

/-- What may be given with a switch. -/
inductive Value where
  | path
  /-- A number of 32 bits. -/
  | count
  deriving DecidableEq, Repr

structure Switch where
  name : String
  /-- What is given with it, and what that is called; nothing for a mere flag. -/
  value : Option (String × Value)
  about : String
  deriving DecidableEq, Repr

structure Manual where
  name : String
  about : String
  switches : List Switch
  deriving DecidableEq, Repr

def program : String := "autopilot"

def version : String := program ++ " 0.1.0"

def flag (name about : String) : Switch := ⟨name, none, about⟩

def configSwitch : Switch :=
  ⟨"config", some ("CONFIG", .path), "Config file (default: \u0060<root>/autopilot.toml\u0060)"⟩

def rootSwitch : Switch :=
  ⟨"root", some ("ROOT", .path), "Project root (default: current directory)"⟩

def workflowSwitch : Switch :=
  ⟨"workflow", some ("WORKFLOW", .path),
    "Workflow document (default: configured or embedded workflow)"⟩

namespace Manual

def run : Manual where
  name := "run"
  about := "Run the workflow against the repository"
  switches := [
    configSwitch,
    flag "dry-run" "Skip tools that modify the repository",
    rootSwitch,
    flag "yolo" "Run tools without asking for confirmation",
    flag "once" "Stop after a single iteration",
    flag "direct" "Use the built-in iteration driver instead of interpreting the workflow",
    workflowSwitch,
    ⟨"iterations", some ("N", .count), "Repeat the whole run up to N times"⟩,
    flag "stop-at-mvp"
      "Do not start another pass once the roadmap's MVP section is complete"]

def validate : Manual where
  name := "validate"
  about := "Check a workflow against the schema and the registered plugins"
  switches := [configSwitch, workflowSwitch, rootSwitch]

def plugins : Manual where
  name := "plugins"
  about := "List registered node types"
  switches := [configSwitch, rootSwitch]

def verbs : List Manual := [run, validate, plugins]

/-- The word that asks for a page of the manual. -/
def helpWord : String := "help"

def helpAbout : String := "Print this message or the help of the given subcommand(s)"

/-! ### Pages -/

/-- A text with spaces behind it up to a width. -/
def padded (width : Nat) (s : String) : String :=
  s ++ String.ofList (List.replicate (width - s.length) ' ')

/-- Two columns; the second starts two spaces behind the longest entry of the
first. -/
def columns (rows : List (String × String)) : String :=
  let width := (rows.map fun r => r.1.length).foldl max 0
  String.join (rows.map fun r => "  " ++ padded width r.1 ++ "  " ++ r.2 ++ "\n")

def switchRow (s : Switch) : String × String :=
  ("    --" ++ s.name ++ (match s.value with
    | some (placeholder, _) => " <" ++ placeholder ++ ">"
    | none => ""), s.about)

def helpRow : String × String := ("-h, --help", "Print help")

def versionRow : String × String := ("-V, --version", "Print version")

def options (rows : List (String × String)) : String := "Options:\n" ++ columns rows

/-- How the program is called. -/
def usage : String := "Usage: " ++ program ++ " [OPTIONS] <COMMAND>\n"

/-- The page of a part of the program. -/
def page (m : Manual) : String :=
  m.about ++ "\n\nUsage: " ++ program ++ " " ++ m.name ++ " [OPTIONS]\n\n" ++
    options (m.switches.map switchRow ++ [helpRow])

/-- The page of the whole program. -/
def frontPage : String :=
  "AI-driven development workflow runner\n\n" ++ usage ++ "\nCommands:\n" ++
    columns (verbs.map (fun m => (m.name, m.about)) ++ [(helpWord, helpAbout)]) ++ "\n" ++
    options ([configSwitch, rootSwitch].map switchRow ++ [helpRow, versionRow])

/-- The page on the manual itself. -/
def helpPage : String :=
  helpAbout ++ "\n\nUsage: " ++ program ++ " help [COMMAND]...\n\nArguments:\n" ++
    columns [("[COMMAND]...", "Print help for the subcommand(s)")]

/-- The page that words ask for; there are no parts of parts. -/
def pageOf? : List String → Option String
  | [] => some frontPage
  | [name] =>
    if name = helpWord then some helpPage
    else (verbs.find? fun m => m.name == name).map page
  | _ => none

end Manual

end AgentWorkflow.CommandLine
