/-
Variables from a file.

* `Environment.extend` — sets the variables of a file that are not set yet, line by
  line, until a line is wrong.
* `Environment.file?` — the file that holds: the one in the working directory, or in
  the nearest directory above that has one.
* `Environment.load` — both together.
-/
import AgentWorkflow.Environment.Assignment
import AgentWorkflow.Environment.Basic
import AgentWorkflow.Files.Disk

namespace AgentWorkflow.Environment

def fileName : String := ".env"

/-- Sets a variable, unless it is set. -/
def setOnce (e : Environment) (name value : String) : Environment :=
  if Table.contains e name then e else Table.insert e name value

/-- Sets the variables of lines; answers also what is wrong with the first wrong
line. -/
def extendBy (e : Environment) :
    List (Except Defect (List Char)) → Environment × Option Defect
  | [] => (e, none)
  | .error defect :: _ => (e, some defect)
  | .ok line :: rest =>
    match assignmentOf (Table.get? e) line with
    | .error defect => (e, some defect)
    | .ok none => extendBy e rest
    | .ok (some (name, value)) => extendBy (e.setOnce name value) rest

/-- Sets the variables of a file that are not set yet. -/
def extend (e : Environment) (content : List UInt8) : Environment × Option Defect :=
  e.extendBy (linesOf content)

/-- A place and those above it, the nearest first. -/
def upward (place : Place) : List Place :=
  (List.range (place.length + 1)).map fun n => place.take (place.length - n)

/-- The content of the nearest file of variables. -/
def file? (disk : Disk) : Option (List UInt8) :=
  (upward disk.workingDirectory).findSome? fun place =>
    match disk.lookup? (place ++ [fileName]) with
    | some (.file content) => some content
    | _ => none

/-- The environment with the variables of the nearest file. -/
def load (e : Environment) (disk : Disk) : Environment × Option Defect :=
  match file? disk with
  | some content => e.extend content
  | none => (e, none)

end AgentWorkflow.Environment
