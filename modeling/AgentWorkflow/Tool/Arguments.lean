/-
The arguments of tools.

* `Tool.argument`, `Tool.argumentOr` — a text argument that has to be given, and
  one that may be left out.
* `Tool.pathInside` — a path below the root; one that could lead out of it is
  refused.
-/
import AgentWorkflow.Files.Path
import AgentWorkflow.Failure

namespace AgentWorkflow.Tool

def argument (arguments : Table Json) (name : String) : Outcome String :=
  match Table.get? arguments name with
  | some (.text s) => .ok s
  | some other => .error (Failure.of (.argumentNotText name other))
  | none => .error (Failure.of (.missingArgument name))

/-- An argument that may be left out or null. -/
def argumentOr (arguments : Table Json) (name otherwise : String) : Outcome String :=
  match Table.get? arguments name with
  | none => .ok otherwise
  | some .null => .ok otherwise
  | some _ => argument arguments name

/-- The path that a text means below the root. -/
def pathInside (root path : String) : Outcome String :=
  if Path.staysInside path then .ok (Path.join root path)
  else .error (Failure.of (.outside path))

end AgentWorkflow.Tool
