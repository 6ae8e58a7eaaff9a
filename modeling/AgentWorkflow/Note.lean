/-
Notes of what went wrong without stopping a run.

* `Note` — a message of some severity with named details, all of them text.
-/

namespace AgentWorkflow

inductive Severity where
  | warning
  | error
  deriving DecidableEq, Repr

/-- A message and its details by name. -/
structure Note where
  severity : Severity
  message : String
  details : List (String × String)
  deriving DecidableEq, Repr

def Note.warning (message : String) (details : List (String × String)) : Note :=
  ⟨.warning, message, details⟩

def Note.error (message : String) (details : List (String × String)) : Note :=
  ⟨.error, message, details⟩

end AgentWorkflow
