/-
The variables that a program is started with.

* `Environment.value?` — the value of a variable; one that is blank counts as not set.
-/
import AgentWorkflow.Table
import AgentWorkflow.Text.Basic

namespace AgentWorkflow

abbrev Environment := Table String

/-- The value of a variable that is not blank. -/
def Environment.value? (e : Environment) (name : String) : Option String :=
  match Table.get? e name with
  | some v => if Text.allBlank v then none else some v
  | none => none

end AgentWorkflow
