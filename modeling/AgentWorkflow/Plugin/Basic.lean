/-
Plugins: what the nodes of a workflow do.

* `Plugin` — takes the inputs of a node with its bindings resolved.
* `Plugin.input`, `Plugin.words?` — an input by name, null when it is not there,
  and an input that is a text with something in it.
* `Plugin.ofFunction` — a plugin that only computes.
-/
import AgentWorkflow.Session

namespace AgentWorkflow

abbrev Plugin := Session → Inputs → Act Json

namespace Plugin

def input (inputs : Inputs) (name : String) : Json := (Table.get? inputs name).getD .null

/-- An input that is a text with something in it. -/
def words? (inputs : Inputs) (name : String) : Option String :=
  match Table.get? inputs name with
  | some (.text s) => if Text.allBlank s then none else some s
  | _ => none

/-- A plugin that only computes. -/
def ofFunction (f : Inputs → Outcome Json) : Plugin := fun _ inputs => Act.ofOutcome (f inputs)

/-- A single result under a name. -/
def result (name : String) (value : Json) : Json := .object [(name, value)]

end Plugin

end AgentWorkflow
