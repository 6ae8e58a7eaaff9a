/-
Workflow documents in files.

* `Workflow.readDocument` — the document of a file, or the standard one.
* `Workflow.load` — the workflow of a file.  That the nodes are missing is told
  before anything else, and the rules of the document before it is decoded.
-/
import AgentWorkflow.Files.Disk
import AgentWorkflow.Json.Source
import AgentWorkflow.Workflow.Schema
import AgentWorkflow.Workflow.Standard

namespace AgentWorkflow.Workflow

/-- The document of a file, or the standard one. -/
def readDocument (disk : Disk) : Option String → Outcome Json
  | none => .ok standard.toJson
  | some path => do
    let raw ← Outcome.ofOs ("read workflow " ++ path) (disk.readText path)
    Outcome.ofJson ("parse workflow " ++ path) (Json.parse raw)

/-- The workflow of a document that has to keep the rules. -/
def ofValidJson (document : Json) : Outcome Workflow := do
  if hasNodes document then
    Schema.validate document
    ofJson document
  else .error (Failure.of .missingNodes)

def load (disk : Disk) (path : Option String) : Outcome Workflow := do
  ofValidJson (← readDocument disk path)

end AgentWorkflow.Workflow
