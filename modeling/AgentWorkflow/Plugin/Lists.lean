/-
Plugins that compute with lists and truth values.

* `Plugin.filterList`, `Plugin.mapList`, `Plugin.reduceList` — the items that
  match, a text for each item, and one text of all items.
* `Plugin.negate`, `Plugin.anyOf`, `Plugin.branchCondition` — truth values.
-/
import AgentWorkflow.Condition
import AgentWorkflow.Plugin.Basic

namespace AgentWorkflow.Plugin

/-- The items that the plugins on lists work on. -/
def itemsOf (inputs : Inputs) : List Json := (input inputs "items").toItems

/-- What stands for the item in a template. -/
def itemPlaceholder : String := "\x7bitem\x7d"

def filterMode (inputs : Inputs) : Outcome FilterMode :=
  match words? inputs "mode" with
  | some mode => FilterMode.ofName mode
  | none => .ok FilterMode.standard

def filterList (inputs : Inputs) : Outcome Json := do
  let mode ← filterMode inputs
  let keep ← mode.test (input inputs "pattern").display
  pure (result "items" (.list ((itemsOf inputs).filter fun item => keep item.display)))

def mapList (inputs : Inputs) : Outcome Json :=
  let template := (words? inputs "template").getD itemPlaceholder
  .ok (result "items" (Json.texts ((itemsOf inputs).map fun item =>
    Text.replaceAll itemPlaceholder item.display template)))

def reduceList (inputs : Inputs) : Outcome Json :=
  let separator := Json.separator (Table.get? inputs "separator")
  .ok (result "result" (.text (Text.join separator ((itemsOf inputs).map Json.display))))

def negate (inputs : Inputs) : Outcome Json :=
  .ok (result "result" (.bool (!(input inputs "value").toBool)))

def anyOf (inputs : Inputs) : Outcome Json :=
  .ok (result "result" (.bool (inputs.any fun entry => entry.2.toBool)))

def branchMode (inputs : Inputs) : Outcome BranchMode :=
  match words? inputs "mode" with
  | some mode => BranchMode.ofName mode
  | none => .ok BranchMode.standard

def branchCondition (inputs : Inputs) : Outcome Json := do
  let mode ← branchMode inputs
  let taken ← mode.test (input inputs "value") (input inputs "compare").display
  pure (result "result" (.bool taken))

end AgentWorkflow.Plugin
