/-
Plugins that use the store directly.

* `Plugin.getVariable`, `Plugin.setVariable`, `Plugin.deleteVariable`,
  `Plugin.variableExists` — a key that is blank or no text is no key.
-/
import AgentWorkflow.Plugin.Basic

namespace AgentWorkflow.Plugin

def getVariable : Plugin := fun _ inputs => do
  let store ← Act.store
  let stored := (words? inputs "key").bind store.get?
  pure (.object [
    ("exists", .bool stored.isSome),
    ("result", stored.getD (input inputs "default"))])

def setVariable : Plugin := fun s inputs =>
  match words? inputs "key" with
  | none =>
    pure (.object [("error", .text (s.texts.get "no_key_provided")), ("result", .null)])
  | some key => do
    let value := input inputs "value"
    Act.setStore ((← Act.store).insert key value)
    pure (.object [("key", .text key), ("result", value)])

def deleteVariable : Plugin := fun _ inputs =>
  match words? inputs "key" with
  | none => pure (deletion false)
  | some key => do
    let store ← Act.store
    Act.setStore (store.erase key)
    pure (deletion (store.get? key).isSome)
where
  deletion (deleted : Bool) : Json :=
    .object [("deleted", .bool deleted), ("result", .bool deleted)]

def variableExists : Plugin := fun _ inputs => do
  let store ← Act.store
  pure (result "result" (.bool ((words? inputs "key").bind store.get?).isSome))

end AgentWorkflow.Plugin
