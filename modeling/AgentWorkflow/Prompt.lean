/-
The prompt that a conversation begins with.

* `Prompt` — turns, and the model they are for if one is named.
* `Prompt.parse` — the prompt in a text; one without turns is refused.
* `Prompt.load` — the prompt of a file, or the standard one where there is none.
-/
import AgentWorkflow.Files.Disk
import AgentWorkflow.Message
import AgentWorkflow.Yaml.Decode

namespace AgentWorkflow

structure Prompt where
  model : Option String
  messages : List Message
  deriving DecidableEq, Repr

namespace Prompt

open Yaml.Decode

/-! ### Decoding -/

/-- The name and the arguments of a tool call. -/
def function? (n : Yaml.Node) : Option (String × String) := do
  let fs ← fields ["name", "arguments"] n
  let name ← needed fs "name" text?
  let arguments ← given fs "arguments" "" text?
  some (name, arguments)

def toolCall? (n : Yaml.Node) : Option ToolCall := do
  let fs ← fields ["id", "type", "function"] n
  let id ← needed fs "id" text?
  let kind ← given fs "type" ToolCall.standardKind text?
  let (name, arguments) ← needed fs "function" function?
  some ⟨id, kind, name, arguments⟩

def message? (n : Yaml.Node) : Option Message := do
  let fs ← fields ["role", "content", "tool_calls", "tool_call_id", "name"] n
  let role ← needed fs "role" (word (Role.all.map fun r => (r.name, r)))
  let content ← given fs "content" none (optional text?)
  let calls ← given fs "tool_calls" none (optional (listOf toolCall?))
  let callId ← given fs "tool_call_id" none (optional text?)
  let name ← given fs "name" none (optional text?)
  some ⟨role, content, calls.getD [], callId, name⟩

/-- The prompt of a document; an empty document is a prompt without turns. -/
def ofDocument? : Option Yaml.Node → Option Prompt
  | none => some ⟨none, []⟩
  | some n => do
    let fs ← fields ["model", "messages"] n
    let model ← given fs "model" none (optional text?)
    let messages ← given fs "messages" [] (listOf message?)
    some ⟨model, messages⟩

/-! ### Texts and files -/

/-- The prompt in a text. -/
def parse (raw : String) : Outcome Prompt :=
  match (Yaml.Node.ofText? raw).bind ofDocument? with
  | none => .error ⟨["parse prompt yaml"], .yaml⟩
  | some p =>
    if p.messages.isEmpty then
      .error (Failure.stated "prompt must contain at least one message")
    else .ok p

/-- What the model is told where no prompt is given. -/
def standardText : String := Text.join "\n" [
  "You are an autonomous software engineer working on this repository.",
  "Keep ROADMAP.md current: mark finished items with [x] and add new work as [ ] items.",
  "Work in small steps. Prefer reading code before changing it, run the tests and the",
  "linter after every change, and open a pull request from a feature branch when a",
  "roadmap item is done.", ""]

def standard : Prompt := ⟨some "openai/gpt-4.1", [Message.system standardText]⟩

/-- The prompt of a file, or the standard one. -/
def load (disk : Disk) (path : String) : Outcome Prompt :=
  match disk.find path with
  | .error _ => .ok standard
  | .ok _ => do
    let raw ← Outcome.ofOs ("read " ++ path) (disk.readText path)
    Outcome.within ("load prompt " ++ path) (parse raw)

end Prompt

end AgentWorkflow
