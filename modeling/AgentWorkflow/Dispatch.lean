/-
Running the tool calls of a turn.

* `CallOutcome` — what became of a call, and `CallOutcome.content`, what the model
  is told of it.
* `Dispatch.runCall` — a call is refused when there is no such tool or when its
  arguments cannot be read; then the user is asked, unless nothing is to be
  asked; then a tool that modifies the repository may be left out.
* `Dispatch.run` — one answering turn for each call, in the order of the calls.
-/
import AgentWorkflow.Json.Source
import AgentWorkflow.Session

namespace AgentWorkflow

/-- What became of a call. -/
inductive CallOutcome where
  | notFound
  | badArguments (error : String)
  | declined
  | withheld
  | succeeded (output : String)
  | failed (error : String)
  deriving DecidableEq, Repr

namespace CallOutcome

/-- What the model is told. -/
def content (texts : Texts) (tool : String) : CallOutcome → String
  | notFound => texts.format "tool_not_found" [("name", tool)]
  | badArguments error =>
    texts.format "tool_invalid_arguments" [("name", tool), ("error", error)]
  | declined => texts.format "tool_skipped_by_user" [("name", tool)]
  | withheld => texts.format "tool_skipped_dry_run" [("name", tool)]
  | succeeded output => output
  | failed error => texts.format "tool_error" [("name", tool), ("error", error)]

/-- The warning that goes with an outcome. -/
def note? (tool : String) : CallOutcome → Option Note
  | notFound => some (.warning "tool not found" [("tool", tool)])
  | badArguments error =>
    some (.warning "invalid tool arguments" [("tool", tool), ("error", error)])
  | failed error => some (.warning "tool failed" [("tool", tool), ("error", error)])
  | _ => none

end CallOutcome

namespace Dispatch

/-- How many items of a list the model is shown. -/
def previewLimit : Nat := 5

/-- The arguments that a call spells; a blank text spells none. -/
def readArguments (text : String) : Except String (Table Json) :=
  if Text.allBlank text then .ok []
  else
    match Json.parse text with
    | .ok (.object arguments) => .ok arguments
    | .ok other => .error ("expected a JSON object, got " ++ other.render)
    | .error e => .error e.message

/-- A result as the model is shown it. -/
def showResult (texts : Texts) (tool : String) : Json → String
  | .null => texts.format "tool_done" [("name", tool)]
  | .text s => s
  | .list items => (Json.list (items.take previewLimit)).render
  | other => other.render

/-- What a tool's answer amounts to. -/
def ofResult (texts : Texts) (tool : String) : Outcome Json → CallOutcome
  | .ok value => .succeeded (showResult texts tool value)
  | .error ⟨_, .panicked⟩ => .failed "tool panicked"
  | .error f => .failed f.message

/-- Runs a tool whose call was accepted. -/
def runTool (s : Session) (name : String) (tool : Tool) (arguments : Table Json) :
    Step CallOutcome := do
  pure (ofResult s.texts name (← Session.invoke name tool arguments))

/-- Asks the user, unless nothing is to be asked. -/
def confirmed (s : Session) (name : String) (arguments : Table Json) : Step Bool :=
  if s.flags.yolo then pure true else s.ask name arguments

/-- Decides on a call, and runs it when nothing stands against it. -/
def decide (s : Session) (name text : String) : Step CallOutcome :=
  match Table.get? s.tools name with
  | none => pure .notFound
  | some tool =>
    match readArguments text with
    | .error e => pure (.badArguments e)
    | .ok arguments => do
      if ← confirmed s name arguments then
        if s.withholds name then pure .withheld
        else runTool s name tool arguments
      else pure .declined

/-- Takes the warning of an outcome, if there is one. -/
def warn (tool : String) (outcome : CallOutcome) : Step Unit :=
  match outcome.note? tool with
  | some n => Step.note n
  | none => pure ()

/-- Runs a call and answers with a turn. -/
def runCall (s : Session) (call : ToolCall) : Step Message := do
  let outcome ← decide s call.name call.arguments
  warn call.name outcome
  pure (Message.toolResult call.id call.name (outcome.content s.texts call.name))

/-- Runs calls one after the other. -/
def run (s : Session) : List ToolCall → Step (List Message)
  | [] => pure []
  | call :: rest => do
    let answer ← runCall s call
    let more ← run s rest
    pure (answer :: more)

end Dispatch

end AgentWorkflow
