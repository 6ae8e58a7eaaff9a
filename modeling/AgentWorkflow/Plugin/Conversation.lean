/-
Plugins that hold the conversation with the model.

* `Plugin.seedMessages`, `Plugin.loadContext`, `Plugin.appendContext`,
  `Plugin.appendInstruction` — the opening, turn by turn.
* `Plugin.aiRequest`, `Plugin.runToolCalls`, `Plugin.appendToolResults` — a round:
  the model is asked, the tools it calls are run, and their answers are put
  behind its turn.
-/
import AgentWorkflow.Conversation
import AgentWorkflow.Json.Coercion
import AgentWorkflow.Plugin.Basic

namespace AgentWorkflow.Plugin

def messagesOf (inputs : Inputs) : Outcome (List Message) :=
  Message.listOfJson (input inputs "messages")

def seedMessages : Plugin := fun s _ =>
  pure (result "messages" (Message.listToJson s.prompt))

def loadContext : Plugin := fun s _ => do
  let context ← Act.job (Context.build s.texts s.roadmapPath s.forge)
  pure (result "context" (.text context))

def appendContext : Plugin := fun s inputs => do
  let messages ← Act.ofOutcome (messagesOf inputs)
  let turn := Conversation.contextTurn s.texts (input inputs "context").display
  pure (result "messages" (Message.listToJson (messages ++ [turn])))

def appendInstruction : Plugin := fun s inputs => do
  let messages ← Act.ofOutcome (messagesOf inputs)
  pure (result "messages"
    (Message.listToJson (messages ++ [Conversation.instructionTurn s.texts])))

def aiRequest : Plugin := fun s inputs => do
  let messages ← Act.ofOutcome (messagesOf inputs)
  let reply ← s.request messages
  pure (.object [
    ("has_tool_calls", .bool reply.hasToolCalls),
    ("messages", Message.listToJson (messages ++ [reply])),
    ("response", reply.toJson),
    ("tool_calls_count", Json.nat reply.toolCalls.length)])

/-- The answers to the tool calls of a turn; `none` is set when there were no
calls. -/
def toolResults (results : List Message) (none : Bool) : Json :=
  .object [("no_tool_calls", .bool none), ("tool_results", Message.listToJson results)]

def runToolCalls : Plugin := fun s inputs => do
  match ← Act.ofOutcome (Message.ofJson? (input inputs "response")) with
  | none => pure (toolResults [] true)
  | some reply =>
    if reply.hasToolCalls then
      let results ← Dispatch.run s reply.toolCalls
      pure (toolResults results false)
    else
      Conversation.announce s reply
      pure (toolResults [] true)

def appendToolResults : Plugin := fun s inputs => do
  let messages ← Act.ofOutcome (messagesOf inputs)
  let results ← Act.ofOutcome (Message.listOfJson (input inputs "tool_results"))
  let reached ← Conversation.stopAtMilestone s
  pure (.object [
    ("messages", Message.listToJson (messages ++ results)),
    ("mvp_reached", .bool reached)])

end AgentWorkflow.Plugin
