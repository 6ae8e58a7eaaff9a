/-
The workflow that is run when no other is given.

* `Workflow.standard` — the context and the instruction are put behind the seed
  of the conversation; then a loop asks the model, runs the tools it calls, and
  ends when it calls none or the milestone of the roadmap is reached.
-/
import AgentWorkflow.Workflow.Codec

namespace AgentWorkflow.Workflow

/-- A node that runs a plugin on some inputs and writes some of its results. -/
def pluginNode (id type : String) (inputs : Inputs) (outputs : Table String) : Node :=
  .mk { type, id := some id, inputs, outputs := some outputs } [] [] []

/-! ### The opening -/

def contextNode : Node :=
  pluginNode "load_context" "core.load_context" [] [("context", "sdlc_context")]

def seedNode : Node := pluginNode "seed_messages" "core.seed_messages" [] [("messages", "messages")]

def contextTurnNode : Node :=
  pluginNode "append_context" "core.append_context_message"
    [("context", .text "$sdlc_context"), ("messages", .text "$messages")]
    [("messages", "messages")]

def instructionNode : Node :=
  pluginNode "append_instruction" "core.append_user_instruction"
    [("messages", .text "$messages")]
    [("messages", "messages")]

/-! ### A round -/

def requestNode : Node :=
  pluginNode "ai_request" "core.ai_request"
    [("messages", .text "$messages")]
    [("messages", "messages"), ("response", "llm_response")]

def callsNode : Node :=
  pluginNode "run_tool_calls" "core.run_tool_calls"
    [("response", .text "$llm_response")]
    [("no_tool_calls", "no_tool_calls"), ("tool_results", "tool_results")]

def answersNode : Node :=
  pluginNode "append_tool_results" "core.append_tool_results"
    [("messages", .text "$messages"), ("tool_results", .text "$tool_results")]
    [("messages", "messages"), ("mvp_reached", "mvp_reached")]

def stopNode : Node :=
  pluginNode "should_stop" "utils.any"
    [("mvp_reached", .text "$mvp_reached"), ("no_tool_calls", .text "$no_tool_calls")]
    [("result", "should_stop")]

/-- One round of the conversation. -/
def standardRound : List Node := [requestNode, callsNode, answersNode, stopNode]

/-! ### The loop -/

/-- How often the loop of the standard workflow goes round at most. -/
def standardLimit : Nat := 10

def loopHead : NodeHead where
  type := "control.loop"
  id := some "main_loop"
  inputs := [
    ("max_iterations", Json.nat standardLimit),
    ("stop_on", .bool true),
    ("stop_when", .text "$should_stop")]

def standard : Workflow :=
  ⟨some "sdlc-loop",
    [contextNode, seedNode, contextTurnNode, instructionNode, .mk loopHead standardRound [] []]⟩

end AgentWorkflow.Workflow
