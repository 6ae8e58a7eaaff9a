/-
A conversation with the model, round by round.

* `Conversation.contextTurn`, `Conversation.instructionTurn` — the turns that
  follow the prompt.
* `Conversation.announce`, `Conversation.stopAtMilestone` — the notices that a
  run sends.
* `Conversation.run` — asks the model and runs the tools it calls until it calls
  none, or another reason to stop holds.

Design notes: the limit counts the passes that are left, and a pass is always
made.  That one reason to stop is reported before another is the order of the
tests in `Conversation.pass`.
-/
import AgentWorkflow.Context
import AgentWorkflow.Dispatch

namespace AgentWorkflow

/-- Why a conversation ended. -/
inductive Stop where
  /-- The model called no tool. -/
  | completed
  /-- The pass after the first round of tools was made, and no more are asked
  for. -/
  | once
  /-- The milestone of the roadmap is reached. -/
  | milestone
  /-- The limit of passes is reached. -/
  | limit
  deriving DecidableEq, Repr

/-- How a conversation went. -/
structure Transcript where
  /-- How often the model was asked. -/
  passes : Nat
  stop : Stop
  messages : List Message

namespace Conversation

/-- How many characters of the last answer are quoted. -/
def quoteLength : Nat := 100

def contextTurn (texts : Texts) (context : String) : Message :=
  Message.system (texts.get "sdlc_context_label" ++ context)

def instructionTurn (texts : Texts) : Message := Message.user (texts.get "user_next_step")

/-- The notice that quotes the beginning of an answer. -/
def completionNotice (texts : Texts) (answer : String) : String :=
  texts.format "task_complete_notice"
    [("summary", String.ofList (answer.toList.take quoteLength))]

/-- Announces the end of the work, unless the answer is empty. -/
def announce (s : Session) (reply : Message) : Step Unit := do
  if reply.text.isEmpty then pure ()
  else
    let _ ← s.notifyAll (completionNotice s.texts reply.text)

/-- Whether the milestone of the roadmap is reached. -/
def milestoneReached (s : Session) : Step Bool :=
  Step.deed (Roadmap.milestoneReached s.roadmapPath)

/-- Without questions, looks whether the milestone is reached and sends a notice
when it is. -/
def stopAtMilestone (s : Session) : Step Bool := do
  if !s.flags.yolo then pure false
  else if ← milestoneReached s then
    let _ ← s.notifyAll (s.texts.get "mvp_reached_notice")
    pure true
  else pure false

/-- The conversation before the model is first asked. -/
def opening (s : Session) (context : String) : List Message :=
  s.prompt ++ [contextTurn s.texts context, instructionTurn s.texts]

def limitNotice (texts : Texts) (limit : Nat) : String :=
  texts.format "max_iterations_reached" [("max", toString limit)]

/-- Passes until a reason to stop holds.  `left` is the number of passes that may
follow the next one. -/
def passes (s : Session) (limit : Nat) (left done : Nat) (messages : List Message) :
    Act Transcript := do
  let reply ← s.request messages
  let messages := messages ++ [reply]
  let done := done + 1
  if !reply.hasToolCalls then
    announce s reply
    pure ⟨done, .completed, messages⟩
  else if s.flags.once && 2 ≤ done then pure ⟨done, .once, messages⟩
  else
    let results ← Dispatch.run s reply.toolCalls
    let messages := messages ++ results
    if ← stopAtMilestone s then pure ⟨done, .milestone, messages⟩
    else
      match left with
      | 0 => do
        Step.note (.warning (limitNotice s.texts limit) [])
        pure ⟨done, .limit, messages⟩
      | left + 1 => passes s limit left done messages

/-- A whole conversation of at most `limit` passes, and of at least one. -/
def run (s : Session) (limit : Nat) : Act Transcript := do
  let context ← Act.job (Context.build s.texts s.roadmapPath s.forge)
  passes s limit (limit - 1) 0 (opening s context)

end Conversation

end AgentWorkflow
