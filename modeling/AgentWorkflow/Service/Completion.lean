/-
A service that completes conversations.

* `Completion.Endpoint` — its address, and the token it asks for.
* `Completion.body` — what it is sent; tools are only mentioned when there are any.
* `Completion.complete` — asks it for the next turn.
* `Completion.persistent` — asks again, under a policy, when that fails.
-/
import AgentWorkflow.Http.Client
import AgentWorkflow.Retry
import AgentWorkflow.Session

namespace AgentWorkflow.Completion

structure Endpoint where
  address : String
  token : String

/-- The number one as the service is sent it. -/
def one : Json := .number (.float ((Binary64.ofNat 1).getD (Binary64.zero false)))

/-- What the service is sent. -/
def body (r : Request) : Json :=
  Json.ofMembers ([
    ("model", .text r.model),
    ("messages", Message.listToJson r.messages),
    ("temperature", one),
    ("top_p", one)] ++
    (if r.specs.isEmpty then []
      else [("tools", .list r.specs), ("tool_choice", .text "auto")]))

/-- The member or the item under a key; items are counted from zero. -/
def part? (key : String) : Json → Option Json
  | .object members => Table.get? members key
  | .list items => if key = "0" then items.head? else none
  | _ => none

/-- The turn in an answer of the service. -/
def turnOf (payload : Json) : Outcome Message :=
  match ((part? "choices" payload).bind (part? "0")).bind (part? "message") with
  | none => .error (Failure.stated "completion response has no choices[0].message")
  | some j => do
    match ← Message.ofJson? j with
    | none => .error (Failure.stated "completion response message is null")
    | some m => pure m

/-- Asks the service for the next turn. -/
def complete (e : Endpoint) (r : Request) : Job Message := do
  let address := Http.trimSlashes e.address ++ "/chat/completions"
  match ← Http.send (Http.posting address [Http.acceptAll, Http.bearer e.token] (body r)) with
  | none => Job.fail ⟨["completion request failed"], .http⟩
  | some answer =>
    if answer.isSuccess then
      let payload ← Job.ofOutcome (answer.json "invalid completion response")
      Job.ofOutcome (turnOf payload)
    else
      Job.fail (Failure.stated
        ("completion endpoint returned " ++ answer.line ++ ": " ++ answer.body))

/-- One attempt of a job that may always be repeated. -/
def attempt {α : Type} (j : Job α) : Deed (Retry.Attempt α) := do
  match ← Job.attempt j with
  | .ok a => pure (.success a)
  | .error f => pure (.failure f false)

/-- Asks again under a policy. -/
def persistent (p : Retry.Policy) (ask : Request → Job Message) (r : Request) : Job Message := do
  match ← Retry.run p "completion failed, retrying" (attempt (ask r)) with
  | (_, .ok m) => pure m
  | (made, .error f) =>
    Job.fail (f.within ("completion failed after " ++ toString made ++ " attempt(s)"))

end AgentWorkflow.Completion
