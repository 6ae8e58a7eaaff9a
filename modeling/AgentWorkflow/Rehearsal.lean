/-
Collaborators that do what was prepared for them.

* `Rehearsal.complete` — a model that gives the prepared replies in order.
* `Rehearsal.confirm` — a user who gives the prepared answers, the last one again
  and again, and agrees when nothing was prepared.
* `Rehearsal.channel`, `Rehearsal.forge`, `Rehearsal.tool` — a channel, a
  repository host and tools that behave as their names or their description say.
* `Rehearsal.session` — a session on such a model, such a user and such tools.
-/
import AgentWorkflow.Plugin.Basic

namespace AgentWorkflow.Rehearsal

/-- Takes the next prepared reply. -/
def complete (_ : Request) : Job Message := do
  let site ← get
  let r := { site.rehearsal with requests := site.rehearsal.requests + 1 }
  match r.replies with
  | [] =>
    set { site with rehearsal := r }
    Job.fail (Failure.stated "no replies left")
  | reply :: rest =>
    set { site with rehearsal := { r with replies := rest } }
    match reply with
    | .message m => pure m
    | .refusal f => Job.fail f

/-- Takes the next prepared answer. -/
def confirm (_ : String) (_ : Table Json) : Deed Bool := do
  let site ← get
  match site.rehearsal.answers with
  | [] => pure true
  | [answer] => pure answer
  | answer :: rest =>
    set { site with rehearsal := { site.rehearsal with answers := rest } }
    pure answer

/-- A channel that delivers, unless its name begins with `fail`. -/
def channel (name : String) : Channel :=
  ⟨name, fun _ =>
    if Text.beginsWith "fail" name then Job.fail (Failure.stated "offline") else pure ()⟩

/-- A host that keeps a ledger of what is made on it. -/
def forge (issues pulls : List Summary) : Forge where
  openIssues := pure issues
  openPullRequests := pure pulls
  createBranch name base := modify fun s =>
    { s with ledger := { s.ledger with branches := s.ledger.branches ++ [(name, base)] } }
  createPullRequest draft := do
    let site ← get
    let pulls := site.ledger.pullRequests ++ [draft]
    set { site with ledger := { site.ledger with pullRequests := pulls } }
    pure ⟨pulls.length, draft.title⟩

/-- A host that refuses everything. -/
def failingForge (reason : String) : Forge where
  openIssues := Job.fail (Failure.stated reason)
  openPullRequests := Job.fail (Failure.stated reason)
  createBranch _ _ := Job.fail (Failure.stated reason)
  createPullRequest _ := Job.fail (Failure.stated reason)

/-- What a prepared tool does. -/
inductive Behaviour where
  | returns (value : Json)
  | fails (reason : String)
  /-- Stops without an answer. -/
  | panics
  /-- Returns its arguments. -/
  | echoes

def tool : Behaviour → Tool
  | .returns value, _ => pure value
  | .fails reason, _ => Job.fail (Failure.stated reason)
  | .panics, _ => Job.fail (Failure.of .panicked)
  | .echoes, arguments => pure (.object arguments)

/-- A session on a prepared model and a prepared user, without a host and without
channels. -/
def session (flags : Flags) (policy : Tool.Policy) (tools : Table Behaviour) : Session where
  flags
  model := "rehearsal"
  prompt := [Message.system "You are rehearsing."]
  specs := []
  tools := Table.mapValues tool tools
  policy
  texts := Texts.standard
  roadmapPath := "ROADMAP.md"
  forge := none
  channels := []
  complete
  confirm

/-- The plugins that serve to try out workflows. -/
def plugins : Table Plugin := [
    ("test.count", count), ("test.echo", echo), ("test.fail", fail), ("test.value", value)]
where
  echo : Plugin := fun _ inputs => pure (.object inputs)
  value : Plugin := fun _ inputs => pure ((Table.get? inputs "value").getD .null)
  fail : Plugin := fun _ inputs =>
    throw (Failure.stated (((Table.get? inputs "message").bind Json.text?).getD "boom"))
  count : Plugin := fun _ _ => do
    let calls := (← get).record.filter fun e => match e with
      | .called type _ => type == "test.count"
      | _ => false
    pure (.object [("n", Json.nat calls.length)])

end AgentWorkflow.Rehearsal
