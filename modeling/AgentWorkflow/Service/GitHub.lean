/-
The repository host.

* `GitHub` — a repository by its address; `GitHub.open?` refuses a name that is not
  made of an owner and a name.
* `GitHub.send` — makes a call again when nothing comes back or the host says that it
  is busy or broken.
* `GitHub.openIssues`, `GitHub.openPullRequests`, `GitHub.createBranch`,
  `GitHub.createPullRequest` — what the host is asked for.
-/
import AgentWorkflow.Http.Client
import AgentWorkflow.Retry
import AgentWorkflow.Session

namespace AgentWorkflow

/-- A repository of the host. -/
structure GitHub where
  address : String
  repository : String
  token : String
  retry : Retry.Policy

namespace GitHub

def standardAddress : String := "https://api.github.com"

def standardRetry : Retry.Policy := ⟨3, 2000, 10000⟩

/-- Whether a name is made of an owner and a name with one slash between them. -/
def isRepositoryName (name : String) : Bool :=
  match Text.splitAt '/' name with
  | [owner, own] => !owner.isEmpty && !own.isEmpty
  | _ => false

def ofName (address repository token : String) (retry : Retry.Policy) : Outcome GitHub :=
  if isRepositoryName repository then
    .ok ⟨Http.trimSlashes address, repository, token, retry⟩
  else
    .error (Failure.stated ("repository must be 'owner/name', got '" ++ repository ++ "'"))

/-- The address of something in the repository. -/
def addressOf (g : GitHub) (path : String) : String :=
  g.address ++ "/repos/" ++ g.repository ++ "/" ++ path

def headers (g : GitHub) : List (String × String) := [
  ("accept", "application/vnd.github+json"), Http.bearer g.token,
  ("user-agent", "autopilot/0.1.0")]

/-- Whether the host may answer otherwise when it is asked again. -/
def isPassing (status : Nat) : Bool :=
  Http.Status.isServerError status || status == Http.Status.tooManyRequests

/-- Makes a call once. -/
def attempt (what : String) (c : Http.Call) : Deed (Retry.Attempt Json) := do
  match ← Http.send c with
  | none => pure (.failure ⟨["GitHub " ++ what], .http⟩ false)
  | some answer =>
    if answer.isSuccess then
      match answer.json ("decode GitHub " ++ what ++ " response") with
      | .ok j => pure (.success j)
      | .error f => pure (.failure f true)
    else
      let f := Failure.stated
        ("GitHub " ++ what ++ " returned " ++ answer.line ++ ": " ++ answer.body)
      pure (.failure f (!isPassing answer.status))

/-- Makes a call, again and again when that may help. -/
def send (g : GitHub) (what : String) (c : Http.Call) : Job Json := do
  if ← Http.isWellFormed c then
    let (_, outcome) ← Retry.run g.retry "GitHub request failed, retrying" (attempt what c)
    Job.ofOutcome outcome
  else Job.fail (Failure.stated ("GitHub " ++ what ++ " request cannot be sent"))

def read (g : GitHub) (what path parameters : String) : Job Json :=
  g.send what (Http.getting (g.addressOf path) parameters g.headers)

def create (g : GitHub) (what path : String) (body : Json) : Job Json :=
  g.send what (Http.posting (g.addressOf path) g.headers body)

/-! ### Issues and pull requests -/

open Json (Decoder)

/-- A number that is not negative. -/
def decodeNumber : Decoder Nat
  | .number (.whole i) =>
    if 0 ≤ i then .ok i.toNat
    else .error (.wrongValue (Json.describe (.number (.whole i))) "u64")
  | other => Json.wrongType other "u64"

/-- The summary that an item of the host gives; what is not there counts as null. -/
def summaryOf (item : Json) : Outcome Summary :=
  Outcome.ofMismatch "decode issue summary" do
    let number ← decodeNumber ((item.member? "number").getD .null)
    let title ← Json.Decode.string ((item.member? "title").getD .null)
    pure ⟨number, title⟩

def summaries : List Json → Outcome (List Summary)
  | [] => .ok []
  | item :: rest => do
    let s ← summaryOf item
    let more ← summaries rest
    pure (s :: more)

/-- The open items of a kind. -/
def openItems (g : GitHub) (what path : String) : Job (List Json) := do
  match ← g.read what path "state=open&per_page=30" with
  | .list items => pure items
  | other =>
    Job.fail (Failure.stated ("GitHub " ++ what ++ " returned a non-list: " ++ other.render))

/-- The open issues.  The host lists pull requests among them. -/
def openIssues (g : GitHub) : Job (List Summary) := do
  let items ← g.openItems "list issues" "issues"
  Job.ofOutcome (summaries (items.filter fun item => (item.member? "pull_request").isNone))

def openPullRequests (g : GitHub) : Job (List Summary) := do
  Job.ofOutcome (summaries (← g.openItems "list pull requests" "pulls"))

/-- The commit that a branch is at. -/
def commitOf (g : GitHub) (branch : String) : Job String := do
  let found ← g.read "read base branch" ("git/ref/heads/" ++ branch) ""
  match ((found.member? "object").bind fun o => o.member? "sha").bind Json.text? with
  | some commit => pure commit
  | none => Job.fail (Failure.stated ("base branch '" ++ branch ++ "' has no commit sha"))

def createBranch (g : GitHub) (name base : String) : Job Unit := do
  let commit ← g.commitOf base
  let _ ← g.create "create branch" "git/refs"
    (.object [("ref", .text ("refs/heads/" ++ name)), ("sha", .text commit)])

def createPullRequest (g : GitHub) (draft : PullRequest) : Job Summary := do
  let created ← g.create "create pull request" "pulls" (.object [
    ("base", .text draft.base), ("body", .text draft.body), ("head", .text draft.head),
    ("title", .text draft.title)])
  Job.ofOutcome (summaryOf created)

def toForge (g : GitHub) : Forge :=
  ⟨g.openIssues, g.openPullRequests, g.createBranch, g.createPullRequest⟩

end GitHub

end AgentWorkflow
