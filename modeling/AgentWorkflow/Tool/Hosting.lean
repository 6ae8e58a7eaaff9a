/-
The tools that work on the repository host.

* `Tool.createBranch`, `Tool.createPullRequest`, `Tool.listOpenIssues`.
-/
import AgentWorkflow.Session
import AgentWorkflow.Tool.Arguments

namespace AgentWorkflow.Tool

/-- The branch that new work starts from where no other is given. -/
def mainBranch : String := "main"

def createBranch (forge : Forge) : Tool := fun args => do
  let branch ← Job.ofOutcome (argument args "branch_name")
  let base ← Job.ofOutcome (argumentOr args "base_branch" mainBranch)
  forge.createBranch branch base
  pure (.text ("Created branch " ++ branch ++ " from " ++ base))

/-- The pull request that arguments describe. -/
def pullRequestOf (args : Table Json) : Outcome PullRequest := do
  let title ← argument args "title"
  let body ← argumentOr args "body" ""
  let head ← argument args "head_branch"
  let base ← argumentOr args "base_branch" mainBranch
  pure ⟨title, body, head, base⟩

/-- The number and the title of an issue or a pull request in a line. -/
def showSummary (s : Summary) : String := "#" ++ toString s.number ++ ": " ++ s.title

def createPullRequest (forge : Forge) : Tool := fun args => do
  let draft ← Job.ofOutcome (pullRequestOf args)
  let made ← forge.createPullRequest draft
  pure (.text ("Created pull request " ++ showSummary made))

def listOpenIssues (forge : Forge) : Tool := fun _ => do
  let issues ← forge.openIssues
  pure (Json.texts (issues.map showSummary))

/-- The tool on the host of a name. -/
def hostingTool? (forge : Forge) (name : String) : Option Tool :=
  match name with
  | "create_branch" => some (createBranch forge)
  | "create_pull_request" => some (createPullRequest forge)
  | "list_open_issues" => some (listOpenIssues forge)
  | _ => none

end AgentWorkflow.Tool
