/-
What the model is told about the state of the work.

* `Context.render` — the roadmap, or the request to write one, then the open
  issues and the open pull requests.  Blanks at both ends are dropped.
* `Context.build` — the same from the roadmap on disk and from the host.  Lists
  that the host does not give are left out, with a note.
-/
import AgentWorkflow.Roadmap.File
import AgentWorkflow.Session

namespace AgentWorkflow.Context

/-- How many issues and how many pull requests are listed. -/
def itemLimit : Nat := 5

def renderItem (item : Summary) : String :=
  "- #" ++ toString item.number ++ ": " ++ item.title ++ "\n"

/-- A list under a heading; an empty one is left out. -/
def renderItems (heading : String) (items : List Summary) : String :=
  if items.isEmpty then ""
  else "\n" ++ heading ++ "\n" ++ String.join (items.map renderItem)

def renderRoadmap (texts : Texts) : Option String → String
  | some roadmap => texts.get "roadmap_label" ++ "\n" ++ roadmap
  | none => texts.get "missing_roadmap_msg"

def render (texts : Texts) (roadmap : Option String) (issues pulls : List Summary) : String :=
  Text.trim (renderRoadmap texts roadmap ++ "\n" ++
    renderItems (texts.get "open_issues_label") issues ++
    renderItems (texts.get "open_prs_label") pulls)

/-- The first items of a list that the host gives, or none with a note. -/
def firstItems (what : String) (job : Job (List Summary)) : Deed (List Summary) := do
  match ← Job.attempt job with
  | .ok items => pure (items.take itemLimit)
  | .error f =>
    Deed.note (.error ("failed to fetch " ++ what ++ " for sdlc context") [("err", f.message)])
    pure []

def build (texts : Texts) (roadmapPath : String) (forge : Option Forge) : Job String := do
  let roadmap ← Roadmap.read roadmapPath
  match forge with
  | none => pure (render texts roadmap [] [])
  | some forge => do
    let issues ← firstItems "open issues" forge.openIssues
    let pulls ← firstItems "open pull requests" forge.openPullRequests
    pure (render texts roadmap issues pulls)

end AgentWorkflow.Context
