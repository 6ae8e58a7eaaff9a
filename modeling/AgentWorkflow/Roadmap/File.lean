/-
The roadmap on disk.

* `Roadmap.read`, `Roadmap.write` — its text; there may be no roadmap.
* `Roadmap.milestoneReached` — whether its milestone is reached.  A roadmap that
  cannot be read counts as one that is not there, with a warning.
-/
import AgentWorkflow.Roadmap.Milestone
import AgentWorkflow.Site

namespace AgentWorkflow.Roadmap

/-- The text of the roadmap, if there is one. -/
def read (path : String) : Job (Option String) := do
  match (← Job.disk).readText path with
  | .ok text => pure (some text)
  | .error .notFound => pure none
  | .error e => Job.fail ⟨["read roadmap " ++ path], .os e⟩

/-- Writes the roadmap and makes the directories above it. -/
def write (path content : String) : Job Unit := do
  match Path.parent? path with
  | none => pure ()
  | some "" => pure ()
  | some up => Job.makeDirs ("create directory " ++ up) up
  Job.change ("write roadmap " ++ path) fun d => d.write path (Text.encode content)

/-- Whether the milestone of the roadmap is reached. -/
def milestoneReached (path : String) : Deed Bool := do
  match ← Job.attempt (read path) with
  | .ok (some text) => pure (mvpReached text)
  | .ok none => pure false
  | .error f =>
    Deed.note (.warning "roadmap unreadable, assuming MVP not reached" [("err", f.message)])
    pure false

end AgentWorkflow.Roadmap
