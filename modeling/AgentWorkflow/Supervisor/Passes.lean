/-
The passes of a run.

* `RunPlan.run` — makes passes one after the other and answers what came of each one
  that was started.  No other pass follows one that failed, and none is started once
  the milestone of the roadmap is reached and the plan says so.
* `panicked` — whether a run ended because a pass stopped without an answer.
-/
import AgentWorkflow.Roadmap.File
import AgentWorkflow.Supervisor.Basic

namespace AgentWorkflow.RunPlan

variable {α : Type}

/-- Whether the run ends before its next pass. -/
def stopsEarly (plan : RunPlan) : Deed Bool :=
  if plan.stopAtMilestone then Roadmap.milestoneReached plan.roadmapPath else pure false

/-- Whether a pass stopped without an answer. -/
def isPanic : Outcome α → Bool
  | .error ⟨_, .panicked⟩ => true
  | _ => false

/-- Notes that a pass failed.  Of one that stopped without an answer there is nothing
to tell. -/
def noteFailure (number : Nat) (f : Failure) : Deed Unit :=
  match f.cause with
  | .panicked => pure ()
  | _ =>
    Deed.note (.error "run pass failed" [("pass", toString number), ("err", f.message)])

/-- At most `left` passes, the first of which has the given number. -/
def runFrom (plan : RunPlan) (pass : Job α) : Nat → Nat → Deed (List (Outcome α))
  | 0, _ => pure []
  | left + 1, number => do
    if ← plan.stopsEarly then pure []
    else
      match ← Job.attempt pass with
      | .error f => do
        noteFailure number f
        pure [.error f]
      | .ok a => do
        let more ← runFrom plan pass left (number + 1)
        pure (.ok a :: more)

/-- The passes of a run, with what came of each that was started. -/
def run (plan : RunPlan) (pass : Job α) : Deed (List (Outcome α)) :=
  plan.runFrom pass plan.mode.passes 1

/-- Whether a run ended because a pass stopped without an answer. -/
def panicked (results : List (Outcome α)) : Bool := results.any isPanic

end AgentWorkflow.RunPlan
