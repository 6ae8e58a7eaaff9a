/-
At most one run at a time.

* `RunMode`, `RunPlan` — how many passes a run makes, and what else is asked of it.
* `Slot` — the place that the current run holds, with the number of the last run.
* `Supervisor` — the slot and the workers that have not ended yet.
* `Supervisor.start`, `Supervisor.finish`, `Supervisor.reset` — a start takes the slot
  if it is free; a worker that ends frees it if the slot is still its own; a reset
  frees it and leaves the worker alone.

Design notes: runs are numbered from one by a counter of 64 bits.  No number is given
twice before the counter is back at its start, so until then a worker that ends after a
reset cannot free the slot of a later run.
-/
import AgentWorkflow.Note

namespace AgentWorkflow

inductive RunMode where
  | once
  /-- At most so many passes. -/
  | iterations (count : Nat)
  /-- One pass that goes on until it has a reason to stop. -/
  | continuous
  deriving DecidableEq, Repr

/-- How many passes are made at most. -/
def RunMode.passes : RunMode → Nat
  | .once => 1
  | .iterations count => count
  | .continuous => 1

def RunMode.text : RunMode → String
  | .once => "Once"
  | .iterations count => "Iterations(" ++ toString count ++ ")"
  | .continuous => "Continuous"

/-- What is asked of a run. -/
structure RunPlan where
  mode : RunMode
  yolo : Bool
  /-- Whether the milestone of the roadmap ends the run. -/
  stopAtMilestone : Bool
  roadmapPath : String
  deriving DecidableEq, Repr

/-- The current run, if there is one, and the number of the last run. -/
structure Slot where
  last : Nat
  active : Option (Nat × RunPlan)
  deriving DecidableEq, Repr

namespace Slot

def free : Slot := ⟨0, none⟩

/-- How many numbers there are for runs. -/
def numbers : Nat := Nat.pow 2 64

/-- The number of the next run. -/
def next (s : Slot) : Nat := (s.last + 1) % numbers

/-- Takes a free slot; `none` when it is taken. -/
def take? (s : Slot) (plan : RunPlan) : Option (Nat × Slot) :=
  match s.active with
  | some _ => none
  | none => some (s.next, ⟨s.next, some (s.next, plan)⟩)

/-- Whether a run holds the slot. -/
def isHeldBy (s : Slot) (id : Nat) : Bool :=
  match s.active with
  | some (other, _) => other == id
  | none => false

/-- Frees the slot when a run holds it. -/
def leave (s : Slot) (id : Nat) : Slot := if s.isHeldBy id then { s with active := none } else s

/-- Frees the slot. -/
def clear (s : Slot) : Slot := { s with active := none }

end Slot

/-- The slot and the workers that have not ended. -/
structure Supervisor where
  slot : Slot
  workers : List (Nat × RunPlan)
  deriving DecidableEq, Repr

namespace Supervisor

def idle : Supervisor := ⟨Slot.free, []⟩

/-- Starts a run; answers its number, or `none` when another run is there. -/
def start (s : Supervisor) (plan : RunPlan) : Option Nat × Supervisor :=
  match s.slot.take? plan with
  | none => (none, s)
  | some (id, slot) => (some id, ⟨slot, s.workers ++ [(id, plan)]⟩)

/-- The worker of a run ends, however it ends. -/
def finish (s : Supervisor) (id : Nat) : Supervisor :=
  ⟨s.slot.leave id, s.workers.filter fun w => w.1 != id⟩

/-- Frees the slot; a worker is not interrupted. -/
def reset (s : Supervisor) : Supervisor := { s with slot := s.slot.clear }

def isRunning (s : Supervisor) : Bool := s.slot.active.isSome

def current? (s : Supervisor) : Option RunPlan := s.slot.active.map Prod.snd

/-- The warning that goes with a start, if it is rejected. -/
def startNote? (s : Supervisor) : Option Note :=
  s.current?.map fun plan =>
    .warning "run already in progress, rejecting start" [("mode", plan.mode.text)]

/-- The warning that goes with a reset, if there was a run. -/
def resetNote? (s : Supervisor) : Option Note :=
  s.current?.map fun _ => .warning "run slot reset while a run was recorded as active" []

end Supervisor

end AgentWorkflow
