/-
The program.

* `ExitCode` — how it ends.
* `Program.runPass` — one pass of a run, with tools and a conversation of its own.
* `Program.run` — the whole program, on the site that it is started at.

Design notes: a failure before the first pass is told to the user.  What a pass fails
with is among the notes of the run; the user only sees the exit code.
-/
import AgentWorkflow.CommandLine.Arguments
import AgentWorkflow.Console
import AgentWorkflow.Conversation
import AgentWorkflow.Environment.File
import AgentWorkflow.Project
import AgentWorkflow.Supervisor.Passes
import AgentWorkflow.Workflow.Run

namespace AgentWorkflow.CommandLine

inductive ExitCode where
  | ok
  /-- Something that the program is given is wrong, or a pass failed. -/
  | invalid
  /-- A limit was reached before the work was done. -/
  | limit
  /-- Another run is there. -/
  | busy
  /-- The arguments cannot be understood. -/
  | misuse
  deriving DecidableEq, Repr

def ExitCode.number : ExitCode → Nat
  | ok => 0
  | invalid => 1
  | limit => 2
  | busy => 3
  | misuse => 2

namespace Program

/-- Tells the user what went wrong. -/
def refuse (f : Failure) : Deed ExitCode := do
  Console.tell (f.message ++ "\n")
  pure .invalid

/-- Goes on with the outcome of a step, or tells what went wrong. -/
def orRefuse {α : Type} (outcome : Outcome α) (next : α → Deed ExitCode) : Deed ExitCode :=
  match outcome with
  | .ok a => next a
  | .error f => refuse f

/-! ### Runs -/

/-- One pass: the conversation on its own, or the workflow. -/
def runPass (p : Project) (registry : Registry) (document : Json) (o : RunOptions)
    (e : Environment) : Job ExitCode := do
  let session ← p.session o.flags e.value? Console.confirm
  if o.direct then
    let transcript ← Act.alone (Conversation.run session p.config.maxIterations)
    pure (if transcript.stop = .limit then .limit else .ok)
  else
    let report ← Act.alone (Workflow.runDocument session registry document)
    pure (if 0 < report.exhaustedLoops then .limit else .ok)

def planOf (p : Project) (o : RunOptions) : RunPlan :=
  ⟨o.mode, o.yolo, o.stopAtMilestone, p.roadmapPath⟩

/-- The code of the last pass that was started. -/
def codeOf (passes : List (Outcome ExitCode)) : ExitCode :=
  match passes.getLast? with
  | none => .ok
  | some (.ok code) => code
  | some (.error _) => .invalid

def runProject (p : Project) (o : RunOptions) (e : Environment) : Deed ExitCode := do
  orRefuse (p.workflowDocument (← get).disk o.workflow) fun document => do
    let registry ← p.registry
    let plan := planOf p o
    match Supervisor.idle.start plan with
    | (none, _) => pure .busy
    | (some _, _) => do
      let passes ← plan.run (runPass p registry document o e)
      pure (codeOf passes)

/-! ### Looking at a project -/

/-- The line on a workflow with which nothing is wrong. -/
def verdict (w : Workflow) : String :=
  "ok: " ++ w.name.getD "workflow" ++ " (" ++ toString w.nodes.length ++ " top-level nodes)\n"

def complaint (issues : List String) : String :=
  "workflow check failed:\n- " ++ Text.join "\n- " issues ++ "\n"

def validate (p : Project) (chosen : Option String) : Deed ExitCode := do
  let disk := (← get).disk
  let workflow : Outcome Workflow := do Workflow.ofJson (← p.workflowDocument disk chosen)
  orRefuse workflow fun w => do
    let registry ← p.registry
    match w.issues (Table.contains registry) with
    | [] => do
      Console.print (verdict w)
      pure .ok
    | issues => do
      Console.tell (complaint issues)
      pure .invalid

def listPlugins (p : Project) : Deed ExitCode := do
  let registry ← p.registry
  Console.print (String.join ((Table.keys registry).map (· ++ "\n")))
  pure .ok

/-! ### The whole program -/

def invoke (e : Environment) (i : Invocation) : Deed ExitCode := do
  let disk := (← get).disk
  orRefuse (Project.load disk (i.root.getD disk.workingPath) i.config) fun p =>
    match i.verb with
    | .run o => runProject p o e
    | .validate workflow => validate p workflow
    | .plugins => listPlugins p

def misuseNotice : String :=
  "error: the arguments cannot be understood\n\n" ++ Manual.usage ++
    "\nFor more information, try '--help'.\n"

/-- Sets the variables of the file that holds, and tells what is wrong with it. -/
def prepare (e : Environment) : Deed Environment := do
  let (e, defect) := e.load (← get).disk
  match defect with
  | some d => Console.tell ("failed to load .env: " ++ d.message ++ "\n")
  | none => pure ()
  pure e

def run (arguments : List String) (e : Environment) : Deed ExitCode := do
  let e ← prepare e
  match Wish.ofArguments arguments with
  | .invocation i => invoke e i
  | .page text => do
    Console.print text
    pure .ok
  | .version => do
    Console.print (version ++ "\n")
    pure .ok
  | .misuse => do
    Console.tell misuseNotice
    pure .misuse

end Program

end AgentWorkflow.CommandLine
