/-
Running a workflow.

* `Report` — how much was run, and which node types no plugin stands for.
* `Workflow.runNode`, `Workflow.runNodes` — nodes in order, each with the steps
  below it.
* `Workflow.repeatPasses` — the passes of a loop: at most as many as its limit,
  and none after the pass that met the condition to stop.
* `Workflow.writeResults` — where the results of a node go in the store.
* `Workflow.run` — a whole workflow, from an empty store.

Design notes: a loop takes the run of its body as an argument, so the recursion
over nodes is on their structure alone and the passes are counted by a number.
The limit of a loop and the value it stops on are read when the loop is entered,
the condition after each pass.
-/
import AgentWorkflow.Plugin.Catalog
import AgentWorkflow.Workflow.Codec
import AgentWorkflow.Workflow.Walk

namespace AgentWorkflow

/-- How a run went so far. -/
structure Report where
  executed : Nat
  skipped : Nat
  /-- The types of nodes that were passed over because no plugin stands for
  them, in order. -/
  unresolved : List String
  loopPasses : Nat
  exhaustedLoops : Nat
  deriving DecidableEq, Repr

namespace Report

def start : Report := ⟨0, 0, [], 0, 0⟩

def skip (r : Report) : Report := { r with skipped := r.skipped + 1 }

def execute (r : Report) : Report := { r with executed := r.executed + 1 }

def unresolve (r : Report) (type : String) : Report :=
  { r with unresolved := r.unresolved ++ [type] }

def pass (r : Report) : Report := { r with loopPasses := r.loopPasses + 1 }

def exhaust (r : Report) : Report := { r with exhaustedLoops := r.exhaustedLoops + 1 }

end Report

namespace Workflow

/-! ### What a node says, in view of the store -/

/-- Whether the condition of a node lets it run. -/
def admits (h : NodeHead) (s : Store) : Bool :=
  match h.when with
  | none => true
  | some condition =>
    match s.resolve condition with
    | some value => value.toBool
    | none => false

/-- The value that a setting stands for, null when it is bound to nothing. -/
def settingValue (s : Store) (raw : Json) : Json := (s.resolve raw).getD .null

/-- How often a loop without a usable limit goes round. -/
def defaultLimit : Nat := 1

/-- The limit that a loop sets itself, or the value that is no limit. -/
def limitOf (h : NodeHead) (s : Store) : Except Json Nat :=
  match h.maxIterationsSetting with
  | none => .ok defaultLimit
  | some raw =>
    match (settingValue s raw).count? with
    | some n => .ok n
    | none => .error (settingValue s raw)

/-- The limit of a loop, with a warning when the one it sets is of no use. -/
def loopLimit (h : NodeHead) (s : Store) : Step Nat :=
  match limitOf h s with
  | .ok n => pure n
  | .error found => do
    Step.note (.warning "invalid max_iterations, using default"
      [("value", found.render), ("default", toString defaultLimit)])
    pure defaultLimit

/-- The truth value that a loop stops on. -/
def stopValue (h : NodeHead) (s : Store) : Bool :=
  match h.stopOnSetting with
  | none => true
  | some raw => (settingValue s raw).toBool

/-- Whether a loop stops here; one without a condition never does. -/
def stopsHere (h : NodeHead) (stopOn : Bool) (s : Store) : Bool :=
  match h.stopWhenSetting with
  | none => false
  | some raw => (settingValue s raw).toBool == stopOn

/-- The mode of a branch. -/
def branchMode (inputs : Inputs) : Outcome BranchMode :=
  match (Table.get? inputs "mode").map Json.display with
  | none => .ok BranchMode.standard
  | some mode => if mode.isEmpty then .ok BranchMode.standard else BranchMode.ofName mode

/-- Which arm a branch takes. -/
def armOf (inputs : Inputs) : Outcome Bool := do
  let mode ← branchMode inputs
  let compare := (Plugin.input inputs "compare").display
  mode.test (Plugin.input inputs "value") compare

/-! ### Results -/

/-- The warning that a node writes over what another node wrote. -/
def overwriteNote (writer key before : String) : Note :=
  .warning "passthrough output overwrote another node's key"
    [("node", writer), ("key", key), ("previous", before)]

/-- Writes each result under its own name. -/
def passThrough (writer : String) : List (String × Json) → Act Unit
  | [] => pure ()
  | (key, value) :: rest => do
    let (before?, store) := (← Act.store).insertFrom writer key value
    Act.setStore store
    match before? with
    | some before => Step.note (overwriteNote writer key before)
    | none => pure ()
    passThrough writer rest

/-- Writes the results that are asked for under the given keys; a result that is
not there is null. -/
def writeMapped (writer : String) (results : Table Json) : List (String × String) → Act Unit
  | [] => pure ()
  | (name, key) :: rest => do
    let value := (Table.get? results name).getD .null
    Act.setStore ((← Act.store).insertFrom writer key value).2
    writeMapped writer results rest

/-- Writes the results of a node. -/
def writeResults (h : NodeHead) (results : Table Json) : Act Unit :=
  match h.outputs with
  | some outputs => writeMapped h.label results outputs
  | none => passThrough h.label results

/-! ### Nodes -/

/-- Runs the plugin of a node. -/
def runPlugin (session : Session) (registry : Registry) (h : NodeHead) (type : String)
    (report : Report) : Act Report :=
  match Table.get? registry type with
  | none => do
    Step.note (.error "no plugin registered for node type, skipping"
      [("node", h.label), ("node_type", type)])
    pure (report.unresolve type)
  | some plugin => do
    let inputs := (← Act.store).resolveInputs h.inputs
    Step.happen (.called type inputs)
    let result ← Act.within ("node '" ++ h.label ++ "' (" ++ type ++ ") failed")
      (plugin session inputs)
    writeResults h result.outputs
    pure report.execute

/-- Goes round a loop: at most `limit` more passes.  The flag says whether the
condition to stop was met. -/
def repeatPasses (pass : Report → Act Report) (stops : Store → Bool) :
    Nat → Report → Act (Bool × Report)
  | 0, report => pure (false, report)
  | limit + 1, report => do
    let report ← pass report.pass
    if stops (← Act.store) then pure (true, report)
    else repeatPasses pass stops limit report

/-- Notes that a loop ended without its condition, unless that was not to be
expected. -/
def finishLoop (session : Session) (h : NodeHead) (limit : Nat) (met : Bool)
    (report : Report) : Act Report :=
  if !met && h.stopWhenSetting.isSome && 0 < limit && !session.flags.once then do
    Step.note (.warning (Conversation.limitNotice session.texts limit)
      [("max_iterations", toString limit)])
    pure report.exhaust
  else pure report

/-- Runs a loop whose body is run by `pass`. -/
def runLoop (session : Session) (h : NodeHead) (pass : Report → Act Report)
    (report : Report) : Act Report := do
  let store ← Act.store
  let own ← loopLimit h store
  let limit := if session.flags.once then min own 1 else own
  let (met, report) ← repeatPasses pass (stopsHere h (stopValue h store)) limit report.execute
  finishLoop session h limit met report

/-- Decides a branch and writes the decision. -/
def decideBranch (h : NodeHead) : Act Bool := do
  let store ← Act.store
  let taken ← Act.within ("branch node '" ++ h.label ++ "'")
    (Act.ofOutcome (armOf (store.resolveInputs h.inputs)))
  match h.outputKey with
  | some key => Act.setStore (store.insertFrom h.label key (.bool taken)).2
  | none => pure ()
  pure taken

mutual

def runNode (session : Session) (registry : Registry) : Node → Report → Act Report
  | .mk h body thenSteps elseSteps, report => do
    if h.disabled then pure report.skip
    else if !admits h (← Act.store) then pure report.skip
    else
      match h.kind with
      | .loop => runLoop session h (runNodes session registry body) report
      | .branch => do
        let taken ← decideBranch h
        if taken then runNodes session registry thenSteps report.execute
        else runNodes session registry elseSteps report.execute
      | .plugin type => runPlugin session registry h type report

/-- Runs nodes one after the other. -/
def runNodes (session : Session) (registry : Registry) : List Node → Report → Act Report
  | [], report => pure report
  | n :: rest, report => do
    let report ← runNode session registry n report
    runNodes session registry rest report

end

/-- Notes what is wrong with the nodes. -/
def noteIssues (registry : Registry) (w : Workflow) : Step Unit :=
  (w.issues (Table.contains registry)).forM fun issue =>
    Step.note (.warning "workflow check" [("issue", issue)])

/-- Runs a workflow from an empty store. -/
def run (session : Session) (registry : Registry) (w : Workflow) : Act Report := do
  noteIssues registry w
  Act.setStore Store.empty
  runNodes session registry w.nodes Report.start

/-- Runs the workflow of a document. -/
def runDocument (session : Session) (registry : Registry) (document : Json) : Act Report := do
  let w ← Act.ofOutcome (ofJson document)
  run session registry w

end Workflow

end AgentWorkflow
