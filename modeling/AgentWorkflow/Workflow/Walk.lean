/-
Walking over the nodes of a workflow.

* `Workflow.walk` — every node with its path, a node before its steps, the body
  before the two arms.
* `Workflow.issues` — what is wrong with the nodes, found without running them.
* `Workflow.unregistered` — the nodes of types that no plugin stands for.
-/
import AgentWorkflow.Condition
import AgentWorkflow.Workflow.Basic

namespace AgentWorkflow

/-- The path of the node at a place of a list. -/
def Node.pathAt (list : String) (place : Nat) : String := list ++ "[" ++ toString place ++ "]"

mutual

/-- A node and those below it. -/
def Node.walk (path : String) : Node → List (String × Node)
  | .mk h body thenSteps elseSteps =>
    (path, .mk h body thenSteps elseSteps) ::
      (Node.walkList (path ++ ".body") 0 body ++
        Node.walkList (path ++ ".then_steps") 0 thenSteps ++
        Node.walkList (path ++ ".else_steps") 0 elseSteps)

/-- The nodes of a list from a place on, and those below them. -/
def Node.walkList (list : String) (place : Nat) : List Node → List (String × Node)
  | [] => []
  | n :: rest => Node.walk (Node.pathAt list place) n ++ Node.walkList list (place + 1) rest

end

namespace Workflow

def walk (w : Workflow) : List (String × Node) := Node.walkList "nodes" 0 w.nodes

/-- What can be wrong with a node. -/
inductive Issue where
  | unknownType (type : String)
  | emptyBody
  | badLimit (raw : Json)
  | unknownMode (mode : String)
  | noArms
  | blankKey (result : String)

def Issue.message : Issue → String
  | .unknownType type => "unknown node type '" ++ type ++ "'"
  | .emptyBody => "loop has an empty body"
  | .badLimit raw => "max_iterations must be a non-negative integer, got " ++ raw.render
  | .unknownMode mode => "unknown branch mode '" ++ mode ++ "'"
  | .noArms => "branch has no steps and no output_key"
  | .blankKey result => "output '" ++ result ++ "' maps to an empty store key"

/-- What is wrong with the limit of a loop: a literal that is no count. -/
def limitIssues (h : NodeHead) : List Issue :=
  match h.maxIterationsSetting with
  | none => []
  | some raw =>
    if (Store.binding? raw).isNone && raw.count?.isNone then [.badLimit raw] else []

/-- What is wrong with the mode of a branch: a literal text that names none. -/
def modeIssues (h : NodeHead) : List Issue :=
  match Table.get? h.inputs "mode" with
  | some (.text mode) =>
    if !Text.beginsWith "$" mode && (BranchMode.ofName? mode).isNone then [.unknownMode mode]
    else []
  | _ => []

/-- Result names that are written under a blank key. -/
def outputIssues (h : NodeHead) : List Issue :=
  match h.outputs with
  | none => []
  | some outputs =>
    (outputs.filter fun entry => Text.allBlank entry.2).map fun entry => .blankKey entry.1

/-- What is wrong with a node. -/
def nodeIssues (registered : String → Bool) (n : Node) : List Issue :=
  (match n.kind with
    | .plugin type => if registered type then [] else [.unknownType type]
    | .loop => (if n.body.isEmpty then [.emptyBody] else []) ++ limitIssues n.head
    | .branch =>
      modeIssues n.head ++
        (if n.thenSteps.isEmpty && n.elseSteps.isEmpty && n.head.outputKey.isNone then [.noArms]
          else [])) ++
    outputIssues n.head

/-- What is wrong with the nodes, with their paths. -/
def issuesAt (registered : String → Bool) (w : Workflow) : List (String × Issue) :=
  w.walk.flatMap fun entry => (nodeIssues registered entry.2).map fun i => (entry.1, i)

def issues (registered : String → Bool) (w : Workflow) : List String :=
  (w.issuesAt registered).map fun entry => entry.1 ++ ": " ++ entry.2.message

/-- The paths and the types of the nodes that no plugin stands for. -/
def unregistered (registered : String → Bool) (w : Workflow) : List (String × String) :=
  w.walk.filterMap fun entry =>
    match entry.2.kind with
    | .plugin type => if registered type then none else some (entry.1, type)
    | _ => none

/-- Fails when a node has a type that no plugin stands for. -/
def ensureResolvable (registered : String → Bool) (w : Workflow) : Outcome Unit :=
  match w.unregistered registered with
  | [] => .ok ()
  | nodes => .error (Failure.of (.unknownNodeTypes nodes))

end Workflow

end AgentWorkflow
