/-
Workflows.

* `NodeHead` — what a node says apart from its steps.
* `Node` — a node with the steps of its body and of its two arms.
* `Node.kind` — a loop, a branch, or the plugin that the type names.
* `Node.label` — how a node is called in messages.
* `Node.loopSetting` — the setting of a loop; an input wins over a field.

Design notes: the head is a record and the steps are lists of nodes beside it,
so that functions on nodes recurse on the three lists alone.
-/
import AgentWorkflow.Store

namespace AgentWorkflow

/-- What a node says apart from its steps. -/
structure NodeHead where
  type : String
  id : Option String := none
  inputs : Inputs := []
  /-- Result names and the store keys they are written under.  Without it each
  result is written under its own name. -/
  outputs : Option (Table String) := none
  when : Option Json := none
  disabled : Bool := false
  maxIterations : Option Json := none
  stopWhen : Option Json := none
  stopOn : Option Json := none
  outputKey : Option String := none
  deriving Inhabited

/-- A node of a workflow. -/
inductive Node where
  | mk (head : NodeHead) (body thenSteps elseSteps : List Node)
  deriving Inhabited

/-- A list of nodes that may have a name. -/
structure Workflow where
  name : Option String
  nodes : List Node

/-- What the interpreter does with a node. -/
inductive NodeKind where
  | loop
  | branch
  | plugin (type : String)
  deriving DecidableEq, Repr

namespace NodeHead

def loopTypes : List String := ["loop", "control.loop"]

def branchTypes : List String := ["branch", "control.branch"]

def kind (n : NodeHead) : NodeKind :=
  if loopTypes.contains n.type then .loop
  else if branchTypes.contains n.type then .branch
  else .plugin n.type

/-- The id, or the type of a node without one. -/
def label (n : NodeHead) : String := n.id.getD n.type

/-- A setting given as an input, or by the field of the node. -/
def setting (n : NodeHead) (name : String) (field : Option Json) : Option Json :=
  match Table.get? n.inputs name with
  | some value => some value
  | none => field

def maxIterationsSetting (n : NodeHead) : Option Json :=
  n.setting "max_iterations" n.maxIterations

def stopWhenSetting (n : NodeHead) : Option Json := n.setting "stop_when" n.stopWhen

def stopOnSetting (n : NodeHead) : Option Json := n.setting "stop_on" n.stopOn

end NodeHead

namespace Node

def head : Node → NodeHead
  | mk h _ _ _ => h

def body : Node → List Node
  | mk _ b _ _ => b

def thenSteps : Node → List Node
  | mk _ _ t _ => t

def elseSteps : Node → List Node
  | mk _ _ _ e => e

def kind (n : Node) : NodeKind := n.head.kind

def label (n : Node) : String := n.head.label

/-- A node of a type with nothing else said. -/
def plugin (type : String) : Node :=
  mk ⟨type, none, [], none, none, false, none, none, none, none⟩ [] [] []

end Node

end AgentWorkflow
