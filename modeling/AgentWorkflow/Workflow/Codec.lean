/-
The encoded form of workflows.

* `Node.toJson`, `Workflow.toJson` — whatever has its standard value is left
  out.
* `Node.decode`, `Workflow.ofJson` — a node is an object, or a list of its
  fields in order.  A document without a list of nodes is told apart from one
  whose nodes cannot be decoded.

Design notes: the reader takes the members one by one into `NodeFields`, where a
child list is decoded as soon as it is met; the recursion is on the document.
-/
import AgentWorkflow.Failure
import AgentWorkflow.Json.Decode
import AgentWorkflow.Message
import AgentWorkflow.Workflow.Basic

namespace AgentWorkflow

open Json (Mismatch Decoder)

/-! ### Encoding -/

/-- A member that is left out when there is no value. -/
def Json.memberOf? (name : String) : Option Json → List (String × Json)
  | none => []
  | some j => [(name, j)]

mutual

def Node.toJson : Node → Json
  | .mk h body thenSteps elseSteps =>
    .object (
      Node.stepsMember "body" body ++
      (if h.disabled then [("disabled", .bool true)] else []) ++
      Node.stepsMember "else_steps" elseSteps ++
      Json.memberOf? "id" (h.id.map .text) ++
      (if h.inputs.isEmpty then [] else [("inputs", .object h.inputs)]) ++
      Json.memberOf? "max_iterations" h.maxIterations ++
      Json.memberOf? "output_key" (h.outputKey.map .text) ++
      Json.memberOf? "outputs" (h.outputs.map fun t => .object (Table.mapValues .text t)) ++
      Json.memberOf? "stop_on" h.stopOn ++
      Json.memberOf? "stop_when" h.stopWhen ++
      Node.stepsMember "then_steps" thenSteps ++
      [("type", .text h.type)] ++
      Json.memberOf? "when" h.when)

/-- A list of steps, left out when empty. -/
def Node.stepsMember (name : String) : List Node → List (String × Json)
  | [] => []
  | n :: rest => [(name, .list (n.toJson :: Node.listToJson rest))]

def Node.listToJson : List Node → List Json
  | [] => []
  | n :: rest => n.toJson :: Node.listToJson rest

end

def Workflow.toJson (w : Workflow) : Json :=
  .object (Json.memberOf? "name" (w.name.map .text) ++
    [("nodes", .list (Node.listToJson w.nodes))])

/-! ### Decoding -/

/-- The fields of a node met so far. -/
structure NodeFields where
  head : NodeHead
  /-- Whether a type was given. -/
  typed : Bool
  body : List Node
  thenSteps : List Node
  elseSteps : List Node

namespace NodeFields

def start : NodeFields := ⟨{ type := "" }, false, [], [], []⟩

/-- The names of the fields, in the order of a node that is written as a list. -/
def names : List String :=
  ["id", "type", "inputs", "outputs", "when", "disabled", "body", "max_iterations",
    "stop_when", "stop_on", "then_steps", "else_steps", "output_key"]

/-- The fields that hold steps. -/
def stepNames : List String := ["body", "then_steps", "else_steps"]

/-- Takes a field that holds no steps.  A field of another name is passed
over. -/
def put (f : NodeFields) (name : String) (j : Json) : Except Mismatch NodeFields :=
  let set (h : NodeHead) : NodeFields := { f with head := h }
  match name with
  | "id" => do
    let id ← Json.Decode.nullable Json.Decode.string j
    pure (set { f.head with id })
  | "type" => do
    let type ← Json.Decode.string j
    pure { f with head := { f.head with type }, typed := true }
  | "inputs" =>
    match j with
    | .object inputs => pure (set { f.head with inputs })
    | other => Json.wrongType other "a map"
  | "outputs" => do
    let outputs ← Json.Decode.nullable (Json.Decode.mapOf Json.Decode.string) j
    pure (set { f.head with outputs })
  | "when" => do
    let value ← Json.Decode.nullable Except.ok j
    pure (set { f.head with «when» := value })
  | "disabled" => do
    let disabled ← Json.Decode.boolean j
    pure (set { f.head with disabled })
  | "max_iterations" => do
    let maxIterations ← Json.Decode.nullable Except.ok j
    pure (set { f.head with maxIterations })
  | "stop_when" => do
    let stopWhen ← Json.Decode.nullable Except.ok j
    pure (set { f.head with stopWhen })
  | "stop_on" => do
    let stopOn ← Json.Decode.nullable Except.ok j
    pure (set { f.head with stopOn })
  | "output_key" => do
    let outputKey ← Json.Decode.nullable Json.Decode.string j
    pure (set { f.head with outputKey })
  | _ => pure f

/-- Takes a list of steps. -/
def putSteps (f : NodeFields) (name : String) (steps : List Node) : NodeFields :=
  match name with
  | "body" => { f with body := steps }
  | "then_steps" => { f with thenSteps := steps }
  | "else_steps" => { f with elseSteps := steps }
  | _ => f

/-- The node, when its type was given. -/
def toNode (f : NodeFields) (untyped : Mismatch) : Except Mismatch Node :=
  if f.typed then .ok (.mk f.head f.body f.thenSteps f.elseSteps) else .error untyped

end NodeFields

mutual

def Node.decode : Json → Except Mismatch Node
  | .object members => do
    let f ← Node.decodeMembers .start members
    f.toNode (.missingField "type")
  | .list items => do
    let f ← Node.decodeItems .start NodeFields.names items
    let n ← f.toNode (.wrongLength 1 "struct NodeSpec with 13 elements")
    Json.Decode.atMost items 13
    pure n
  | other => Json.wrongType other "struct NodeSpec"

/-- The members of a node, in the order they are listed. -/
def Node.decodeMembers (f : NodeFields) : List (String × Json) → Except Mismatch NodeFields
  | [] => .ok f
  | (name, j) :: rest => do
    let f ← Node.decodeField f name j
    Node.decodeMembers f rest

/-- The items of a node that is written as a list of its fields. -/
def Node.decodeItems (f : NodeFields) (names : List String) :
    List Json → Except Mismatch NodeFields
  | [] => .ok f
  | j :: rest =>
    match names with
    | [] => .ok f
    | name :: names => do
      let f ← Node.decodeField f name j
      Node.decodeItems f names rest

/-- One field of a node. -/
def Node.decodeField (f : NodeFields) (name : String) : Json → Except Mismatch NodeFields
  | .list items =>
    if NodeFields.stepNames.contains name then do
      let steps ← Node.decodeList items
      pure (f.putSteps name steps)
    else f.put name (.list items)
  | other =>
    if NodeFields.stepNames.contains name then Json.wrongType other "a sequence"
    else f.put name other

def Node.decodeList : List Json → Except Mismatch (List Node)
  | [] => .ok []
  | j :: rest => do
    let n ← Node.decode j
    let more ← Node.decodeList rest
    pure (n :: more)

end

/-- Whether a document has a list of nodes. -/
def Workflow.hasNodes (document : Json) : Bool :=
  match document.member? "nodes" with
  | some (.list _) => true
  | _ => false

/-- The name and the nodes of a document that has a list of nodes. -/
def Workflow.decode (document : Json) : Except Mismatch Workflow := do
  let members := (document.object?).getD []
  let name ← Json.Decode.field? members "name" (Json.Decode.nullable Json.Decode.string)
  let nodes ← Json.Decode.field? members "nodes" fun j =>
    match j with
    | .list items => Node.decodeList items
    | other => Json.wrongType other "a sequence"
  let nodes ← Json.Decode.required "nodes" nodes
  pure ⟨name.join, nodes⟩

/-- The workflow of a document. -/
def Workflow.ofJson (document : Json) : Outcome Workflow :=
  if Workflow.hasNodes document then
    Outcome.ofMismatch "parse workflow definition" (Workflow.decode document)
  else .error (Failure.of .missingNodes)

end AgentWorkflow
