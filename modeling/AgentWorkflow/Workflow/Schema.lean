/-
The schema of workflow documents.

* `Rule` — what a member of a node may hold.
* `Violation` — a place where a document does not fit, with its wording.
* `violations` — the violations of a document: those of the members in the
  order of their keys, then unknown members, then missing ones.
* `validate` — fails when there is any.
-/
import AgentWorkflow.Failure

namespace AgentWorkflow.Schema

/-- What a member of a node may hold. -/
inductive Rule where
  | anything
  /-- A text that is not empty. -/
  | text
  | object
  /-- An object whose members are texts. -/
  | textMembers
  | bool
  /-- A whole number or a text. -/
  | wholeOrText
  /-- A list of nodes. -/
  | nodes
  deriving DecidableEq, Repr

/-- The members that a node may have. -/
def nodeRules : List (String × Rule) := [
  ("id", .text),
  ("type", .text),
  ("inputs", .object),
  ("outputs", .textMembers),
  ("when", .anything),
  ("disabled", .bool),
  ("body", .nodes),
  ("max_iterations", .wholeOrText),
  ("stop_when", .anything),
  ("stop_on", .anything),
  ("then_steps", .nodes),
  ("else_steps", .nodes),
  ("output_key", .text)]

def ruleFor? (name : String) : Option Rule :=
  (nodeRules.find? fun entry => entry.1 = name).map Prod.snd

/-- A place where a document does not fit. -/
inductive Violation where
  | notOfType (found : Json) (types : List String)
  | tooShort (found : Json)
  | unexpected (names : List String)
  | missing (name : String)

def Violation.message : Violation → String
  | .notOfType found [type] => found.render ++ " is not of type \"" ++ type ++ "\""
  | .notOfType found types =>
    found.render ++ " is not of types " ++ Text.join ", " (types.map fun t => "\"" ++ t ++ "\"")
  | .tooShort found => found.render ++ " is shorter than 1 character"
  | .unexpected names =>
    "Additional properties are not allowed (" ++
      Text.join ", " (names.map fun n => "'" ++ n ++ "'") ++
      (if names.length = 1 then " was unexpected)" else " were unexpected)")
  | .missing name => "\"" ++ name ++ "\" is a required property"

/-- Whether a number has no fraction. -/
def isWhole : Json.Number → Bool
  | .whole _ => true
  | .float x => ({ x with negative := false }).toNat?.isSome

/-- The violations of the rules that say nothing about nodes. -/
def plainViolations : Rule → Json → List Violation
  | .anything, _ => []
  | .text, .text s => if s.isEmpty then [.tooShort (.text s)] else []
  | .text, other => [.notOfType other ["string"]]
  | .object, .object _ => []
  | .object, other => [.notOfType other ["object"]]
  | .textMembers, .object members =>
    members.filterMap fun m =>
      match m.2 with
      | .text _ => none
      | other => some (.notOfType other ["string"])
  | .textMembers, other => [.notOfType other ["object"]]
  | .bool, .bool _ => []
  | .bool, other => [.notOfType other ["boolean"]]
  | .wholeOrText, .text _ => []
  | .wholeOrText, .number n =>
    if isWhole n then [] else [.notOfType (.number n) ["integer", "string"]]
  | .wholeOrText, other => [.notOfType other ["integer", "string"]]
  | .nodes, _ => []

/-- The members of a node that it may not have. -/
def unexpected (members : Table Json) : List Violation :=
  match (Table.keys members).filter fun name => (ruleFor? name).isNone with
  | [] => []
  | names => [.unexpected names]

/-- A member that has to be there. -/
def missing (name : String) (members : Table Json) : List Violation :=
  if Table.contains members name then [] else [.missing name]

mutual

def nodeViolations : Json → List Violation
  | .object members =>
    memberViolations members ++ unexpected members ++ missing "type" members
  | other => [.notOfType other ["object"]]

def memberViolations : List (String × Json) → List Violation
  | [] => []
  | (name, value) :: rest =>
    (match ruleFor? name with
      | none => []
      | some .nodes => nodesViolations value
      | some rule => plainViolations rule value) ++ memberViolations rest

/-- The violations of a list of nodes. -/
def nodesViolations : Json → List Violation
  | .list items => itemViolations items
  | other => [.notOfType other ["array"]]

def itemViolations : List Json → List Violation
  | [] => []
  | item :: rest => nodeViolations item ++ itemViolations rest

end

/-- The violations of a whole document, whose name is a text, empty or not. -/
def violations : Json → List Violation
  | .object members =>
    (members.flatMap fun m =>
      if m.1 = "name" then
        match m.2 with
        | .text _ => []
        | other => [.notOfType other ["string"]]
      else if m.1 = "nodes" then nodesViolations m.2
      else []) ++ missing "nodes" members
  | other => [.notOfType other ["object"]]

/-- Fails with the wordings of all violations. -/
def validate (document : Json) : Outcome Unit :=
  match violations document with
  | [] => .ok ()
  | vs =>
    .error (Failure.stated ("workflow schema validation failed: " ++
      Text.join "; " (vs.map Violation.message)))

end AgentWorkflow.Schema
