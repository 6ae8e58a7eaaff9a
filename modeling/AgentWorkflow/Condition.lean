/-
Conditions on values.

* `BranchMode` — how a branch tests its value; `BranchMode.ofName` reads the
  name of a mode, `BranchMode.test` applies it.
* `FilterMode` — how a list is filtered by a pattern; `FilterMode.test` is the
  predicate on the text of one item.
-/
import AgentWorkflow.Failure
import AgentWorkflow.Json.Coercion
import AgentWorkflow.Pattern.Match
import AgentWorkflow.Pattern.Reader

namespace AgentWorkflow

/-- How a branch tests its value. -/
inductive BranchMode where
  | isEmpty
  | isTruthy
  | equals
  | notEquals
  | contains
  | matchesPattern
  deriving DecidableEq, Repr

/-- How the items of a list are filtered. -/
inductive FilterMode where
  | contains
  | matchesPattern
  | equals
  | notEquals
  | startsWith
  | endsWith
  deriving DecidableEq, Repr

/-- Reads a pattern; one that is not well-formed is named in the failure. -/
def compilePattern (s : String) : Outcome Pattern :=
  match Pattern.read? s with
  | some p => .ok p
  | none => .error ⟨["invalid regex '" ++ s ++ "'"], .pattern⟩

namespace BranchMode

def all : List BranchMode :=
  [.isEmpty, .isTruthy, .equals, .notEquals, .contains, .matchesPattern]

def name : BranchMode → String
  | .isEmpty => "is_empty"
  | .isTruthy => "is_truthy"
  | .equals => "equals"
  | .notEquals => "not_equals"
  | .contains => "contains"
  | .matchesPattern => "regex"

/-- The mode with a name. -/
def ofName? (s : String) : Option BranchMode := all.find? fun m => m.name = s

def ofName (s : String) : Outcome BranchMode :=
  match ofName? s with
  | some m => .ok m
  | none => .error (Failure.of (.unknownBranchMode s))

/-- The mode where none is given. -/
def standard : BranchMode := .isTruthy

/-- Tests a value.  Emptiness and truth have no use for `compare`. -/
def test (m : BranchMode) (value : Json) (compare : String) : Outcome Bool :=
  match m with
  | .isEmpty => .ok value.toItems.isEmpty
  | .isTruthy => .ok value.isTruthy
  | .equals => .ok (value.display == compare)
  | .notEquals => .ok (value.display != compare)
  | .contains => .ok (Text.occurs compare value.display)
  | .matchesPattern => do
    let p ← compilePattern compare
    return p.occursIn value.display

end BranchMode

namespace FilterMode

def all : List FilterMode :=
  [.contains, .matchesPattern, .equals, .notEquals, .startsWith, .endsWith]

def name : FilterMode → String
  | .contains => "contains"
  | .matchesPattern => "regex"
  | .equals => "equals"
  | .notEquals => "not_equals"
  | .startsWith => "starts_with"
  | .endsWith => "ends_with"

def ofName (s : String) : Outcome FilterMode :=
  match all.find? fun m => m.name = s with
  | some m => .ok m
  | none => .error (Failure.of (.unknownFilterMode s))

/-- The mode where none is given. -/
def standard : FilterMode := .contains

/-- The predicate of a mode and a pattern on the text of an item. -/
def test (m : FilterMode) (pattern : String) : Outcome (String → Bool) :=
  match m with
  | .contains => .ok fun s => Text.occurs pattern s
  | .matchesPattern => do
    let p ← compilePattern pattern
    return fun s => p.occursIn s
  | .equals => .ok fun s => s == pattern
  | .notEquals => .ok fun s => s != pattern
  | .startsWith => .ok fun s => Text.beginsWith pattern s
  | .endsWith => .ok fun s => Text.finishesWith pattern s

end FilterMode

end AgentWorkflow
