/-
Decoding straight from a text.

* `Reader` — a decoder of a value as it stands in a text.
* `Reader.string`, `Reader.flag`, `Reader.value`, `Reader.nullable`,
  `Reader.listOf`, `Reader.tableOf`, `Reader.word` — readers of the usual shapes.
* `Reader.record` — a record, written as an object or as the list of its fields.
* `Reader.run` — reads a whole text.

Design notes: a reader meets the parts of a value in the order of the text, so
that of a fault and a mismatch the one that stands first is reported.  In an
object a field may not be repeated; in a table the last of several entries
counts.
-/
import AgentWorkflow.Json.Source

namespace AgentWorkflow.Json

/-- A decoder of a value as it stands in a text. -/
abbrev Reader (α : Type) := Source → Except Error α

namespace Source

/-- The value without the parts of it. -/
def outline : Source → Json
  | .null _ => .null
  | .bool _ b => .bool b
  | .number _ n => .number n
  | .text _ s => .text s
  | .list _ _ _ => .list []
  | .object _ _ _ => .object []
  | .broken _ _ => .null

def place? : Source → Option Position
  | .null p => some p
  | .bool p _ => some p
  | .number p _ => some p
  | .text p _ => some p
  | .list p _ _ => some p
  | .object p _ _ => some p
  | .broken p _ => p

end Source

namespace Reader

variable {α σ : Type}

/-- The error of a value that has not the expected shape. -/
def unexpected (expected : String) : Source → Except Error α
  | .broken _ f => .error (.fault f)
  | other => .error (.mismatch (.wrongType (describe other.outline) expected))

def faultIf : Option Fault → Except Error Unit
  | none => .ok ()
  | some f => .error (.fault f)

def string : Reader String
  | .text _ s => .ok s
  | other => unexpected "a string" other

def flag : Reader Bool
  | .bool _ b => .ok b
  | other => unexpected "a boolean" other

/-- Any value. -/
def value : Reader Json := fun s =>
  match s.toJson with
  | .ok j => .ok j
  | .error f => .error (.fault f)

/-- A value or null. -/
def nullable (r : Reader α) : Reader (Option α)
  | .null _ => .ok none
  | other => (r other).map some

def items (r : Reader α) : List Source → Except Error (List α)
  | [] => .ok []
  | s :: rest => do
    let a ← r s
    let more ← items r rest
    pure (a :: more)

def listOf (r : Reader α) : Reader (List α)
  | .list _ js ending => do
    let values ← items r js
    faultIf ending
    pure values
  | other => unexpected "a sequence" other

def entries (r : Reader α) : List (String × Source) → Except Error (List (String × α))
  | [] => .ok []
  | (key, s) :: rest => do
    let a ← r s
    let more ← entries r rest
    pure ((key, a) :: more)

/-- An object whose members are all of one shape. -/
def tableOf (r : Reader α) : Reader (Table α)
  | .object _ members ending => do
    let values ← entries r members
    faultIf ending
    pure (Table.ofList values)
  | other => unexpected "a map" other

/-- The value that a word stands for. -/
def findWord (known : List (String × α)) (s : String) : Except Error α :=
  match known.find? fun entry => entry.1 = s with
  | some (_, a) => .ok a
  | none => .error (.mismatch (.unknownWord s (known.map Prod.fst)))

/-- A value where one of a few words should stand. -/
def notWord : Source → Except Error α
  | .broken none f => .error (.fault f)
  | other =>
    match other.place? with
    | some p => .error (.fault ⟨.expectedValue, p⟩)
    | none => unexpected "string or map" other

/-- One of a few words; it may also be the only key of an object over null. -/
def word (known : List (String × α)) : Reader α
  | .text _ s => findWord known s
  | .object place ((s, .null _) :: rest) ending => do
    let a ← findWord known s
    faultIf ending
    if rest.isEmpty then pure a else notWord (.object place [] none)
  | .object _ ((s, other) :: _) _ => do
    let _ ← findWord known s
    unexpected "unit" other
  | other => notWord other

/-! ### Records -/

/-- What a record is called, its fields in order, and which have to be
given. -/
structure Shape where
  name : String
  fields : List String
  needed : List String

/-- Takes one field into the record read so far. -/
abbrev Take (σ : Type) := σ → String → Source → Except Error σ

/-- The members of an object; `seen` are the fields met so far. -/
def recordMembers (shape : Shape) (take : Take σ) (state : σ) (seen : List String) :
    List (String × Source) → Except Error (σ × List String)
  | [] => .ok (state, seen)
  | (name, s) :: rest =>
    if shape.fields.contains name then
      if seen.contains name then .error (.mismatch (.duplicateField name))
      else do
        let state ← take state name s
        recordMembers shape take state (name :: seen) rest
    else do
      let _ ← value s
      recordMembers shape take state seen rest

/-- The fault of a list that goes on after the last field. -/
def afterFields : List Source → Option Fault → Except Error Unit
  | [], none => .ok ()
  | [], some f =>
    let unfinished := f.kind = .expectedListEnd || f.kind = .endInValue
    .error (.fault (if unfinished then { f with kind := .trailingCharacters } else f))
  | s :: _, _ =>
    match s.place? with
    | some p => .error (.fault ⟨.trailingCharacters, p⟩)
    | none => unexpected "nothing" s

/-- The items of a list, one for each field; `count` fields came before. -/
def recordItems (shape : Shape) (take : Take σ) (ending : Option Fault) (state : σ)
    (count : Nat) : List String → List Source → Except Error σ
  | [], rest => do
    afterFields rest ending
    pure state
  | name :: names, s :: rest => do
    let state ← take state name s
    recordItems shape take ending state (count + 1) names rest
  | name :: names, [] => do
    faultIf ending
    if shape.needed.contains name then
      .error (.mismatch (.wrongLength count
        (shape.name ++ " with " ++ toString shape.fields.length ++ " elements")))
    else recordItems shape take ending state (count + 1) names []

/-- A record, written as an object or as the list of its fields. -/
def record (shape : Shape) (take : Take σ) (start : σ) : Reader σ
  | .object _ members ending => do
    let (state, seen) ← recordMembers shape take start [] members
    faultIf ending
    match shape.needed.find? fun name => !seen.contains name with
    | some name => .error (.mismatch (.missingField name))
    | none => pure state
  | .list _ items ending => recordItems shape take ending start 0 shape.fields items
  | other => unexpected shape.name other

/-- Reads a whole text. -/
def run (r : Reader α) (s : String) : Except Error α := do
  let d := Document.read s
  let a ← r d.root
  faultIf d.trailing
  pure a

end Reader

end AgentWorkflow.Json
