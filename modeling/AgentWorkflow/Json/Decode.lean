/-
Decoding values.

* `Decoder` — a reader of one value.
* `string`, `boolean`, `nullable`, `listOf`, `mapOf`, `word` — readers of the usual
  shapes.
* `field?`, `required` — the members of an object by name.
* `item`, `itemOr`, `atMost` — the items of a list by place, for a record that
  is written as a list of its fields.

Design notes: the members of an object are listed in the order of their keys,
and a record is read in that order; so the fields that are present are decoded
in the order of their names before a missing one is reported.
-/
import AgentWorkflow.Json.Error

namespace AgentWorkflow.Json

/-- A reader of one value. -/
abbrev Decoder (α : Type) := Json → Except Mismatch α

def wrongType {α : Type} (found : Json) (expected : String) : Except Mismatch α :=
  .error (.wrongType (describe found) expected)

namespace Decode

variable {α : Type}

def string : Decoder String
  | .text s => .ok s
  | other => wrongType other "a string"

def boolean : Decoder Bool
  | .bool b => .ok b
  | other => wrongType other "a boolean"

/-- A value or null. -/
def nullable (d : Decoder α) : Decoder (Option α)
  | .null => .ok none
  | other => (d other).map some

def items (d : Decoder α) : List Json → Except Mismatch (List α)
  | [] => .ok []
  | j :: rest => do
    let a ← d j
    let more ← items d rest
    pure (a :: more)

def listOf (d : Decoder α) : Decoder (List α)
  | .list js => items d js
  | other => wrongType other "a sequence"

def members (d : Decoder α) : List (String × Json) → Except Mismatch (List (String × α))
  | [] => .ok []
  | (k, j) :: rest => do
    let a ← d j
    let more ← members d rest
    pure ((k, a) :: more)

/-- An object whose members are all of one shape. -/
def mapOf (d : Decoder α) : Decoder (Table α)
  | .object js => members d js
  | other => wrongType other "a map"

/-- One of a few words; it may also be the only key of an object over null. -/
def word (known : List (String × α)) : Decoder α
  | .text s => find s
  | .object [(s, j)] => do
    let a ← find s
    match j with
    | .null => pure a
    | other => wrongType other "unit"
  | .object _ => .error (.wrongValue "map" "map with a single key")
  | other => wrongType other "string or map"
where
  find (s : String) : Except Mismatch α :=
    match known.find? fun entry => entry.1 = s with
    | some (_, a) => .ok a
    | none => .error (.unknownWord s (known.map Prod.fst))

/-- The member under a name, if there is one. -/
def field? (m : Table Json) (name : String) (d : Decoder α) : Except Mismatch (Option α) :=
  match Table.get? m name with
  | none => .ok none
  | some j => (d j).map some

/-- A field that has to be there. -/
def required (name : String) : Option α → Except Mismatch α
  | some a => .ok a
  | none => .error (.missingField name)

/-- The item at a place of a record that is written as a list. -/
def item (js : List Json) (place : Nat) (what : String) (d : Decoder α) :
    Except Mismatch α :=
  match js[place]? with
  | some j => d j
  | none => .error (.wrongLength place what)

/-- The item at a place, or a value in its stead when the list is shorter. -/
def itemOr (js : List Json) (place : Nat) (otherwise : α) (d : Decoder α) :
    Except Mismatch α :=
  match js[place]? with
  | some j => d j
  | none => .ok otherwise

/-- Refuses a list with more items than a record has fields. -/
def atMost (js : List Json) (count : Nat) : Except Mismatch Unit :=
  if js.length ≤ count then .ok ()
  else .error (.wrongLength js.length "fewer elements in array")

end Decode

end AgentWorkflow.Json
