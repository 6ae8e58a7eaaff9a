/-
Decoding YAML nodes.

* `Yaml.Decode.text?`, `Yaml.Decode.optional`, `Yaml.Decode.listOf`,
  `Yaml.Decode.fields`, `Yaml.Decode.word` — readers of the usual shapes.

Design notes: a scalar is read as a text however it is written.  One without quotes that
spells null, or nothing, stands for a value that is left out; nothing also stands for an
empty list and for a record without fields.
-/
import AgentWorkflow.Yaml.Node

namespace AgentWorkflow.Yaml.Decode

variable {α : Type}

/-- A reader of one node. -/
abbrev Decoder (α : Type) := Node → Option α

def text? : Decoder String
  | .scalar text _ _ => some text
  | _ => none

/-- The spellings of null. -/
def nulls : List String := ["null", "Null", "NULL", "~"]

def nullTag : String := "tag:yaml.org,2002:null"

/-- A value that may be left out. -/
def optional (d : Decoder α) (n : Node) : Option (Option α) :=
  match n with
  | .scalar text true none =>
    if text.isEmpty || nulls.contains text then some none else (d n).map some
  | .scalar text true (some tag) =>
    if tag = nullTag then (if nulls.contains text then some none else none) else (d n).map some
  | _ => (d n).map some

def listOf (d : Decoder α) : Decoder (List α)
  | .list items => items.mapM d
  | .scalar "" true _ => some []
  | _ => none

/-- Whether a name is given twice. -/
def hasRepeated : List String → Bool
  | [] => false
  | name :: rest => rest.contains name || hasRepeated rest

/-- The fields of a record by name; those of other names are passed over. -/
def fields (names : List String) : Decoder (List (String × Node))
  | .map pairs => do
    let pairs ← pairs.mapM fun p => (text? p.1).map fun k => (k, p.2)
    let known := pairs.filter fun p => names.contains p.1
    if hasRepeated (known.map Prod.fst) then none else some known
  | .scalar "" true _ => some []
  | _ => none

/-- A field that has to be there. -/
def needed (fields : List (String × Node)) (name : String) (d : Decoder α) : Option α :=
  (fields.lookup name).bind d

/-- A field, or what holds where it is not given. -/
def given (fields : List (String × Node)) (name : String) (otherwise : α) (d : Decoder α) :
    Option α :=
  match fields.lookup name with
  | none => some otherwise
  | some n => d n

/-- One of a few words; it may also be written as a tag of nothing. -/
def word (known : List (String × α)) : Decoder α
  | .scalar text isPlain tag =>
    match tag.bind fun t => (Text.dropHead? "!" t) with
    | some name =>
      if !name.isEmpty then
        (if isPlain && (text.isEmpty || nulls.contains text) then known.lookup name else none)
      else known.lookup text
    | none => known.lookup text
  | _ => none

end AgentWorkflow.Yaml.Decode
