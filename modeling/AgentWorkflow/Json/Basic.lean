/-
JSON values.

* `Json.Number` — a whole number or a binary floating-point number; the two
  stay apart, so `1` and `1.0` are different values.
* `Json` — the values.  The members of an object are a table: one value per
  key, listed in the order of the keys.
-/
import AgentWorkflow.Decimal.Binary64
import AgentWorkflow.Table

namespace AgentWorkflow

/-- A number as it is kept: whole, or floating-point. -/
inductive Json.Number where
  | whole (value : Int)
  | float (value : Binary64)
  deriving DecidableEq, Repr, Inhabited

/-- A JSON value. -/
inductive Json where
  | null
  | bool (value : Bool)
  | number (value : Json.Number)
  | text (value : String)
  | list (items : List Json)
  | object (members : List (String × Json))
  deriving Repr, Inhabited

namespace Json

def nat (n : Nat) : Json := .number (.whole n)

def texts (items : List String) : Json := .list (items.map .text)

/-- An object with the given members; a later one wins over an earlier one of
the same key. -/
def ofMembers (members : List (String × Json)) : Json := .object (Table.ofList members)

/-- A text, or null when there is none. -/
def ofText? : Option String → Json
  | none => .null
  | some s => .text s

/-- The member of an object under a key. -/
def member? : Json → String → Option Json
  | .object members, key => Table.get? members key
  | _, _ => none

def text? : Json → Option String
  | .text s => some s
  | _ => none

def list? : Json → Option (List Json)
  | .list items => some items
  | _ => none

def object? : Json → Option (Table Json)
  | .object members => some members
  | _ => none

def bool? : Json → Option Bool
  | .bool b => some b
  | _ => none

/-- A whole number that is not negative. -/
def nat? : Json → Option Nat
  | .number (.whole i) => if 0 ≤ i then some i.toNat else none
  | _ => none

end Json

end AgentWorkflow
