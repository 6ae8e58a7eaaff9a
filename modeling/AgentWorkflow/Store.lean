/-
The store that the nodes of a workflow share.

* `Store` — values by key, and for some keys the node that wrote the value.
* `insert`, `insertFrom`, `erase` — a value put by nobody in particular, a value
  put by a node, and removal.  `insertFrom` answers the writer before, when it
  was another.
* `binding?`, `resolve`, `resolveInputs` — a text that begins with a dollar sign
  stands for the stored value under the rest of it.
-/
import AgentWorkflow.Json.Basic
import AgentWorkflow.Text.Basic

namespace AgentWorkflow

/-- Values by key and the writers of some of them. -/
structure Store where
  values : Table Json
  writers : Table String
  deriving Inhabited

/-- The inputs of a node by name. -/
abbrev Inputs := Table Json

namespace Store

def empty : Store := ⟨[], []⟩

def get? (s : Store) (key : String) : Option Json := Table.get? s.values key

def writer? (s : Store) (key : String) : Option String := Table.get? s.writers key

/-- Puts a value without a writer. -/
def insert (s : Store) (key : String) (value : Json) : Store :=
  ⟨Table.insert s.values key value, Table.erase s.writers key⟩

/-- The writer of a key when it is another than the given one. -/
def otherWriter (s : Store) (writer key : String) : Option String :=
  (s.writer? key).filter fun before => before != writer

/-- Puts a value on behalf of a node; answers the writer before when it was
another. -/
def insertFrom (s : Store) (writer key : String) (value : Json) : Option String × Store :=
  (s.otherWriter writer key,
    ⟨Table.insert s.values key value, Table.insert s.writers key writer⟩)

/-- Drops a key and its writer. -/
def erase (s : Store) (key : String) : Store :=
  ⟨Table.erase s.values key, Table.erase s.writers key⟩

def keys (s : Store) : List String := Table.keys s.values

def size (s : Store) : Nat := s.values.length

/-- The values as an object. -/
def toJson (s : Store) : Json := .object s.values

/-- The key that a value is bound to, if it is a binding. -/
def binding? : Json → Option String
  | .text s => Text.dropHead? "$" s
  | _ => none

/-- What a value stands for: a binding for the stored value, if there is one,
any other value for itself. -/
def resolve (s : Store) (value : Json) : Option Json :=
  match binding? value with
  | some key => s.get? key
  | none => some value

/-- Resolves each input; one that is bound to nothing becomes null. -/
def resolveInputs (s : Store) (inputs : Inputs) : Inputs :=
  Table.mapValues (fun value => (s.resolve value).getD .null) inputs

theorem get?_insert (s : Store) (key : String) (value : Json) (k : String) :
    (s.insert key value).get? k = if k = key then some value else s.get? k :=
  Table.get?_insert s.values key value k

theorem get?_insertFrom (s : Store) (writer key : String) (value : Json) (k : String) :
    (s.insertFrom writer key value).2.get? k = if k = key then some value else s.get? k :=
  Table.get?_insert s.values key value k

theorem get?_erase (s : Store) (key k : String) :
    (s.erase key).get? k = if k = key then none else s.get? k :=
  Table.get?_erase s.values key k

theorem writer?_insert (s : Store) (key : String) (value : Json) (k : String) :
    (s.insert key value).writer? k = if k = key then none else s.writer? k :=
  Table.get?_erase s.writers key k

theorem writer?_insertFrom (s : Store) (writer key : String) (value : Json) (k : String) :
    (s.insertFrom writer key value).2.writer? k =
      if k = key then some writer else s.writer? k :=
  Table.get?_insert s.writers key writer k

theorem writer?_erase (s : Store) (key k : String) :
    (s.erase key).writer? k = if k = key then none else s.writer? k :=
  Table.get?_erase s.writers key k

end Store

end AgentWorkflow
