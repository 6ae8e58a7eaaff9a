/-
Which tools there are.

* `Tool.specName?` — the name under which a specification advertises a tool to
  the model.
* `Tool.Entry` — a tool by its visible name, who provides it, and the
  implementation when that has another name.
* `Tool.Policy` — the tools that modify the repository.
* `Tool.loadSpecs`, `Tool.loadEntries`, `Tool.loadPolicy` — these read from
  files.
-/
import AgentWorkflow.Files.Disk
import AgentWorkflow.Json.Record

namespace AgentWorkflow.Tool

/-- Who provides a tool. -/
inductive Provider where
  | builtin
  | forge
  deriving DecidableEq, Repr

def Provider.name : Provider → String
  | .builtin => "builtin"
  | .forge => "forge"

def Provider.all : List Provider := [.builtin, .forge]

/-- A tool that the model may see. -/
structure Entry where
  name : String
  provider : Provider
  /-- The name of the implementation when it differs. -/
  callable : Option String
  deriving DecidableEq, Repr

def Entry.implementation (e : Entry) : String := e.callable.getD e.name

def Entry.toJson (e : Entry) : Json :=
  .object ((match e.callable with
      | none => []
      | some c => [("callable", .text c)]) ++
    [("name", .text e.name), ("provider", .text e.provider.name)])

/-- The tools that modify the repository, in order and without repetition. -/
structure Policy where
  modifying : List String
  deriving DecidableEq, Repr, Inhabited

namespace Policy

def ofNames (names : List String) : Policy :=
  ⟨Table.keys (Table.ofList (names.map fun n => (n, ())))⟩

def isModifying (p : Policy) (name : String) : Bool := p.modifying.contains name

/-- The policy with one more tool. -/
def add (p : Policy) (name : String) : Policy := ofNames (p.modifying ++ [name])

def toJson (p : Policy) : Json := .object [("modifying_tools", Json.texts p.modifying)]

end Policy

/-- The name that a specification gives, under `function` and `name`. -/
def specName? (spec : Json) : Option String :=
  ((spec.member? "function").bind fun f => f.member? "name").bind Json.text?

/-! ### Reading from text -/

open Json (Reader)

def Entry.shape : Reader.Shape :=
  ⟨"struct ToolEntry", ["name", "provider", "callable"], ["name", "provider"]⟩

/-- Takes a field of an entry. -/
def Entry.take : Reader.Take (Option String × Option Provider × Option String) :=
  fun state field s =>
    let (name, provider, callable) := state
    match field with
    | "name" => (Reader.string s).map fun v => (some v, provider, callable)
    | "provider" =>
      (Reader.word (Provider.all.map fun p => (p.name, p)) s).map fun v => (name, some v, callable)
    | "callable" => (Reader.nullable Reader.string s).map fun v => (name, provider, v)
    | _ => .ok state

def Entry.read : Reader Entry := fun s => do
  let (name, provider, callable) ← Reader.record Entry.shape Entry.take (none, none, none) s
  pure ⟨name.getD "", provider.getD .builtin, callable⟩

def Policy.shape : Reader.Shape := ⟨"struct ToolPolicy", ["modifying_tools"], []⟩

def Policy.read : Reader Policy := fun s => do
  let names ← Reader.record Policy.shape (fun _ _ s => Reader.listOf Reader.string s) [] s
  pure (ofNames names)

/-! ### Files -/

/-- Reads a catalog of some kind from a file. -/
def loadFrom {α : Type} (what : String) (r : Reader α) (disk : Disk) (path : String) :
    Outcome α := do
  let raw ← Outcome.ofOs ("read " ++ path) (disk.readText path)
  Outcome.ofJson ("parse " ++ what ++ " " ++ path) (r.run raw)

/-- Refuses specifications without a name. -/
def checkSpecs (specs : List Json) : Outcome Unit :=
  match (specs.map specName?).findIdx? Option.isNone with
  | none => .ok ()
  | some i => .error (Failure.stated ("tool spec " ++ toString i ++ " has no function.name"))

/-- The specifications of a file. -/
def loadSpecs (disk : Disk) (path : String) : Outcome (List Json) := do
  let specs ← loadFrom "tool specs" (Reader.listOf Reader.value) disk path
  checkSpecs specs
  pure specs

def loadEntries (disk : Disk) (path : String) : Outcome (List Entry) :=
  loadFrom "tool registry" (Reader.listOf Entry.read) disk path

def loadPolicy (disk : Disk) (path : String) : Outcome Policy :=
  loadFrom "tool policy" Policy.read disk path

end AgentWorkflow.Tool
