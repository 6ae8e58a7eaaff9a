/-
Putting the tools of a run together.

* `Tool.build` — the tools of a catalog; entries whose implementation is not
  known are noted, and those of a host are left out when there is none.
* `Tool.Kit` — tools, their specifications, and the policy.
* `Tool.Kit.add` — a manifest takes the place of a tool of its name, in the tools
  and in the specifications; the policy only grows.
-/
import AgentWorkflow.Tool.Files
import AgentWorkflow.Tool.Hosting
import AgentWorkflow.Tool.Manifest
import AgentWorkflow.Tool.Standard

namespace AgentWorkflow.Tool

def builtinTool? (s : Settings) (name : String) : Option Tool :=
  match fileTool? s.root name with
  | some t => some t
  | none => commandTool? s name

/-- The tool that an entry stands for; `none` inside when there is no such
implementation, outside when its provider is not there. -/
def entryTool (s : Settings) (forge : Option Forge) (e : Entry) : Option (Option Tool) :=
  match e.provider with
  | .builtin => some (builtinTool? s e.implementation)
  | .forge => forge.map fun f => hostingTool? f e.implementation

/-- Adds the tools of a catalog. -/
def addEntries (s : Settings) (forge : Option Forge) (tools : Table Tool) :
    List Entry → Deed (Table Tool)
  | [] => pure tools
  | e :: rest =>
    match entryTool s forge e with
    | none => addEntries s forge tools rest
    | some (some t) => addEntries s forge (Table.insert tools e.name t) rest
    | some none => do
      Deed.note (.warning "unknown tool implementation, skipping"
        [("tool", e.name), ("implementation", e.implementation)])
      addEntries s forge tools rest

/-- The tools of a catalog. -/
def build (s : Settings) (forge : Option Forge) (entries : List Entry) : Deed (Table Tool) :=
  addEntries s forge [] entries

/-- Tools with what the model is told of them, and the policy. -/
structure Kit where
  tools : Table Tool
  specs : List Json
  policy : Policy

namespace Kit

/-- The specifications of other tools, then the given one. -/
def replaceSpec (specs : List Json) (name : String) (spec : Json) : List Json :=
  (specs.filter fun s => specName? s != some name) ++ [spec]

/-- Puts a manifest among the tools. -/
def put (s : Settings) (kit : Kit) (m : Manifest) : Kit :=
  ⟨Table.insert kit.tools m.name (ofManifest s.root s.limits m),
    replaceSpec kit.specs m.name m.spec,
    if m.modifying then kit.policy.add m.name else kit.policy⟩

/-- Puts a manifest among the tools and notes when it takes the place of one. -/
def add (s : Settings) (kit : Kit) (m : Manifest) : Deed Kit := do
  if Table.contains kit.tools m.name then
    Deed.note (.warning "plugin tool shadows a registered tool" [("tool", m.name)])
  pure (put s kit m)

def addAll (s : Settings) (kit : Kit) : List Manifest → Deed Kit
  | [] => pure kit
  | m :: rest => do
    let kit ← add s kit m
    addAll s kit rest

end Kit

end AgentWorkflow.Tool
