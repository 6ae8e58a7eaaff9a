/-
The plugins that there are, and which node types they stand for.

* `Plugin.builtin` — the plugins by their own names.
* `Registry` — plugins by node type; `Registry.builtin` gives every plugin its own
  name, `Registry.ofNames` follows a table of names and leaves out those that name
  no plugin.
* `Registry.loadNames` — such a table from a file.  A file that is not there is
  replaced by the standard table, one that cannot be read by an empty one.
-/
import AgentWorkflow.Plugin.Conversation
import AgentWorkflow.Plugin.Lists
import AgentWorkflow.Plugin.Variables

namespace AgentWorkflow

namespace Plugin

/-- Runs a tool with the inputs of the node as its arguments. -/
def ofTool (name : String) : Plugin := fun s inputs => do
  pure (result "result" (← s.callTool name inputs))

def notifyChannels : Plugin := fun s inputs => do
  let message := (input inputs "message").display
  if message.isEmpty then pure (result "sent" (Json.nat 0))
  else
    let delivered ← s.notifyAll message
    pure (result "sent" (Json.nat delivered))

def checkMilestone : Plugin := fun s _ => do
  let reached ← Conversation.milestoneReached s
  pure (result "mvp_reached" (.bool reached))

def updateRoadmap : Plugin := fun s inputs =>
  match words? inputs "content" with
  | none => pure (result "error" (.text (s.texts.get "roadmap_content_required")))
  | some content => do
    Act.job (Roadmap.write s.roadmapPath content)
    pure (result "result" (.text (s.roadmapPath ++ " updated successfully")))

/-- The tools that can be run as plugins. -/
def toolNames : List String :=
  ["create_branch", "create_pull_request", "list_files", "read_file", "run_lint", "run_tests"]

def builtin : Table Plugin := [
    ("core.ai_request", aiRequest),
    ("core.append_context_message", appendContext),
    ("core.append_tool_results", appendToolResults),
    ("core.append_user_instruction", appendInstruction),
    ("core.load_context", loadContext),
    ("core.run_tool_calls", runToolCalls),
    ("core.seed_messages", seedMessages),
    ("notifications.all", notifyChannels)] ++
  toolNames.map (fun name => ("tools." ++ name, ofTool name)) ++ [
    ("utils.any", ofFunction anyOf),
    ("utils.branch_condition", ofFunction branchCondition),
    ("utils.check_mvp", checkMilestone),
    ("utils.filter_list", ofFunction filterList),
    ("utils.map_list", ofFunction mapList),
    ("utils.not", ofFunction negate),
    ("utils.reduce_list", ofFunction reduceList),
    ("utils.update_roadmap", updateRoadmap),
    ("var.delete", deleteVariable),
    ("var.exists", variableExists),
    ("var.get", getVariable),
    ("var.set", setVariable)]

end Plugin

/-- Plugins by node type. -/
abbrev Registry := Table Plugin

namespace Registry

def builtin : Registry := Plugin.builtin

/-- The standard table of names: every plugin under its own name. -/
def standardNames : Table String := (Table.keys Plugin.builtin).map fun name => (name, name)

/-- The note on a name that names no plugin. -/
def unknownPlugin (nodeType implementation : String) : Note :=
  .error "unknown plugin implementation, node type unavailable"
    [("node_type", nodeType), ("implementation", implementation)]

/-- The registry of a table of names. -/
def ofNames (names : Table String) : Registry :=
  Table.ofList (names.filterMap fun entry =>
    (Table.get? Plugin.builtin entry.2).map fun p => (entry.1, p))

/-- The notes on the names of a table that name no plugin. -/
def unknownNotes (names : Table String) : List Note :=
  names.filterMap fun entry =>
    if Table.contains Plugin.builtin entry.2 then none
    else some (unknownPlugin entry.1 entry.2)

/-- Builds the registry of a table of names and notes what is left out. -/
def build (names : Table String) : Deed Registry := do
  (unknownNotes names).forM Deed.note
  pure (ofNames names)

/-- The table of names of a file; that it is not there is no failure. -/
def readNames (disk : Disk) (path : String) : Outcome (Option (Table String)) :=
  match disk.readText path with
  | .error .notFound => .ok none
  | .error e => .error ⟨["read " ++ path], .os e⟩
  | .ok raw =>
    (Outcome.ofJson ("parse " ++ path)
      ((Json.Reader.tableOf Json.Reader.string).run raw)).map some

/-- The table of names of a file, or the standard one. -/
def loadNames : Option String → Deed (Table String)
  | none => pure standardNames
  | some path => do
    match readNames (← get).disk path with
    | .ok (some names) => pure names
    | .ok none => do
      Deed.note (.warning "plugin map not found, using embedded map" [("path", path)])
      pure standardNames
    | .error f => do
      Deed.note (.error "failed to load plugin map" [("err", f.message)])
      pure []

end Registry

end AgentWorkflow
