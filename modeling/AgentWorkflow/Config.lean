/-
The configuration of a project.

* `Config` — its settings; `Config.standard` holds where nothing is said.
* `Config.ofToml?`, `Config.toToml` — the settings in a document.  Settings of other
  names are passed over.
* `Config.check` — refuses settings that make no sense, the first one found.
* `Config.load`, `Config.save` — the settings in a file.
-/
import AgentWorkflow.Retry
import AgentWorkflow.Tool.Commands
import AgentWorkflow.Toml.Reader
import AgentWorkflow.Toml.Writer

namespace AgentWorkflow

/-- The settings of a project.  Paths are relative to its root. -/
structure Config where
  /-- The model where the prompt names none. -/
  model : String
  endpoint : String
  /-- How often the model is asked in a conversation. -/
  maxIterations : Nat
  roadmapPath : String
  promptPath : String
  workflowPath : Option String
  pluginMapPath : Option String
  /-- The directory with the manifests of further tools. -/
  pluginsDirectory : String
  messagesPath : Option String
  toolRegistryPath : Option String
  toolSpecsPath : Option String
  modifyingTools : Option (List String)
  toolTimeoutSecs : Nat
  toolOutputLimit : Nat
  retry : Retry.Policy
  commands : Tool.Commands
  deriving DecidableEq, Repr

namespace Config

def fileName : String := "autopilot.toml"

def standardModel : String := "openai/gpt-4.1"

def standardEndpoint : String := "https://models.github.ai/inference"

def standardRetry : Retry.Policy := ⟨3, 1000, 10000⟩

def standard : Config where
  model := standardModel
  endpoint := standardEndpoint
  maxIterations := 10
  roadmapPath := "ROADMAP.md"
  promptPath := "prompt.yml"
  workflowPath := none
  pluginMapPath := none
  pluginsDirectory := "plugins"
  messagesPath := none
  toolRegistryPath := none
  toolSpecsPath := none
  modifyingTools := none
  toolTimeoutSecs := 600
  toolOutputLimit := 100000
  retry := standardRetry
  commands := Tool.Commands.standard

/-- The limits of the commands that tools run. -/
def limits (c : Config) : Command.Limits := ⟨c.toolTimeoutSecs * 1000, c.toolOutputLimit⟩

/-! ### Documents -/

def text? : Toml → Option String
  | .text s => some s
  | _ => none

/-- A whole number of at most so many bits. -/
def bits? (count : Nat) : Toml → Option Nat
  | .whole i => if 0 ≤ i && i < (Nat.pow 2 count : Int) then some i.toNat else none
  | _ => none

def texts? : Toml → Option (List String)
  | .list items => items.mapM text?
  | _ => none

/-- A record in a document: a table, or the list of its fields in order. -/
def fields? (names : List String) : Toml → Option (List (String × Toml))
  | .table members => some members
  | .list items => some (names.zip items)
  | _ => none

/-- The field of a name, or what holds where it is not given. -/
def field {α : Type} (fields : List (String × Toml)) (name : String) (otherwise : α)
    (read : Toml → Option α) : Option α :=
  match fields.lookup name with
  | none => some otherwise
  | some v => read v

/-- The field of a name that may be left out. -/
def optionalField {α : Type} (fields : List (String × Toml)) (name : String)
    (read : Toml → Option α) : Option (Option α) :=
  field fields name none fun v => (read v).map some

def retry? (v : Toml) : Option Retry.Policy := do
  let fields ← fields? ["max_attempts", "initial_backoff_ms", "max_backoff_ms"] v
  let maxAttempts ← field fields "max_attempts" standardRetry.maxAttempts (bits? 32)
  let initialMs ← field fields "initial_backoff_ms" standardRetry.initialMs (bits? 64)
  let maxMs ← field fields "max_backoff_ms" standardRetry.maxMs (bits? 64)
  some ⟨maxAttempts, initialMs, maxMs⟩

def commands? (v : Toml) : Option Tool.Commands := do
  let fields ← fields? ["test", "lint"] v
  let test ← field fields "test" Tool.Commands.standard.test texts?
  let lint ← field fields "lint" Tool.Commands.standard.lint texts?
  some ⟨test, lint⟩

/-- The settings that a document gives. -/
def ofToml? (fields : List (String × Toml)) : Option Config := do
  let model ← field fields "model" standard.model text?
  let endpoint ← field fields "endpoint" standard.endpoint text?
  let maxIterations ← field fields "max_iterations" standard.maxIterations (bits? 32)
  let roadmapPath ← field fields "roadmap_path" standard.roadmapPath text?
  let promptPath ← field fields "prompt_path" standard.promptPath text?
  let workflowPath ← optionalField fields "workflow_path" text?
  let pluginMapPath ← optionalField fields "plugin_map_path" text?
  let pluginsDirectory ← field fields "plugins_dir" standard.pluginsDirectory text?
  let messagesPath ← optionalField fields "messages_path" text?
  let toolRegistryPath ← optionalField fields "tool_registry_path" text?
  let toolSpecsPath ← optionalField fields "tool_specs_path" text?
  let modifyingTools ← optionalField fields "modifying_tools" texts?
  let toolTimeoutSecs ← field fields "tool_timeout_secs" standard.toolTimeoutSecs (bits? 64)
  let toolOutputLimit ← field fields "tool_output_limit_bytes" standard.toolOutputLimit (bits? 64)
  let retry ← field fields "retry" standard.retry retry?
  let commands ← field fields "commands" standard.commands commands?
  some {
    model, endpoint, maxIterations, roadmapPath, promptPath, workflowPath, pluginMapPath
    pluginsDirectory, messagesPath, toolRegistryPath, toolSpecsPath, modifyingTools
    toolTimeoutSecs, toolOutputLimit, retry, commands }

def number (n : Nat) : Toml := .whole n

def textList (items : List String) : Toml := .list (items.map .text)

/-- A member that is left out when there is no value. -/
def ifGiven (name : String) : Option Toml → List (String × Toml)
  | none => []
  | some v => [(name, v)]

def retryToml (p : Retry.Policy) : Toml := .table [
  ("max_attempts", number p.maxAttempts), ("initial_backoff_ms", number p.initialMs),
  ("max_backoff_ms", number p.maxMs)]

def commandsToml (c : Tool.Commands) : Toml :=
  .table [("test", textList c.test), ("lint", textList c.lint)]

/-- The document of the settings. -/
def toToml (c : Config) : List (String × Toml) :=
  [("model", .text c.model), ("endpoint", .text c.endpoint),
    ("max_iterations", number c.maxIterations), ("roadmap_path", .text c.roadmapPath),
    ("prompt_path", .text c.promptPath)] ++
  ifGiven "workflow_path" (c.workflowPath.map .text) ++
  ifGiven "plugin_map_path" (c.pluginMapPath.map .text) ++
  [("plugins_dir", .text c.pluginsDirectory)] ++
  ifGiven "messages_path" (c.messagesPath.map .text) ++
  ifGiven "tool_registry_path" (c.toolRegistryPath.map .text) ++
  ifGiven "tool_specs_path" (c.toolSpecsPath.map .text) ++
  ifGiven "modifying_tools" (c.modifyingTools.map textList) ++
  [("tool_timeout_secs", number c.toolTimeoutSecs),
    ("tool_output_limit_bytes", number c.toolOutputLimit),
    ("retry", retryToml c.retry), ("commands", commandsToml c.commands)]

/-! ### Settings that make no sense -/

/-- Whether a command names no program. -/
def isEmptyCommand (command : List String) : Bool :=
  match command with
  | [] => true
  | program :: _ => Text.allBlank program

/-- What may be wrong with the settings, in the order it is looked for. -/
def defects (c : Config) : List (Bool × String) := [
  (Text.allBlank c.model, "model must be non-empty"),
  (Text.allBlank c.endpoint, "endpoint must be non-empty"),
  (c.maxIterations == 0, "max_iterations must be > 0"),
  (c.toolTimeoutSecs == 0, "tool_timeout_secs must be > 0"),
  (c.toolOutputLimit == 0, "tool_output_limit_bytes must be > 0"),
  (c.retry.maxAttempts == 0, "retry.max_attempts must be > 0"),
  (c.retry.maxMs < c.retry.initialMs, "retry.max_backoff_ms must be >= retry.initial_backoff_ms"),
  (isEmptyCommand c.commands.test, "commands.test must be a non-empty array"),
  (isEmptyCommand c.commands.lint, "commands.lint must be a non-empty array")]

/-- Refuses settings that make no sense. -/
def check (c : Config) : Outcome Unit :=
  match c.defects.find? Prod.fst with
  | some (_, text) => .error (Failure.stated text)
  | none => .ok ()

/-! ### Files -/

/-- The settings in a text. -/
def parse (frame raw : String) : Outcome Config :=
  match (Toml.parse? raw).bind ofToml? with
  | some c => .ok c
  | none => .error ⟨[frame], .toml⟩

/-- The settings of a file; where there is none, the standard ones. -/
def read (disk : Disk) (path : String) : Outcome Config :=
  match disk.find path with
  | .error _ => .ok standard
  | .ok _ => do
    parse ("parse " ++ path) (← Outcome.ofOs ("read " ++ path) (disk.readText path))

/-- The settings of a file, when they make sense. -/
def load (disk : Disk) (path : String) : Outcome Config := do
  let c ← read disk path
  Outcome.within ("invalid config " ++ path) c.check
  pure c

/-- The text of the settings. -/
def render (c : Config) : String := Toml.render c.toToml ++ "\n"

/-- Writes the settings to another file first and then moves that to its place. -/
def save (path : String) (c : Config) : Job Unit := do
  Job.ofOutcome c.check
  let aside := Path.withExtension "toml.tmp" path
  Job.change ("write temp config " ++ aside) fun d => d.write aside (Text.encode c.render)
  Job.change ("replace config " ++ path) fun d => d.rename aside path

end Config

end AgentWorkflow
