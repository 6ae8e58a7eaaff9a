/-
Projects: a directory with its settings.

* `Project.load` — the settings are in the standard file of the directory, or in
  another one; the standard settings hold where there is no such file.
* `Project.registry`, `Project.workflowDocument`, `Project.kit` — the plugins, the
  workflow and the tools that the settings name, or the standard ones.
* `Project.session` — all that a run needs, from the settings and from variables.

Design notes: a host of repositories that cannot be used is no reason not to run, so
its failure ends up as a note.  A token for the model is needed before anything is
read.
-/
import AgentWorkflow.Config
import AgentWorkflow.Prompt
import AgentWorkflow.Service.Channels
import AgentWorkflow.Service.Completion
import AgentWorkflow.Service.GitHub
import AgentWorkflow.Plugin.Catalog
import AgentWorkflow.Tool.Assembly
import AgentWorkflow.Workflow.Document

namespace AgentWorkflow

/-- A directory and its settings. -/
structure Project where
  root : String
  config : Config

namespace Project

/-- Where a path of the project leads. -/
def path (p : Project) (relative : String) : String := Path.join p.root relative

def load (disk : Disk) (root : String) (configPath : Option String) : Outcome Project := do
  let config ← Config.load disk (Path.join root (configPath.getD Config.fileName))
  pure ⟨root, config⟩

def roadmapPath (p : Project) : String := p.path p.config.roadmapPath

/-- The plugins by node type. -/
def registry (p : Project) : Deed Registry := do
  let names ← Registry.loadNames (p.config.pluginMapPath.map p.path)
  Registry.build names

/-- The workflow of the given file, of the file that the settings name, or the
standard one.  A document that says what its nodes are has to keep the rules; one that
does not is looked at when it is decoded. -/
def workflowDocument (p : Project) (disk : Disk) (chosen : Option String) : Outcome Json := do
  let document ← Workflow.readDocument disk ((chosen.or p.config.workflowPath).map p.path)
  if (document.member? "nodes").isSome then Schema.validate document
  pure document

/-! ### Tools -/

/-- Where the tools work, and within which limits. -/
def settings (p : Project) : Tool.Settings := ⟨p.root, p.config.limits, p.config.commands⟩

/-- The tools that modify the repository. -/
def policy (p : Project) : Tool.Policy :=
  match p.config.modifyingTools with
  | some names => Tool.Policy.ofNames names
  | none => Tool.standardPolicy

/-- The tools of the catalog, and those of the manifests. -/
def kit (p : Project) (forge : Option Forge) : Job Tool.Kit := do
  let disk ← Job.disk
  let entries ← Job.ofOutcome
    (Tool.entriesOrStandard disk (p.config.toolRegistryPath.map p.path))
  let specs ← Job.ofOutcome (Tool.specsOrStandard disk (p.config.toolSpecsPath.map p.path))
  let tools ← Tool.build p.settings forge entries
  let manifests ← Tool.scan (p.path p.config.pluginsDirectory)
  Tool.Kit.addAll p.settings ⟨tools, specs, p.policy⟩ manifests

/-! ### Sessions -/

def tokenVariable : String := "GITHUB_TOKEN"

def repositoryVariable : String := "GITHUB_REPOSITORY"

def endpointVariable : String := "GITHUB_MODELS_ENDPOINT"

/-- The variables that a session reads. -/
def variableNames : List String :=
  [tokenVariable, repositoryVariable, endpointVariable] ++
    Channels.services.flatMap fun s => [s.token, s.place]

/-- The host of the repository that a variable names.  Why there is none is noted. -/
def forge (repository : Option String) (token : String) : Deed (Option Forge) :=
  match repository with
  | none => do
    Deed.note (.warning (repositoryVariable ++ " not set, continuing without forge") [])
    pure none
  | some repository =>
    match GitHub.ofName GitHub.standardAddress repository token GitHub.standardRetry with
    | .ok host => pure (some host.toForge)
    | .error f => do
      Deed.note (.warning "forge unavailable, continuing without it" [("err", f.message)])
      pure none

/-- All that a run needs. -/
def session (p : Project) (flags : Flags) (value? : String → Option String)
    (confirm : String → Table Json → Deed Bool) : Job Session := do
  match value? tokenVariable with
  | none => Job.fail (Failure.stated (tokenVariable ++ " is not set"))
  | some token => do
    let endpoint := (value? endpointVariable).getD p.config.endpoint
    let prompt ← Job.ofOutcome (Prompt.load (← Job.disk) (p.path p.config.promptPath))
    let forge ← Project.forge (value? repositoryVariable) token
    let kit ← p.kit forge
    let texts ← Job.ofOutcome (Outcome.within "load messages"
      (Texts.load (← Job.disk) (p.config.messagesPath.map p.path)))
    let channels ← Channels.ofVariables value?
    pure {
      flags
      model := prompt.model.getD p.config.model
      prompt := prompt.messages
      specs := kit.specs
      tools := kit.tools
      policy := kit.policy
      texts
      roadmapPath := p.roadmapPath
      forge
      channels
      complete := Completion.persistent p.config.retry.atLeastOnce
        (Completion.complete ⟨endpoint, token⟩)
      confirm }

end Project

end AgentWorkflow
