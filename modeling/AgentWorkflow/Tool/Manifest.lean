/-
Tools that are described in files.

* `Tool.Manifest` — a specification, a command, and whether it modifies the
  repository.
* `Tool.ofManifest` — feeds its arguments to the command and answers what the
  command writes.
* `Tool.scan` — the manifests of a directory in the order of their names; one
  that cannot be used is noted and left out.
-/
import AgentWorkflow.Tool.Commands

namespace AgentWorkflow.Tool

structure Manifest where
  name : String
  spec : Json
  command : List String
  modifying : Bool

namespace Manifest

open Json (Reader)

def shape : Reader.Shape :=
  ⟨"struct Manifest", ["tool", "command", "modifying"], ["tool", "command"]⟩

/-- Takes a field of a manifest. -/
def take : Reader.Take (Json × List String × Bool) := fun state field s =>
  let (spec, command, modifying) := state
  match field with
  | "tool" => (Reader.value s).map fun v => (v, command, modifying)
  | "command" => (Reader.listOf Reader.string s).map fun v => (spec, v, modifying)
  | "modifying" => (Reader.flag s).map fun v => (spec, command, v)
  | _ => .ok state

/-- The manifest of a file. -/
def load (disk : Disk) (path : String) : Outcome Manifest := do
  let raw ← Outcome.ofOs ("read " ++ path) (disk.readText path)
  let (spec, command, modifying) ← Outcome.ofJson ("parse " ++ path)
    ((Reader.record shape take (.null, [], false)).run raw)
  match specName? spec with
  | none => .error (Failure.stated "manifest tool spec has no function.name")
  | some name =>
    if command.isEmpty then
      .error (Failure.stated "manifest command must be a non-empty array")
    else .ok ⟨name, spec, command, modifying⟩

end Manifest

/-- Feeds the arguments to a command and answers what it writes. -/
def ofManifest (root : String) (limits : Command.Limits) (m : Manifest) : Tool := fun args =>
  match m.command with
  | [] => Job.fail (Failure.stated (m.name ++ " has an empty command"))
  | program :: arguments => do
    let input := Text.encode (Json.object args).render
    let output ← Command.run limits ⟨program, arguments, root, some input⟩
    if output.success then pure (.text (Text.decodeLossy output.output.kept))
    else Job.fail (Failure.stated (m.name ++ " failed: " ++ output.render))

/-- The paths of the manifests in a directory. -/
def manifestPaths (disk : Disk) (directory : String) : List String :=
  match disk.names directory with
  | .error _ => []
  | .ok names => (names.map (Path.join directory)).filter (Path.hasExtension "json")

/-- Loads manifests and notes those that cannot be used. -/
def loadManifests (disk : Disk) : List String → Deed (List Manifest)
  | [] => pure []
  | path :: rest => do
    match Manifest.load disk path with
    | .ok m => do
      let more ← loadManifests disk rest
      pure (m :: more)
    | .error f => do
      Deed.note (.error "failed to load plugin tool" [("path", path), ("err", f.message)])
      loadManifests disk rest

/-- The manifests of a directory. -/
def scan (directory : String) : Deed (List Manifest) := do
  let disk := (← get).disk
  loadManifests disk (manifestPaths disk directory)

end AgentWorkflow.Tool
