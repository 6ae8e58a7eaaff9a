/-
The tools that run commands.

* `Tool.projectCommand` — a fixed command in a directory below the root.
* `Tool.containerTask` — a script in a container that sees the root.
* `Tool.Settings` — where tools work, and within which limits.
-/
import AgentWorkflow.Command.Run
import AgentWorkflow.Session
import AgentWorkflow.Tool.Arguments

namespace AgentWorkflow.Tool

/-- The commands that test and that check a project. -/
structure Commands where
  test : List String
  lint : List String
  deriving DecidableEq, Repr

def Commands.standard : Commands :=
  ⟨["cargo", "test"], ["cargo", "clippy", "--all-targets"]⟩

/-- Where tools work, within which limits, and what they run. -/
structure Settings where
  root : String
  limits : Command.Limits
  commands : Commands

/-- Runs a fixed command and tells how it went. -/
def projectCommand (s : Settings) (label : String) (command : List String) : Tool :=
  fun args =>
    match command with
    | [] => Job.fail (Failure.stated (label ++ " command is empty"))
    | program :: arguments => do
      let path ← Job.ofOutcome (argumentOr args "path" ".")
      let directory ← Job.ofOutcome (pathInside s.root path)
      let output ← Command.run s.limits ⟨program, arguments, directory, none⟩
      pure (.text output.render)

/-- A path that starts at the root, without what says nothing in it. -/
def absolutePath (disk : Disk) (path : String) : String :=
  let names := (Path.segments path).filter fun s => s != "" && s != "."
  let place := if Path.isAbsolute path then names else disk.workingDirectory ++ names
  "/" ++ Text.join "/" place

/-- Runs a script in a container. -/
def containerTask (s : Settings) : Tool := fun args => do
  let image ← Job.ofOutcome (argument args "image")
  let script ← Job.ofOutcome (argument args "command")
  let directory ← Job.ofOutcome (argumentOr args "workdir" "/workspace")
  let root := absolutePath (← Job.disk) s.root
  let output ← Command.run s.limits ⟨"docker",
    ["run", "--rm", "-v", root ++ ":/workspace", "-w", directory, image, "sh", "-c", script],
    ".", none⟩
  pure (.text output.render)

/-- The tool on commands of a name. -/
def commandTool? (s : Settings) (name : String) : Option Tool :=
  match name with
  | "run_tests" => some (projectCommand s "run_tests" s.commands.test)
  | "run_lint" => some (projectCommand s "run_lint" s.commands.lint)
  | "run_docker_task" => some (containerTask s)
  | _ => none

end AgentWorkflow.Tool
