/-
The tools that there are from the start.

* `Tool.standardSpecs` — what the model is told about them.
* `Tool.standardEntries` — who provides them.
* `Tool.standardPolicy` — which of them modify the repository.
-/
import AgentWorkflow.Tool.Catalog

namespace AgentWorkflow.Tool

/-- A specification of a tool whose parameters are all texts.  The parameters are
given with their descriptions, in the order of their names. -/
def specification (name description : String) (parameters : List (String × String))
    (required : List String) : Json :=
  .object [
    ("function", .object [
      ("description", .text description),
      ("name", .text name),
      ("parameters", .object [
        ("properties", .object (parameters.map fun p =>
          (p.1, .object [("description", .text p.2), ("type", .text "string")]))),
        ("required", Json.texts required),
        ("type", .text "object")])]),
    ("type", .text "function")]

def standardSpecs : List Json := [
  specification "read_file"
      "Read a UTF-8 text file from the repository."
      [("path", "Path relative to the repository root.")]
      ["path"],
  specification "write_file"
      "Create or overwrite a file with the given content."
      [("content", "Full file contents."),
       ("path", "Path relative to the repository root.")]
      ["path", "content"],
  specification "edit_file"
      "Replace the first occurrence of a search string in a file."
      [("path", "Path relative to the repository root."),
       ("replace", "Replacement text."),
       ("search", "Exact text to find.")]
      ["path", "search", "replace"],
  specification "list_files"
      "List files under a directory, recursively."
      [("directory", "Directory relative to the repository root. Defaults to '.'.")]
      [],
  specification "run_tests"
      "Run the project's test command."
      [("path", "Working directory relative to the repository root. Defaults to '.'.")]
      [],
  specification "run_lint"
      "Run the project's lint command."
      [("path", "Working directory relative to the repository root. Defaults to '.'.")]
      [],
  specification "run_docker_task"
      "Run a shell command inside a Docker container with the repository mounted at /workspace."
      [("command", "Shell command to run."),
       ("image", "Docker image."),
       ("workdir", "Working directory inside the container. Defaults to /workspace.")]
      ["image", "command"],
  specification "create_branch"
      "Create a branch on the hosted repository."
      [("base_branch", "Branch to start from. Defaults to 'main'."),
       ("branch_name", "New branch name.")]
      ["branch_name"],
  specification "create_pull_request"
      "Open a pull request."
      [("base_branch", "Target branch. Defaults to 'main'."),
       ("body", "Pull request description."),
       ("head_branch", "Branch with the changes."),
       ("title", "Pull request title.")]
      ["title", "body", "head_branch"],
  specification "list_open_issues"
      "List open issues of the hosted repository."
      []
      []]

def standardEntries : List Entry := [
  ⟨"read_file", .builtin, none⟩,
  ⟨"write_file", .builtin, none⟩,
  ⟨"edit_file", .builtin, none⟩,
  ⟨"list_files", .builtin, none⟩,
  ⟨"run_tests", .builtin, none⟩,
  ⟨"run_lint", .builtin, none⟩,
  ⟨"run_docker_task", .builtin, none⟩,
  ⟨"create_branch", .forge, none⟩,
  ⟨"create_pull_request", .forge, none⟩,
  ⟨"list_open_issues", .forge, none⟩]

def standardPolicy : Policy :=
  ⟨["create_branch", "create_pull_request", "edit_file", "run_docker_task", "write_file"]⟩

/-- The specifications of a file, or the standard ones. -/
def specsOrStandard (disk : Disk) : Option String → Outcome (List Json)
  | none => .ok standardSpecs
  | some path => loadSpecs disk path

def entriesOrStandard (disk : Disk) : Option String → Outcome (List Entry)
  | none => .ok standardEntries
  | some path => loadEntries disk path

def policyOrStandard (disk : Disk) : Option String → Outcome Policy
  | none => .ok standardPolicy
  | some path => loadPolicy disk path

end AgentWorkflow.Tool
