/-
The texts that a run shows to the model and to people.

* `Texts` — templates by key; `Texts.get` answers the key itself when there is no
  template.
* `Texts.format` — a template with its placeholders, names in braces, replaced.
* `Texts.standard` — the templates there are from the start.
* `Texts.load` — the standard templates with those of a file put over them.

Design notes: placeholders are replaced one name after the other, so a value is
searched for the names that follow its own.
-/
import AgentWorkflow.Files.Disk
import AgentWorkflow.Json.Record

namespace AgentWorkflow

/-- Templates by key. -/
abbrev Texts := Table String

namespace Texts

/-- The template under a key, or the key itself. -/
def get (t : Texts) (key : String) : String := (Table.get? t key).getD key

/-- A name in braces. -/
def placeholder (name : String) : String := "\x7b" ++ name ++ "\x7d"

/-- Replaces the placeholders in the order of the arguments. -/
def fill (template : String) (args : List (String × String)) : String :=
  args.foldl (fun text arg => Text.replaceAll (placeholder arg.1) arg.2 text) template

/-- The template under a key with its placeholders replaced. -/
def format (t : Texts) (key : String) (args : List (String × String)) : String :=
  fill (t.get key) args

def standard : Texts := [
    ("info_tool_call_requested", "Model requested tool calls."),
    ("max_iterations_reached", "Reached max iterations (\x7bmax\x7d)."),
    ("missing_roadmap_msg", "ROADMAP.md is missing. Please analyze the repository and create it."),
    ("mvp_reached_log", "MVP reached. Stopping YOLO loop."),
    ("mvp_reached_notice", "Autopilot YOLO loop stopped: MVP reached."),
    ("no_key_provided", "No key provided"),
    ("open_issues_label", "Open Issues:"),
    ("open_prs_label", "Open Pull Requests:"),
    ("roadmap_content_required", "Content is required"),
    ("roadmap_label", "ROADMAP.md Content:"),
    ("sdlc_context_label", "Current SDLC context:\n"),
    ("task_complete_notice", "Autopilot task complete: \x7bsummary\x7d..."),
    ("tool_done", "Tool '\x7bname\x7d' completed."),
    ("tool_error", "Error executing \x7bname\x7d: \x7berror\x7d"),
    ("tool_invalid_arguments", "Error: invalid arguments for tool '\x7bname\x7d': \x7berror\x7d"),
    ("tool_not_found", "Tool '\x7bname\x7d' not found."),
    ("tool_skipped_by_user", "Tool '\x7bname\x7d' skipped by user."),
    ("tool_skipped_dry_run",
      "Tool '\x7bname\x7d' skipped due to dry-run: it modifies the repository."),
    ("user_next_step", "What should be the next step?")]

/-- The standard templates with those of a file put over them. -/
def load (disk : Disk) : Option String → Outcome Texts
  | none => .ok standard
  | some path => do
    let raw ← Outcome.ofOs ("read " ++ path) (disk.readText path)
    let given ← Outcome.ofJson ("parse " ++ path)
      ((Json.Reader.tableOf Json.Reader.string).run raw)
    pure (Table.overlay standard given)

end Texts

end AgentWorkflow
