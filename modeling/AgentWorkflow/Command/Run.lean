/-
Running commands within limits.

* `Command.Limits` — how long a command may take, and how much of what it writes
  is kept.
* `Command.Invocation` — a program with its arguments, the directory it runs in,
  and its input.
* `Command.run` — runs a command.  A program that cannot be started is a failure;
  how a started one ended is part of its output.
-/
import AgentWorkflow.Command.Output
import AgentWorkflow.Command.Shell
import AgentWorkflow.Site

namespace AgentWorkflow.Command

structure Limits where
  timeoutMs : Nat
  outputLimit : Nat
  deriving DecidableEq, Repr

def Limits.standard : Limits := ⟨600000, 100000⟩

structure Invocation where
  program : String
  arguments : List String
  directory : String
  input : Option (List UInt8)

/-- The program of a name; names with a slash are paths, and nothing that lies
there can be run unless it is one of the programs. -/
def find (disk : Disk) (name : String) : Except OsError Program :=
  if Programs.isShell name then .ok (Shell.program name)
  else
    match Programs.find? name with
    | some p => .ok p
    | none =>
      if Path.isAbsolute name || name.toList.contains '/' then
        match disk.find name with
        | .ok _ => .error .permissionDenied
        | .error e => .error e
      else .error .notFound

/-- The files as the command sees them: its directory is the working one. -/
def enter (disk : Disk) (directory : String) : Except OsError Disk := do
  match ← disk.find directory with
  | (place, .directory) => pure { disk with workingDirectory := place }
  | (_, .file _) => .error .notDirectory

def holdsNul (s : String) : Bool := s.toList.contains '\x00'

/-- Starts a command: its files and its program. -/
def start (disk : Disk) (i : Invocation) : Except OsError (Disk × Program) := do
  if (i.program :: i.directory :: i.arguments).any holdsNul then .error .nulInArgument
  else
    let inside ← enter disk i.directory
    let program ← find inside i.program
    pure (inside, program)

/-- What a command that ended leaves behind. -/
def outputOf (limits : Limits) (status : Status) (t : Task) : Output :=
  let output := Capture.read limits.outputLimit (t.chunks .output)
  let errors := Capture.read limits.outputLimit (t.chunks .errors)
  match status with
  | .exited code => ⟨.exited (UInt8.ofNat code), output, errors, false⟩
  | .signaled _ => ⟨.signaled, output, errors, false⟩
  | .expired => ⟨.signaled, output, errors, true⟩

/-- The notes on a command that took too long or wrote too much. -/
def notesOn (limits : Limits) (o : Output) : List Note :=
  (if o.timedOut then
    [.warning "tool process timed out, killing"
      [("timeout_secs", toString (limits.timeoutMs / 1000))]]
  else []) ++
  (if o.output.dropped > 0 || o.errors.dropped > 0 then
    [.warning "tool output truncated"
      [("stdout_truncated", toString o.output.dropped),
        ("stderr_truncated", toString o.errors.dropped)]]
  else [])

def run (limits : Limits) (i : Invocation) : Job Output := do
  let disk ← Job.disk
  let (inside, program) ← Job.ofOutcome (Outcome.ofOs "spawn command" (start disk i))
  let (status, t) := program i.arguments
    ⟨inside, i.input.getD [], false, [], 0, limits.timeoutMs⟩
  Job.setDisk { t.disk with workingDirectory := disk.workingDirectory }
  let output := outputOf limits status t
  (notesOn limits output).forM fun n => Deed.note n
  pure output

end AgentWorkflow.Command
