/-
Failures.

* `Cause` — what went wrong at the bottom.
* `Failure` — a cause and, outermost first, what was being done.
* `Failure.message` — the frames and the wording of the cause with colons
  between them.
-/
import AgentWorkflow.Json.Error

namespace AgentWorkflow

/-- What the operating system refuses. -/
inductive OsError where
  | notFound
  | permissionDenied
  | fileExists
  | notDirectory
  | isDirectory
  | nameTooLong
  /-- The bytes of a file are no text. -/
  | notText
  /-- A file name with a NUL character. -/
  | nulInName
  /-- An argument of a command with a NUL character. -/
  | nulInArgument
  deriving DecidableEq, Repr

/-- What is refused, in words. -/
def OsError.text : OsError → String
  | .notFound => "No such file or directory"
  | .permissionDenied => "Permission denied"
  | .fileExists => "File exists"
  | .notDirectory => "Not a directory"
  | .isDirectory => "Is a directory"
  | .nameTooLong => "File name too long"
  | .notText => "stream did not contain valid UTF-8"
  | .nulInName => "file name contained an unexpected NUL byte"
  | .nulInArgument => "nul byte found in provided data"

/-- The number of an error that the system itself reports. -/
def OsError.number? : OsError → Option Nat
  | .notFound => some 2
  | .permissionDenied => some 13
  | .fileExists => some 17
  | .notDirectory => some 20
  | .isDirectory => some 21
  | .nameTooLong => some 36
  | _ => none

def OsError.message (e : OsError) : String :=
  match e.number? with
  | some n => e.text ++ " (os error " ++ toString n ++ ")"
  | none => e.text

/-- What went wrong at the bottom. -/
inductive Cause where
  /-- A workflow document without a list of nodes. -/
  | missingNodes
  /-- Nodes of types that no plugin stands for: path and type. -/
  | unknownNodeTypes (nodes : List (String × String))
  | json (error : Json.Error)
  /-- A document, a pattern or an exchange that cannot be understood; how its
  reader words that is not part of the message. -/
  | yaml
  | toml
  | pattern
  | http
  | os (error : OsError)
  | unknownBranchMode (mode : String)
  | unknownFilterMode (mode : String)
  /-- A path that leads out of the repository. -/
  | outside (path : String)
  | missingArgument (name : String)
  | argumentNotText (name : String) (found : Json)
  /-- A tool or a job that stopped without an answer. -/
  | panicked
  | stated (text : String)
  deriving Repr

def Cause.message : Cause → String
  | .missingNodes => "workflow definition is missing its `nodes` list"
  | .unknownNodeTypes nodes =>
    "unknown node type(s):" ++ String.join (nodes.map fun n => "\n- " ++ n.1 ++ ": " ++ n.2)
  | .json e => e.message
  | .yaml => "<yaml>"
  | .toml => "<toml>"
  | .pattern => "<regex>"
  | .http => "<http>"
  | .os e => e.message
  | .unknownBranchMode mode => "unknown branch mode '" ++ mode ++ "'"
  | .unknownFilterMode mode => "unknown filter mode '" ++ mode ++ "'"
  | .outside path => "path '" ++ path ++ "' must stay inside the repository"
  | .missingArgument name => "missing required argument '" ++ name ++ "'"
  | .argumentNotText name found =>
    "argument '" ++ name ++ "' must be a string, got " ++ found.render
  | .panicked => "panicked"
  | .stated text => text

/-- A cause and what was being done, outermost first. -/
structure Failure where
  frames : List String
  cause : Cause
  deriving Repr

abbrev Outcome (α : Type) := Except Failure α

namespace Failure

def of (cause : Cause) : Failure := ⟨[], cause⟩

def stated (text : String) : Failure := of (.stated text)

/-- The failure of a larger undertaking. -/
def within (frame : String) (f : Failure) : Failure :=
  { f with frames := frame :: f.frames }

def message (f : Failure) : String :=
  Text.join ": " (f.frames ++ [f.cause.message])

end Failure

namespace Outcome

variable {α : Type}

/-- Names what was being done when a step fails. -/
def within (frame : String) : Outcome α → Outcome α
  | .ok a => .ok a
  | .error f => .error (f.within frame)

/-- What the operating system refused is the cause. -/
def ofOs (frame : String) : Except OsError α → Outcome α
  | .ok a => .ok a
  | .error e => .error ⟨[frame], .os e⟩

/-- What is wrong with a JSON text is the cause. -/
def ofJson (frame : String) : Except Json.Error α → Outcome α
  | .ok a => .ok a
  | .error e => .error ⟨[frame], .json e⟩

end Outcome

end AgentWorkflow
