/-
The state of a shell, and words whose values are known.

* `Shell` — a task with the variables, the functions and the arguments of a script, and the
  last exit code.
* `Flow` — what happens after a command.
* `Shell.Part` — a part of a word whose text is known, with how it is taken.
* `Shell.fields` — the arguments that parts stand for: loose text is parted at blanks, and
  signs that stand bare are replaced by the paths that fit.
-/
import AgentWorkflow.Command.Script
import AgentWorkflow.Command.Shell.Names

namespace AgentWorkflow

/-- A variable; one that is exported is passed on to a shell that a script starts. -/
structure Variable where
  value : String
  exported : Bool
  deriving DecidableEq, Repr

structure Shell where
  /-- How the shell is called in messages. -/
  name : String
  task : Task
  bindings : Table Variable
  functions : Table Script
  arguments : List String
  code : Nat
  /-- The line of the command that is run. -/
  line : Nat
  /-- A command that fails ends the script. -/
  strict : Bool
  /-- What fails now is only a test. -/
  tested : Bool
  /-- A word could not be replaced. -/
  failed : Bool
  /-- What is run at the end. -/
  farewell : Option String
  /-- When the last of the commands ends for which nobody waits. -/
  busyUntil : Nat

/-- What happens after a command. -/
inductive Flow where
  | next
  /-- Some loops are left. -/
  | leave (loops : Nat)
  /-- Some loops are left, of which the last goes on. -/
  | again (loops : Nat)
  /-- The function ends. -/
  | back
  | stop (s : Status)

namespace Shell

open Script (Word Piece)

def start (name : String) (task : Task) (arguments : List String) : Shell where
  name
  task
  bindings := []
  functions := []
  arguments
  code := 0
  line := 1
  strict := false
  tested := false
  failed := false
  farewell := none
  busyUntil := 0

def setCode (sh : Shell) (code : Nat) : Shell := { sh with code }

def setTask (sh : Shell) (task : Task) : Shell := { sh with task }

/-- Writes a complaint with the name of the shell and the line. -/
def complain (sh : Shell) (message : String) : Shell :=
  sh.setTask (sh.task.complain (sh.name ++ ": " ++ toString sh.line ++ ": " ++ message))

/-- Complains about a word that cannot be replaced. -/
def failWith (sh : Shell) (message : String) : Shell :=
  { sh.complain message with failed := true, code := 2 }

/-! ### Variables -/

/-- The number that stands for the shell itself. -/
def ownNumber : String := "1"

/-- The value of a parameter, if it is set. -/
def lookup? (sh : Shell) (name : String) : Option String :=
  match name with
  | "?" => some (toString sh.code)
  | "$" => some ownNumber
  | "#" => some (toString sh.arguments.length)
  | "0" => some sh.name
  | "-" => some ""
  | "!" => none
  | "@" => if sh.arguments.isEmpty then none else some (Text.join " " sh.arguments)
  | "*" => if sh.arguments.isEmpty then none else some (Text.join " " sh.arguments)
  | "PWD" => some sh.task.disk.workingPath
  | _ =>
    match Text.digits? name.toList with
    | some n => sh.arguments[n - 1]?
    | none => (Table.get? sh.bindings name).map Variable.value

def valueOf (sh : Shell) (name : String) : String := (sh.lookup? name).getD ""

/-- Sets a variable; one that is exported stays so. -/
def bind (sh : Shell) (name value : String) : Shell :=
  let exported := ((Table.get? sh.bindings name).map Variable.exported).getD false
  { sh with bindings := Table.insert sh.bindings name ⟨value, exported⟩ }

/-- Marks a variable as exported. -/
def expose (sh : Shell) (name : String) : Shell :=
  let value := ((Table.get? sh.bindings name).map Variable.value).getD ""
  { sh with bindings := Table.insert sh.bindings name ⟨value, true⟩ }

/-- The variables that are passed on. -/
def exported (sh : Shell) : Table Variable := sh.bindings.filter fun b => b.2.exported

/-! ### Words whose values are known -/

/-- How the text of a part of a word is taken. -/
inductive Manner where
  /-- Signs in it stand for the names of files. -/
  | bare
  /-- As it stands. -/
  | quoted
  /-- Blanks in it part words, and signs stand for names. -/
  | loose
  /-- A word ends here. -/
  | boundary
  deriving DecidableEq

/-- A part of a word whose text is known. -/
abbrev Part := String × Manner

def manner (quoted : Bool) : Manner := if quoted then .quoted else .loose

/-- Parts that are parted at blanks where they stand bare. -/
def loosen (parts : List Part) : List Part :=
  parts.map fun p => if p.2 = .bare then (p.1, .loose) else p

/-- All arguments as parts of a word: between quotes each is a word of its own. -/
def argumentParts (sh : Shell) (joined quoted : Bool) : List Part :=
  if joined && quoted then [(Text.join " " sh.arguments, .quoted)]
  else (sh.arguments.map fun a => (a, manner quoted)).intersperse ("", .boundary)

def textOf (parts : List Part) : String := String.join (parts.map Prod.fst)

/-- Words found so far, and the one that has begun. -/
structure Splitting where
  words : List (List Part)
  current : Option (List Part)

def Splitting.close (s : Splitting) : Splitting :=
  match s.current with
  | none => s
  | some w => ⟨s.words ++ [w], none⟩

def Splitting.add (s : Splitting) (p : Part) : Splitting :=
  { s with current := some (s.current.getD [] ++ [p]) }

/-- The words that parts make up. -/
def splitWords (parts : List Part) : List (List Part) :=
  (parts.foldl (fun (s : Splitting) (p : Part) =>
    match p.2 with
    | .boundary => s.close
    | .loose =>
      p.1.toList.foldl (fun (s : Splitting) c =>
        if c = ' ' || c = '\t' || c = '\n' then s.close else s.add (c.toString, .bare)) s
    | _ => s.add p) ⟨[], none⟩).close.words

/-- The pattern of names that parts spell. -/
def pattern (parts : List Part) : NamePattern :=
  let marked := parts.flatMap fun p => p.1.toList.map fun c => (c, decide (p.2 ≠ .quoted))
  NamePattern.ofMarked (marked.length + 1) marked

/-- The texts of a word: the paths that fit it, or the word itself. -/
def names (sh : Shell) (parts : List Part) : List String :=
  let p := pattern parts
  if p.plain?.isSome then [textOf parts]
  else
    match p.paths sh.task.disk with
    | [] => [textOf parts]
    | found => found

/-- The arguments that parts stand for. -/
def fields (sh : Shell) (parts : List Part) : List String :=
  (splitWords parts).flatMap sh.names

end Shell

end AgentWorkflow
