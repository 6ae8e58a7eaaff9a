/-
The programs that commands can run.

* `Programs.find?` — the program of a name.

Design notes: each program has the options that commands of workflows use.
-/
import AgentWorkflow.Command.Programs.Bytes
import AgentWorkflow.Command.Programs.Files
import AgentWorkflow.Command.Programs.Lines
import AgentWorkflow.Command.Sed

namespace AgentWorkflow.Programs

def succeed : Program := fun _ t => (.exited 0, t)

def fail : Program := fun _ t => (.exited 1, t)

/-- Writes its arguments with blanks between them. -/
def echo : Program := fun args t =>
  match args with
  | "-n" :: rest => (.exited 0, t.putText (Text.join " " rest))
  | "-e" :: rest =>
    let s := Text.join " " rest
    (.exited 0, (t.put (Printf.unescape (s.length + 1) s.toList).1).putText "\n")
  | rest => (.exited 0, t.putText (Text.join " " rest ++ "\n"))

/-- Does something with each of some files, or with the input when there are
none.  The status tells whether all could be read. -/
def forFiles (name : String) (f : Task → List UInt8 → Task) (files : List String) (t : Task) :
    Status × Task :=
  let one (acc : Status × Task) (file : String) : Status × Task :=
    let (status, t) := acc
    if file = "-" then
      let (bytes, t) := t.readInput
      (status, f t bytes)
    else
      match t.readFile file with
      | .ok bytes => (status, f t bytes)
      | .error e => (.exited 1, t.complain (name ++ ": " ++ file ++ ": " ++ e.text))
  (if files.isEmpty then ["-"] else files).foldl one (.exited 0, t)

def cat : Program := fun args t =>
  forFiles "cat" Task.put (args.filter fun a => a = "-" || !Text.beginsWith "-" a) t

/-- A time in milliseconds: a decimal number with an optional unit. -/
def duration? (s : String) : Option Nat :=
  let whole := s.toList.takeWhile Char.isDigit
  let rest := s.toList.drop whole.length
  let (fraction, rest) := match rest with
    | '.' :: rest => (rest.takeWhile Char.isDigit, rest.dropWhile Char.isDigit)
    | rest => ([], rest)
  let unit? := match rest with
    | [] => some 1000
    | ['s'] => some 1000
    | ['m'] => some 60000
    | ['h'] => some 3600000
    | ['d'] => some 86400000
    | _ => none
  if whole.isEmpty && fraction.isEmpty then none
  else
    unit?.map fun unit =>
      ((Text.digits? whole).getD 0) * unit +
        ((Text.digits? fraction).getD 0) * unit / Nat.pow 10 fraction.length

def sleep : Program := fun args t =>
  match args, args.filter fun a => (duration? a).isNone with
  | [], _ => (.exited 1, t.advise "sleep" "missing operand")
  | times, [] =>
    let (inTime, t) := t.sleep ((times.filterMap duration?).foldl (· + ·) 0)
    (if inTime then .exited 0 else .expired, t)
  | _, faulty =>
    let t := faulty.foldl (fun t a =>
      t.complain ("sleep: invalid time interval '" ++ a ++ "'")) t
    (.exited 1, t.complain "Try 'sleep --help' for more information.")

/-- Writes its arguments, one on a line. -/
def listArguments : Program := fun args t => (.exited 0, t.putText (column args))

/-- How much of an endless text there is for the command that reads it. -/
def endlessLength : Nat := 200000

/-- Repeats a line without end. -/
def yes : Program := fun args t =>
  let line := Text.encode ((if args.isEmpty then "y" else Text.join " " args) ++ "\n")
  let count := endlessLength / line.length + 1
  (.signaled 13, t.put (List.replicate count line).flatten)

/-- The programs by name; a container tool only tells what it would run. -/
def named : List (String × Program) := [
  ("basename", basename), ("cat", cat), ("cp", cp), ("dirname", dirname),
  ("docker", listArguments), ("echo", echo), ("false", fail), ("grep", grep), ("head", head),
  ("ls", ls), ("mkdir", mkdir), ("mv", mv), ("printf", Printf.run), ("pwd", pwd), ("rm", rm),
  ("rmdir", rmdir), ("sed", Sed.run), ("seq", seq), ("sleep", sleep), ("sort", sort),
  ("tail", tail), ("touch", touch), ("tr", tr), ("true", succeed), ("wc", wc), ("yes", yes)]

/-- The name of a program that may be given with its directory. -/
def baseName (name : String) : String :=
  match Text.dropHead? "/bin/" name, Text.dropHead? "/usr/bin/" name with
  | some base, _ => base
  | _, some base => base
  | none, none => name

def find? (name : String) : Option Program := named.lookup (baseName name)

/-- Whether a name is that of a shell. -/
def isShell (name : String) : Bool := ["sh", "dash", "bash"].contains (baseName name)

end AgentWorkflow.Programs
