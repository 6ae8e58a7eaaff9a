/-
Programs at work.

* `Task` — the files, what is left of the input, what was written so far, and the
  time taken of the time allowed.
* `Program` — takes its arguments and a task, and answers how it ended.
* `Task.write`, `Task.sleep`, `Task.readInput` — what programs do.

Design notes: programs run one after the other, so a pipeline hands on the whole
output of a command.  Only sleeping takes time.
-/
import AgentWorkflow.Files.Disk

namespace AgentWorkflow

/-- The streams that a program writes to. -/
inductive OutStream where
  | output
  | errors
  deriving DecidableEq, Repr

structure Task where
  disk : Disk
  input : List UInt8
  /-- Whether the input is a file. -/
  fromFile : Bool
  /-- What was written, the last first. -/
  writes : List (OutStream × List UInt8)
  /-- Milliseconds. -/
  elapsed : Nat
  allowed : Nat

/-- How a program ended. -/
inductive Status where
  | exited (code : Nat)
  | signaled (signal : Nat)
  /-- The time allowed was over. -/
  | expired
  deriving DecidableEq, Repr

abbrev Program := List String → Task → Status × Task

namespace Task

def write (t : Task) (stream : OutStream) (bytes : List UInt8) : Task :=
  if bytes.isEmpty then t else { t with writes := (stream, bytes) :: t.writes }

def put (t : Task) (bytes : List UInt8) : Task := t.write .output bytes

def putText (t : Task) (s : String) : Task := t.put (Text.encode s)

/-- Writes a line to the stream for errors. -/
def complain (t : Task) (s : String) : Task := t.write .errors (Text.encode (s ++ "\n"))

/-- Complains about a call of a program that it does not know. -/
def advise (t : Task) (name message : String) : Task :=
  (t.complain (name ++ ": " ++ message)).complain
    ("Try '" ++ name ++ " --help' for more information.")

/-- The chunks written to a stream, in order. -/
def chunks (t : Task) (stream : OutStream) : List (List UInt8) :=
  t.writes.reverse.filterMap fun w => if w.1 = stream then some w.2 else none

/-- Takes all that is left of the input. -/
def readInput (t : Task) : List UInt8 × Task := (t.input, { t with input := [] })

/-- Sleeps; answers whether that ended in time. -/
def sleep (t : Task) (ms : Nat) : Bool × Task :=
  let t := { t with elapsed := t.elapsed + ms }
  (t.elapsed < t.allowed, t)

/-- The content of a file; the null device is empty. -/
def readFile (t : Task) (path : String) : Except OsError (List UInt8) :=
  if path = "/dev/null" then .ok [] else t.disk.read path

end Task

end AgentWorkflow
