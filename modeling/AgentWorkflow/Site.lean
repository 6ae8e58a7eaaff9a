/-
What the collaborators of a run can reach.

* `Site` — files, the record of a repository host, prepared replies, a server,
  a console, and the notes taken.
* `Job` — a computation on a site that may fail.  What it changed before it
  failed stays changed.
* `Job.ofOutcome`, `Job.attempt`, `Deed.note` — failures, what becomes of them, and
  notes.

Design notes: neither the store of a workflow nor the record of a run is part of
a site, so no tool and no other collaborator can touch them.
-/
import AgentWorkflow.Files.Disk
import AgentWorkflow.Http.Exchange
import AgentWorkflow.Message
import AgentWorkflow.Note

namespace AgentWorkflow

/-- A pull request as it is opened. -/
structure PullRequest where
  title : String
  body : String
  head : String
  base : String
  deriving DecidableEq, Repr

/-- What was made on a repository host. -/
structure Ledger where
  /-- New branches, each with the branch it starts from. -/
  branches : List (String × String)
  pullRequests : List PullRequest
  deriving Inhabited

/-- A prepared reply of the model. -/
inductive Reply where
  | message (m : Message)
  | refusal (f : Failure)

/-- What is prepared for a run: replies in order, and answers to questions of
which the last one is given again and again. -/
structure Rehearsal where
  replies : List Reply
  answers : List Bool
  /-- How many replies were asked for. -/
  requests : Nat
  deriving Inhabited

/-- What passes at a console. -/
inductive Utterance where
  /-- The program writes a result. -/
  | printed (text : String)
  /-- The program writes to its user. -/
  | told (text : String)
  /-- The program takes a line. -/
  | asked
  deriving DecidableEq, Repr

/-- A console: the bytes that can still be read, and what passed so far, the first
thing first. -/
structure Console where
  input : List UInt8
  transcript : List Utterance
  deriving Inhabited

structure Site where
  disk : Disk
  ledger : Ledger
  rehearsal : Rehearsal
  wire : Wire
  console : Console
  notes : List Note
  /-- The pauses made, in milliseconds. -/
  pauses : List Nat
  deriving Inhabited

/-- A computation on a site that may fail. -/
abbrev Job (α : Type) := ExceptT Failure (StateM Site) α

/-- A computation on a site that does not fail. -/
abbrev Deed (α : Type) := StateM Site α

namespace Site

/-- A site of which nothing but the files is given. -/
def ofDisk (disk : Disk) : Site :=
  ⟨disk, default, default, default, default, [], []⟩

end Site

namespace Job

variable {α : Type}

def fail (f : Failure) : Job α := throw f

def ofOutcome : Outcome α → Job α
  | .ok a => pure a
  | .error f => throw f

/-- What came of a job. -/
def attempt (j : Job α) : Deed (Outcome α) := j.run

def disk : Job Disk := do pure (← get).disk

def setDisk (d : Disk) : Job Unit := modify fun s => { s with disk := d }

/-- Does something to the files. -/
def change (frame : String) (f : Disk → Except OsError Disk) : Job Unit := do
  let d ← ofOutcome (Outcome.ofOs frame (f (← disk)))
  setDisk d

/-- Makes a directory and those above it.  What was made before a failure stays. -/
def makeDirs (frame path : String) : Job Unit := do
  let (made, d) := (← disk).makeAll path
  setDisk d
  ofOutcome (Outcome.ofOs frame made)

/-- The text of a file. -/
def readText (frame path : String) : Job String := do
  ofOutcome (Outcome.ofOs frame ((← disk).readText path))

end Job

namespace Deed

def note (n : Note) : Deed Unit := modify fun s => { s with notes := s.notes ++ [n] }

/-- Waits for some milliseconds. -/
def pause (ms : Nat) : Deed Unit := modify fun s => { s with pauses := s.pauses ++ [ms] }

end Deed

end AgentWorkflow
