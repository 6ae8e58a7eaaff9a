/-
The program on the computer that it is started on.

Everything that is decided is decided by `CommandLine.Program.run`; here its site is
read from the working directory and what it changed is written back.  No server can be
reached.

Design notes: the program is run from its start for every line that its user gives,
with all the lines so far.  What it does is the same each time up to the place where it
asks for a line that is not there yet, so only what follows is shown.
-/
import AgentWorkflow.CommandLine.Program

namespace AgentWorkflow.Main

open CommandLine

/-! ### Reading -/

def placeOf (path : String) : Place := (Path.segments path).filter (· ≠ "")

/-- Everything below a directory; what is reached by another path is left out. -/
partial def entriesBelow (path : String) : IO (List (Place × Entry)) := do
  let directory ← IO.FS.realPath path
  let mut entries : List (Place × Entry) := []
  for found in ← directory.readDir do
    let below := found.path.toString
    if (← IO.FS.realPath below).toString == below then
      if ← found.path.isDir then
        entries := entries ++ (placeOf below, .directory) :: (← entriesBelow below)
      else
        let content ← IO.FS.readBinFile below
        entries := entries ++ [(placeOf below, .file content.data.toList)]
  return entries

/-- The working directory with everything below it. -/
def readDisk : IO Disk := do
  let here := (← IO.currentDir).toString
  let place := placeOf here
  let above := (Environment.upward place).map fun p => (p, Entry.directory)
  return ⟨place, above ++ (← entriesBelow here)⟩

/-- The names that the file of variables may mention. -/
def namesIn (content : List UInt8) : List String :=
  let isName (c : Char) : Bool := c.isAlphanum || c = '_'
  let cs := (Text.decodeLossy content).toList.map fun c => if isName c then c else ' '
  (Text.splitAt ' ' (String.ofList cs)).filter (· ≠ "")

/-- The variables that are set, of those that can matter. -/
def readEnvironment (disk : Disk) : IO Environment := do
  let names := Project.variableNames ++ namesIn ((Environment.file? disk).getD [])
  let mut e : Environment := []
  for name in names do
    if let some value ← IO.getEnv name then e := Table.insert e name value
  return e

/-- The next line that the user gives, empty at the end; one that is no text stays
none. -/
def readLine : IO (List UInt8) := do
  let input ← IO.getStdin
  try return Text.encode (← input.getLine)
  catch _ => return [0xFF, 10]

/-! ### Writing -/

/-- What passed before the line after so many lines is asked for, and whether it is
asked for. -/
def upTo : Nat → List Utterance → List Utterance × Bool
  | _, [] => ([], false)
  | 0, .asked :: _ => ([], true)
  | lines + 1, .asked :: rest =>
    let (shown, more) := upTo lines rest
    (.asked :: shown, more)
  | lines, u :: rest =>
    let (shown, more) := upTo lines rest
    (u :: shown, more)

def shout : Utterance → IO Unit
  | .printed text => IO.print text
  | .told text => IO.eprint text
  | .asked => pure ()

/-- Writes back what changed. -/
def writeBack (before after : Disk) : IO Unit := do
  let pathOf (place : Place) : String := "/" ++ Text.join "/" place
  for (place, _) in before.entries do
    if (after.lookup? place).isNone then IO.FS.removeFile (pathOf place)
  for (place, entry) in after.entries do
    if before.lookup? place ≠ some entry then
      match entry with
      | .directory => IO.FS.createDirAll (pathOf place)
      | .file content =>
        IO.FS.createDirAll (pathOf place.dropLast)
        IO.FS.writeBinFile (pathOf place) ⟨content.toArray⟩

/-! ### The whole -/

/-- Runs the program with the lines given so far, and with more as long as it asks for
more. -/
partial def converse (arguments : List String) (e : Environment) (disk : Disk)
    (input : List UInt8) (lines shown : Nat) : IO UInt32 := do
  let site := { Site.ofDisk disk with console := ⟨input, []⟩ }
  let (code, after) := (Program.run arguments e).run site
  let (passed, asks) := upTo lines after.console.transcript
  for u in passed.drop shown do shout u
  if asks then
    let line ← readLine
    converse arguments e disk (input ++ line) (lines + 1) passed.length
  else
    writeBack disk after.disk
    return UInt32.ofNat code.number

end AgentWorkflow.Main

def main (arguments : List String) : IO UInt32 := do
  let disk ← AgentWorkflow.Main.readDisk
  let e ← AgentWorkflow.Main.readEnvironment disk
  AgentWorkflow.Main.converse arguments e disk [] 0 0
