/-
The tools that work on files below a root.

* `Tool.readFile`, `Tool.writeFile`, `Tool.editFile`, `Tool.listFiles`.
* `Disk.filesBelow` — the files below a place, in order, without the directories
  that are left out.
* `Disk.walkedBelow` — the directories that have to be opened to find them.

Design notes: a list of files is found from the list of all entries: a file is
listed when its place begins with that of the directory and no directory between
them is left out.  The order is that of the names from the directory down.  A
directory is opened by its path, so one that lies too deep cannot be walked
through.
-/
import AgentWorkflow.Session
import AgentWorkflow.Tool.Arguments

namespace AgentWorkflow

/-- The directories whose files are not listed. -/
def Disk.skippedNames : List String := [".git", "target", "node_modules"]

/-- Whether no directory on the way to a file is left out; the last name is the
file's own. -/
def Disk.isListed (below : Place) : Bool :=
  below.dropLast.all fun name => !skippedNames.contains name

/-- The way from a place down to another, if it leads down. -/
def Disk.below? (place : Place) (p : Place) : Option Place :=
  if place.isPrefixOf p then some (p.drop place.length) else none

/-- The ways from a place down to the listed files. -/
def Disk.filesBelow (d : Disk) (place : Place) : List Place :=
  (d.entries.filterMap fun e =>
    match e.2 with
    | .directory => none
    | .file _ => (below? place e.1).filter isListed).mergeSort Place.notAfter

/-- The ways from a place down to the directories that are walked through. -/
def Disk.walkedBelow (d : Disk) (place : Place) : List Place :=
  (d.entries.filterMap fun e =>
    match e.2 with
    | .file _ => none
    | .directory => (below? place e.1).filter fun below =>
        !below.isEmpty && below.all fun name => !skippedNames.contains name).mergeSort
    Place.notAfter

namespace Tool

/-- A place below a root, from its argument. -/
def inside (root : String) (path : String) : Job String := Job.ofOutcome (pathInside root path)

def readFile (root : String) : Tool := fun args => do
  let path ← Job.ofOutcome (argument args "path")
  let place ← inside root path
  let text ← Job.readText ("read " ++ path) place
  pure (.text text)

def writeFile (root : String) : Tool := fun args => do
  let path ← Job.ofOutcome (argument args "path")
  let content ← Job.ofOutcome (argument args "content")
  let place ← inside root path
  match Path.parent? place with
  | some up => Job.makeDirs ("create directory for " ++ path) up
  | none => pure ()
  Job.change ("write " ++ path) fun d => d.write place (Text.encode content)
  pure (.text ("Successfully wrote " ++ path))

def editFile (root : String) : Tool := fun args => do
  let path ← Job.ofOutcome (argument args "path")
  let search ← Job.ofOutcome (argument args "search")
  let replacement ← Job.ofOutcome (argument args "replace")
  let place ← inside root path
  let text ← Job.readText ("read " ++ path) place
  if search.isEmpty || !Text.occurs search text then
    pure (.text ("Error: '" ++ search ++ "' not found in " ++ path))
  else
    Job.change ("write " ++ path) fun d =>
      d.write place (Text.encode (Text.replaceAll search replacement text))
    pure (.text ("Successfully edited " ++ path))

/-- The text of a way down from a directory that was given as a path: the two
put together, without what says nothing at the front, and with slashes only. -/
def listedName (directory : String) (below : Place) : String :=
  let joined := if below.isEmpty then directory
    else Path.join directory (Text.join "/" below)
  let pieces := (Path.segments joined).dropWhile fun s => s == "" || s == "."
  Text.replaceAll "\\" "/" (Text.join "/" pieces)

/-- The failure of a directory that cannot be listed. -/
def cannotList (path place : String) (e : OsError) : Failure :=
  ⟨["list " ++ path, "IO error for operation on " ++ place ++ ": " ++ e.message], .os e⟩

/-- The path of the first directory on a walk that is too long to be opened. -/
def tooDeep? (disk : Disk) (directory : String) (place : Place) : Option String :=
  ((disk.walkedBelow place).map fun below => Path.join directory (Text.join "/" below)).find?
    fun path => Disk.pathLimit < path.utf8ByteSize

def listFiles (root : String) : Tool := fun args => do
  let path ← Job.ofOutcome (argumentOr args "directory" ".")
  let directory ← inside root path
  let disk ← Job.disk
  match disk.find directory with
  | .error e => Job.fail (cannotList path directory e)
  | .ok (_, .file _) => pure (Json.texts [listedName path []])
  | .ok (place, .directory) =>
    match tooDeep? disk directory place with
    | some deep => Job.fail (cannotList path deep .nameTooLong)
    | none => pure (Json.texts ((disk.filesBelow place).map (listedName path)))

/-- The tool on files of a name. -/
def fileTool? (root : String) (name : String) : Option Tool :=
  match name with
  | "read_file" => some (readFile root)
  | "write_file" => some (writeFile root)
  | "edit_file" => some (editFile root)
  | "list_files" => some (listFiles root)
  | _ => none

end Tool

end AgentWorkflow
