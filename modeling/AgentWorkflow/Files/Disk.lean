/-
Files and directories.

* `Disk` — what there is, by place, and the working directory.
* `Disk.locate` — the place that a path leads to.
* `Disk.read`, `Disk.readText`, `Disk.write`, `Disk.makeAll`, `Disk.makeDirs`,
  `Disk.rename`, `Disk.names` — the operations and how they fail.
* `lookup?_put` — what a write does to every look-up.

Design notes: a place is the list of names from the root.  A path is followed
name by name, and each but the last has to lead to a directory; that the place
above an entry is a directory is therefore never needed of the list itself.
-/
import AgentWorkflow.Failure
import AgentWorkflow.Files.Path
import AgentWorkflow.Text.Utf8

namespace AgentWorkflow

/-- The names from the root to an entry. -/
abbrev Place := List String

/-- The order of places, name by name: a place comes before those below it. -/
def Place.notAfter : Place → Place → Bool
  | [], _ => true
  | _ :: _, [] => false
  | a :: p, b :: q => decide (a < b) || (a == b && Place.notAfter p q)

inductive Entry where
  | directory
  | file (content : List UInt8)
  deriving DecidableEq

/-- What there is below the root, and the working directory. -/
structure Disk where
  workingDirectory : Place
  entries : List (Place × Entry)
  deriving Inhabited

namespace Disk

/-- The path of the working directory. -/
def workingPath (d : Disk) : String := "/" ++ Text.join "/" d.workingDirectory

/-- The entry at a place; the root is a directory. -/
def lookup? (d : Disk) (place : Place) : Option Entry :=
  if place = [] then some .directory else d.entries.lookup place

/-- Puts an entry at a place. -/
def put (d : Disk) (place : Place) (entry : Entry) : Disk :=
  { d with entries := (place, entry) :: d.entries.filter fun e => e.1 != place }

/-- Drops the entry at a place. -/
def drop (d : Disk) (place : Place) : Disk :=
  { d with entries := d.entries.filter fun e => e.1 != place }

theorem lookup_filter_ne (es : List (Place × Entry)) (place p : Place) (h : p ≠ place) :
    (es.filter fun e => e.1 != place).lookup p = es.lookup p := by
  induction es with
  | nil => rfl
  | cons e rest ih =>
    obtain ⟨q, v⟩ := e
    by_cases hq : q = place
    · subst hq
      have hp : (p == q) = false := by simpa using h
      rw [List.lookup_cons, hp]
      simpa using ih
    · by_cases hp : p = q <;> simp [hq, List.lookup_cons, ih, hp]

theorem lookup?_put (d : Disk) (place : Place) (entry : Entry) (p : Place) (h : p ≠ []) :
    (d.put place entry).lookup? p = if p = place then some entry else d.lookup? p := by
  by_cases hp : p = place
  · subst hp; simp [lookup?, put, h]
  · have hb : (p == place) = false := by simpa using hp
    simp [lookup?, put, h, List.lookup_cons, hb, hp, lookup_filter_ne _ _ _ hp]

/-! ### Following a path -/

/-- The longest name and the longest path, in bytes. -/
def nameLimit : Nat := 255

def pathLimit : Nat := 4095

/-- Where a path leads. -/
inductive Target where
  | found (place : Place) (entry : Entry)
  /-- Nothing is there, but its directory is. -/
  | vacant (place : Place)

/-- One step from a place that has to be a directory. -/
def step (d : Disk) (place : Place) (name : String) : Except OsError Target :=
  match d.lookup? place with
  | none => .error .notFound
  | some (.file _) => .error .notDirectory
  | some .directory =>
    if name = "." then .ok (.found place .directory)
    else if name = ".." then .ok (.found place.dropLast .directory)
    else if name.utf8ByteSize > nameLimit then .error .nameTooLong
    else
      match d.lookup? (place ++ [name]) with
      | some entry => .ok (.found (place ++ [name]) entry)
      | none => .ok (.vacant (place ++ [name]))

/-- Follows names from a place. -/
def follow (d : Disk) (place : Place) : List String → Except OsError Target
  | [] =>
    match d.lookup? place with
    | some entry => .ok (.found place entry)
    | none => .error .notFound
  | [name] => d.step place name
  | name :: rest => do
    match ← d.step place name with
    | .found place _ => d.follow place rest
    | .vacant _ => .error .notFound

/-- The names of a path that is not empty, and whether it ends in a slash. -/
def route (path : String) : List String × Bool :=
  ((Path.segments path).filter (· ≠ ""), Text.finishesWith "/" path)

/-- Refuses a text that names no path. -/
def checkPath (path : String) : Except OsError Unit :=
  if path.toList.contains '\x00' then .error .nulInName
  else if path.isEmpty then .error .notFound
  else if path.utf8ByteSize > pathLimit then .error .nameTooLong
  else .ok ()

/-- Where the names of a path lead to, and whether it ends in a slash. -/
def approach (d : Disk) (path : String) : Except OsError (Target × Bool) := do
  checkPath path
  let (names, slash) := route path
  let target ← d.follow (if Path.isAbsolute path then [] else d.workingDirectory) names
  pure (target, slash)

/-- Where a path leads to; only a directory may be written with a slash at the
end. -/
def locate (d : Disk) (path : String) : Except OsError Target := do
  match ← d.approach path with
  | (.found _ (.file _), true) => .error .notDirectory
  | (target, _) => pure target

/-- The entry that a path leads to. -/
def find (d : Disk) (path : String) : Except OsError (Place × Entry) := do
  match ← d.locate path with
  | .found place entry => pure (place, entry)
  | .vacant _ => .error .notFound

def isDirectory (d : Disk) (path : String) : Bool :=
  match d.find path with
  | .ok (_, .directory) => true
  | _ => false

def isFile (d : Disk) (path : String) : Bool :=
  match d.find path with
  | .ok (_, .file _) => true
  | _ => false

/-! ### Operations -/

def read (d : Disk) (path : String) : Except OsError (List UInt8) := do
  match ← d.find path with
  | (_, .file content) => pure content
  | (_, .directory) => .error .isDirectory

def readText (d : Disk) (path : String) : Except OsError String := do
  match Text.decode? (← d.read path) with
  | some s => pure s
  | none => .error .notText

/-- Writes a file; the directory has to be there.  A path that ends in a slash
or a dot can only mean a directory. -/
def write (d : Disk) (path : String) (content : List UInt8) : Except OsError Disk := do
  match ← d.approach path with
  | (.found _ .directory, _) => .error .isDirectory
  | (_, true) => .error .isDirectory
  | (.found place (.file _), false) => pure (d.put place (.file content))
  | (.vacant place, false) => pure (d.put place (.file content))

/-- Makes one directory. -/
def makeDir (d : Disk) (path : String) : Except OsError Disk := do
  match ← d.approach path with
  | (.found _ _, _) => .error .fileExists
  | (.vacant place, _) => pure (d.put place .directory)

/-- Makes a directory whose place may be taken by a directory already. -/
def makeDirOnce (d : Disk) (path : String) : Except OsError Disk :=
  match d.makeDir path with
  | .ok d => .ok d
  | .error e => if d.isDirectory path then .ok d else .error e

/-- The paths above a path, the nearest first. -/
def above : Nat → String → List String
  | 0, _ => []
  | fuel + 1, path =>
    match Path.parent? path with
    | none => []
    | some up => up :: above fuel up

/-- What came of a change, and the files then: a change that fails leaves them as they are. -/
def settle {ε : Type} (d : Disk) : Except ε Disk → Except ε Unit × Disk
  | .ok d' => (.ok (), d')
  | .error e => (.error e, d)

/-- Makes a directory and those above it.  What was made stays, also when one of them cannot
be. -/
def makeAllFrom (d : Disk) (path : String) : List String → Except OsError Unit × Disk
  | [] =>
    if path.isEmpty then (.ok (), d)
    else d.settle (d.makeDirOnce path)
  | up :: more =>
    if path.isEmpty then (.ok (), d)
    else
      match d.makeDir path with
      | .ok d => (.ok (), d)
      | .error .notFound =>
        match makeAllFrom d up more with
        | (.ok _, d) => d.settle (d.makeDirOnce path)
        | (.error e, d) => (.error e, d)
      | .error e => (if d.isDirectory path then .ok () else .error e, d)

def makeAll (d : Disk) (path : String) : Except OsError Unit × Disk :=
  makeAllFrom d path (above path.length path)

/-- The files when a directory and those above it could all be made. -/
def makeDirs (d : Disk) (path : String) : Except OsError Disk :=
  let (made, d) := d.makeAll path
  made.map fun _ => d

/-- Moves a file; one that is at the new place is replaced. -/
def rename (d : Disk) (source target : String) : Except OsError Disk := do
  let (place, entry) ← d.find source
  match ← d.locate target with
  | .found _ .directory => .error .isDirectory
  | .found there (.file _) => pure ((d.drop place).put there entry)
  | .vacant there => pure ((d.drop place).put there entry)

/-- Replaces every entry at a place and below it. -/
def replaceBelow (d : Disk) (place : Place) (f : Place × Entry → List (Place × Entry)) : Disk :=
  { d with entries := d.entries.flatMap fun e => if place.isPrefixOf e.1 then f e else [e] }

/-- The names in the directory at a place, in order. -/
def namesAt (d : Disk) (place : Place) : List String :=
  (d.entries.filterMap fun e =>
    if e.1.dropLast = place then e.1.getLast? else none).mergeSort fun a b => decide (a ≤ b)

/-- The names in a directory, in order. -/
def names (d : Disk) (path : String) : Except OsError (List String) := do
  match ← d.find path with
  | (_, .file _) => .error .notDirectory
  | (place, .directory) => pure (d.namesAt place)

end Disk

end AgentWorkflow
