/-
Programs that show and change files.

* `Programs.ls`, `Programs.pwd` — what there is, and where.
* `Programs.touch`, `Programs.mkdir`, `Programs.rm`, `Programs.cp`, `Programs.mv` — changes.

Design notes: names are listed in the order of their characters.
-/
import AgentWorkflow.Command.Task

namespace AgentWorkflow.Programs

def pwd : Program := fun _ t =>
  (.exited 0, t.putText ("/" ++ Text.join "/" t.disk.workingDirectory ++ "\n"))

/-! ### Listing -/

/-- The names in a directory that are shown. -/
def visible (all : Bool) (names : List String) : List String :=
  if all then names else names.filter fun n => !Text.beginsWith "." n

def column (names : List String) : String := String.join (names.map (· ++ "\n"))

def ls : Program := fun args t =>
  let flags := args.filter fun a => Text.beginsWith "-" a && a != "-"
  let paths := args.filter fun a => !(Text.beginsWith "-" a && a != "-")
  let all := flags.any fun f => f.toList.contains 'a' || f.toList.contains 'A'
  let dots := flags.any fun f => f.toList.contains 'a'
  let paths := (if paths.isEmpty then ["."] else paths).mergeSort fun a b => decide (a ≤ b)
  let listing (path : String) : String :=
    match t.disk.names path with
    | .ok names => column ((if dots then [".", ".."] else []) ++ visible all names)
    | .error _ => ""
  let missing := paths.filterMap fun p =>
    match t.disk.find p with
    | .ok _ => none
    | .error e => some ("ls: cannot access '" ++ p ++ "': " ++ e.text)
  let files := paths.filter t.disk.isFile
  let directories := paths.filter t.disk.isDirectory
  let t := missing.foldl Task.complain t
  let t := t.putText (column files)
  let titled := paths.length > 1
  let sections := directories.map fun p => (if titled then p ++ ":\n" else "") ++ listing p
  let gap := if files.isEmpty || directories.isEmpty then [] else [""]
  let t := t.putText (Text.join "\n" (gap ++ sections))
  (.exited (if missing.isEmpty then 0 else 2), t)

/-! ### Names -/

/-- A path without the slashes at its end; one of slashes alone is the root. -/
def plainPath (path : String) : String :=
  let cs := (path.toList.reverse.dropWhile (· = '/')).reverse
  if cs.isEmpty && !path.isEmpty then "/" else String.ofList cs

/-- The last name of a path. -/
def lastName (path : String) : String :=
  let path := plainPath path
  if path = "/" then path else (Text.splitAt '/' path).getLastD ""

/-- The path of the directory that holds the last name. -/
def directoryName (path : String) : String :=
  let path := plainPath path
  let name := lastName path
  if path = "/" then path
  else if name.length = path.length then "."
  else plainPath (String.ofList (path.toList.take (path.length - name.length)))

def basename : Program := fun args t =>
  match args with
  | [] => (.exited 1, t.advise "basename" "missing operand")
  | [path] => (.exited 0, t.putText (lastName path ++ "\n"))
  | [path, ending] =>
    let name := lastName path
    let short := if Text.finishesWith ending name && ending ≠ name then
        String.ofList (name.toList.take (name.length - ending.length))
      else name
    (.exited 0, t.putText (short ++ "\n"))
  | _ :: _ :: extra :: _ =>
    (.exited 1, t.advise "basename" ("extra operand '" ++ extra ++ "'"))

def dirname : Program := fun args t =>
  if args.isEmpty then (.exited 1, t.advise "dirname" "missing operand")
  else (.exited 0, t.putText (column (args.map directoryName)))

/-! ### Changes -/

/-- The letters of the options, and the other arguments. -/
def lettersAndFiles (args : List String) : List Char × List String :=
  let isFlag (a : String) : Bool := Text.beginsWith "-" a && a != "-"
  ((args.filter isFlag).flatMap fun a => a.toList.drop 1, args.filter fun a => !isFlag a)

/-- Changes the files for one argument after the other, and tells the complaints. -/
def settleEach (change : Disk → String → Except String Unit × Disk) (files : List String)
    (t : Task) : Status × Task :=
  files.foldl (fun (acc : Status × Task) file =>
    match change acc.2.disk file with
    | (.ok _, disk) => (acc.1, { acc.2 with disk })
    | (.error complaint, disk) => (.exited 1, Task.complain { acc.2 with disk } complaint))
    (.exited 0, t)

/-- Changes that leave the files as they are where there is a complaint. -/
def forEachFile (change : Disk → String → Except String Disk) (files : List String) (t : Task) :
    Status × Task :=
  settleEach (fun d file => d.settle (change d file)) files t

/-- Makes a file that is not there yet. -/
def touchFile (d : Disk) (file : String) : Except String Disk :=
  match d.find file with
  | .ok _ => .ok d
  | .error .notFound =>
    (d.write file []).mapError fun e => "touch: cannot touch '" ++ file ++ "': " ++ e.text
  | .error e => .error ("touch: cannot touch '" ++ file ++ "': " ++ e.text)

def touch : Program := fun args t =>
  match (lettersAndFiles args).2 with
  | [] => (.exited 1, t.advise "touch" "missing file operand")
  | files => forEachFile touchFile files t

def mkdir : Program := fun args t =>
  let (letters, files) := lettersAndFiles args
  let make (d : Disk) (file : String) : Except String Unit × Disk :=
    let (made, d) := if letters.contains 'p' then d.makeAll file else d.settle (d.makeDir file)
    (made.mapError fun e => "mkdir: cannot create directory '" ++ file ++ "': " ++ e.text, d)
  if files.isEmpty then (.exited 1, t.advise "mkdir" "missing operand")
  else settleEach make files t

/-- Removes a file, or a directory with all in it. -/
def removeEntry (deep forced : Bool) (d : Disk) (file : String) : Except String Disk :=
  let fault (text : String) : Except String Disk :=
    .error ("rm: cannot remove '" ++ file ++ "': " ++ text)
  match d.find file with
  | .ok (place, .file _) => .ok (d.drop place)
  | .ok (place, .directory) =>
    if deep then .ok (d.replaceBelow place fun _ => []) else fault "Is a directory"
  | .error .notFound => if forced then .ok d else fault "No such file or directory"
  | .error e => fault e.text

def rm : Program := fun args t =>
  let (letters, files) := lettersAndFiles args
  let deep := letters.contains 'r' || letters.contains 'R'
  let forced := letters.contains 'f'
  if files.isEmpty then
    if forced then (.exited 0, t) else (.exited 1, t.advise "rm" "missing operand")
  else forEachFile (removeEntry deep forced) files t

def rmdir : Program := fun args t =>
  let remove (d : Disk) (file : String) : Except String Disk :=
    let fault (text : String) : Except String Disk :=
      .error ("rmdir: failed to remove '" ++ file ++ "': " ++ text)
    match d.find file with
    | .ok (_, .file _) => fault "Not a directory"
    | .ok (place, .directory) =>
      if (d.namesAt place).isEmpty then .ok (d.drop place) else fault "Directory not empty"
    | .error e => fault e.text
  match (lettersAndFiles args).2 with
  | [] => (.exited 1, t.advise "rmdir" "missing operand")
  | files => forEachFile remove files t

/-- The path that a source gets under a target, which may be a directory. -/
def pathUnder (d : Disk) (target source : String) : String :=
  if d.isDirectory target then plainPath target ++ "/" ++ lastName source else target

def copyEntry (deep : Bool) (target : String) (d : Disk) (source : String) : Except String Disk :=
  let there := pathUnder d target source
  match d.find source, d.locate there with
  | .error e, _ => .error ("cp: cannot stat '" ++ source ++ "': " ++ e.text)
  | .ok (place, .file content), new =>
    match new with
    | .ok (.found old (.file _)) =>
      if old = place then
        .error ("cp: '" ++ source ++ "' and '" ++ there ++ "' are the same file")
      else .ok (d.put old (.file content))
    | .ok (.found _ .directory) =>
      .error ("cp: cannot overwrite directory '" ++ there ++ "' with non-directory")
    | _ =>
      (d.write there content).mapError fun e =>
        "cp: cannot create regular file '" ++ there ++ "': " ++ e.text
  | .ok (place, .directory), new =>
    if !deep then .error ("cp: -r not specified; omitting directory '" ++ source ++ "'")
    else
      match new with
      | .ok (.found _ (.file _)) =>
        .error ("cp: cannot overwrite non-directory '" ++ there ++ "' with directory '" ++
          source ++ "'")
      | .ok (.found new .directory) =>
        .ok (d.replaceBelow place fun e => [e, (new ++ e.1.drop place.length, e.2)])
      | .ok (.vacant new) =>
        .ok (d.replaceBelow place fun e => [e, (new ++ e.1.drop place.length, e.2)])
      | .error e => .error ("cp: cannot create directory '" ++ there ++ "': " ++ e.text)

def moveEntry (target : String) (d : Disk) (source : String) : Except String Disk :=
  let there := pathUnder d target source
  let fault (text : String) : Except String Disk :=
    .error ("mv: cannot move '" ++ source ++ "' to '" ++ there ++ "': " ++ text)
  let moved (place new : Place) : Disk :=
    (d.drop new).replaceBelow place fun e => [(new ++ e.1.drop place.length, e.2)]
  match d.find source, d.locate there with
  | .error e, _ => .error ("mv: cannot stat '" ++ source ++ "': " ++ e.text)
  | .ok _, .error e => fault e.text
  | .ok (place, .directory), .ok (.vacant new) =>
    if place.isPrefixOf new then
      .error ("mv: cannot move '" ++ source ++ "' to a subdirectory of itself, '" ++ there ++ "'")
    else .ok (moved place new)
  | .ok (place, .file _), .ok (.vacant new) => .ok (moved place new)
  | .ok (place, .file _), .ok (.found new (.file _)) =>
    if place = new then .error ("mv: '" ++ source ++ "' and '" ++ there ++ "' are the same file")
    else .ok (moved place new)
  | .ok (_, .file _), .ok (.found _ .directory) =>
    .error ("mv: cannot overwrite directory '" ++ there ++ "' with non-directory")
  | .ok (_, .directory), .ok (.found _ (.file _)) =>
    .error ("mv: cannot overwrite non-directory '" ++ there ++ "' with directory '" ++
      source ++ "'")
  | .ok (place, .directory), .ok (.found new .directory) =>
    if (d.namesAt new).isEmpty then .ok (moved place new) else fault "Directory not empty"

/-- Brings some files to where the last argument says. -/
def bring (name : String) (change : String → Disk → String → Except String Disk)
    (files : List String) (t : Task) : Status × Task :=
  match files.reverse with
  | [] => (.exited 1, t.advise name "missing file operand")
  | [file] => (.exited 1, t.advise name ("missing destination file operand after '" ++ file ++ "'"))
  | target :: sources =>
    if sources.length > 1 && !t.disk.isDirectory target then
      let why := if t.disk.isFile target then OsError.notDirectory else .notFound
      (.exited 1, t.complain (name ++ ": target '" ++ target ++ "': " ++ why.text))
    else forEachFile (change target) sources.reverse t

def cp : Program := fun args t =>
  let (letters, files) := lettersAndFiles args
  let deep := letters.contains 'r' || letters.contains 'R' || letters.contains 'a'
  bring "cp" (copyEntry deep) files t

def mv : Program := fun args t => bring "mv" moveEntry (lettersAndFiles args).2 t

end AgentWorkflow.Programs
