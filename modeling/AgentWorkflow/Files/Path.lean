/-
Paths as they are written.

* `Path.segments` — the pieces between the slashes.
* `Path.components` — the steps of a path: empty pieces say nothing, and a dot
  counts only at the very start.
* `Path.join`, `Path.parent?`, `Path.hasExtension`, `Path.withExtension` — paths
  put together and taken apart.
* `Path.staysInside` — the path neither starts at the root nor climbs.

Design notes: a path is kept as the text that was given, because messages quote
it; what it means is read off when it is used.
-/
import AgentWorkflow.Text.Basic

namespace AgentWorkflow.Path

/-- The pieces between the slashes. -/
def segments (path : String) : List String := Text.splitAt '/' path

def isAbsolute (path : String) : Bool := Text.beginsWith "/" path

/-- The steps of a path that is written in pieces. -/
def stepsOf : List String → List String
  | [] => []
  | "." :: rest => "." :: rest.filter fun s => s != "" && s != "."
  | pieces => pieces.filter fun s => s != "" && s != "."

/-- The steps of a path, without the root. -/
def components (path : String) : List String := stepsOf (segments path)

/-- Whether a path neither starts at the root nor climbs. -/
def staysInside (path : String) : Bool :=
  !isAbsolute path && !(components path).contains ".."

/-- One path below another; an absolute path stands for itself. -/
def join (base path : String) : String :=
  if isAbsolute path || base.isEmpty then path
  else if Text.finishesWith "/" base then base ++ path
  else base ++ "/" ++ path

/-- Drops the pieces at the end that say nothing; the first piece is kept. -/
def dropIdle : List String → List String
  | [] => []
  | first :: rest =>
    first :: (rest.reverse.dropWhile fun s => s == "" || s == ".").reverse

/-- The path without its last step, if it has one. -/
def parent? (path : String) : Option String :=
  if (components path).isEmpty then none
  else
    let kept := dropIdle (dropIdle (segments path)).dropLast
    match kept with
    | [""] => some (if isAbsolute path then "/" else "")
    | pieces => some (Text.join "/" pieces)

/-- The last step of a path. -/
def fileName? (path : String) : Option String :=
  match (components path).getLast? with
  | some ".." => none
  | name? => name?

/-- Cuts a name at its last dot, unless it starts there. -/
def cutExtension (name : String) : String × Option String :=
  let after := (name.toList.reverse.takeWhile (· ≠ '.')).reverse
  let before := name.toList.take (name.toList.length - after.length - 1)
  if after.length = name.toList.length || before.isEmpty || name = ".." then (name, none)
  else (String.ofList before, some (String.ofList after))

/-- Whether the last step has the given extension. -/
def hasExtension (ext path : String) : Bool :=
  match fileName? path with
  | some name => (cutExtension name).2 == some ext
  | none => false

/-- The path with another extension of its last step. -/
def withExtension (ext path : String) : String :=
  match fileName? path with
  | none => path
  | some name =>
    let pieces := dropIdle (segments path)
    Text.join "/" (pieces.dropLast ++ [(cutExtension name).1 ++ "." ++ ext])

end AgentWorkflow.Path
