/-
Where on a server a request goes.

* `Http.Target.ofAddress?` — the path and the query that are sent for what follows
  the name of the server in an address.

Design notes: an address is read as the standard for URLs says.  Tabs and line ends
are no part of it, nor are blanks at its end; a question mark ends the path and a
number sign ends the address; a backslash separates like a slash; steps of one
dot say nothing and steps of two dots climb; what may not stand in a request is
escaped byte by byte.
-/
import AgentWorkflow.Text.Basic
import AgentWorkflow.Text.Utf8

namespace AgentWorkflow.Http.Target

def isControl (c : Char) : Bool := c.toNat < 0x20 || c.toNat == 0x7F

/-- The characters that are escaped in a path, besides those beyond ASCII. -/
def escapedInPath (c : Char) : Bool :=
  isControl c || [' ', '"', '#', '<', '>', '?', '^', '\u0060', '\x7b', '\x7d'].contains c

/-- The characters that are escaped in a query, besides those beyond ASCII. -/
def escapedInQuery (c : Char) : Bool :=
  isControl c || [' ', '"', '#', '<', '>', '\u0027'].contains c

/-- A byte as a per cent sign and two digits. -/
def escapeByte (b : UInt8) : List Char :=
  '%' :: (Text.hex 2 b.toNat).toList.map Char.toUpper

/-- Escapes the characters of a set and those beyond ASCII. -/
def escape (set : Char → Bool) (cs : List Char) : List Char :=
  cs.flatMap fun c =>
    if c.toNat < 0x80 && !set c then [c]
    else (Text.encode c.toString).flatMap escapeByte

/-- The two spellings of a dot. -/
def dots : List (List Char) := [['.'], ['%', '2', 'e']]

def isOneDot (step : List Char) : Bool := dots.contains (step.map Char.toLower)

def isTwoDots (step : List Char) : Bool :=
  (dots.flatMap fun a => dots.map (a ++ ·)).contains (step.map Char.toLower)

/-- Follows the dots in the steps of a path; `done` are the steps so far, the last
one first.  A path that ends in dots ends in a slash. -/
def followDots (done : List (List Char)) : List (List Char) → List (List Char)
  | [] => done
  | step :: rest =>
    let done :=
      if isTwoDots step then done.tail
      else if isOneDot step then done
      else step :: done
    if rest.isEmpty && (isTwoDots step || isOneDot step) then [] :: done
    else followDots done rest

/-- The path that is sent. -/
def path (cs : List Char) : List Char :=
  let cs := cs.map fun c => if c = '\\' then '/' else c
  let steps := Text.cutAt '/' cs.tail
  (followDots [] steps).reverse.flatMap fun step => '/' :: escape escapedInPath step

/-- Cuts off what follows the first occurrence of a character; `none` when it does
not occur. -/
def cutOff (sep : Char) (cs : List Char) : List Char × Option (List Char) :=
  let before := cs.takeWhile (· ≠ sep)
  if before.length = cs.length then (cs, none) else (before, some (cs.drop (before.length + 1)))

/-- Drops what is no part of an address. -/
def strip (cs : List Char) : List Char :=
  ((cs.filter fun c => c ≠ '\t' && c ≠ '\n' && c ≠ '\r').reverse.dropWhile fun c =>
    c.toNat ≤ 0x20).reverse

/-- A query with parameters put behind it. -/
def addParameters (query : Option (List Char)) (parameters : String) : Option (List Char) :=
  if parameters.isEmpty then query
  else
    match query with
    | none | some [] => some parameters.toList
    | some q => some (q ++ '&' :: parameters.toList)

/-- What is sent for the part of an address behind the name of the server, with
parameters put behind its query.  Behind the name only a path, a query or a fragment may
follow. -/
def ofAddress? (address parameters : String) : Option String :=
  let cs := (cutOff '#' (strip address.toList)).1
  let (before, query) := cutOff '?' cs
  let written := match addParameters (query.map (escape escapedInQuery)) parameters with
    | none => []
    | some q => '?' :: q
  match before with
  | [] => some (String.ofList ('/' :: written))
  | c :: _ => if c = '/' || c = '\\' then some (String.ofList (path before ++ written)) else none

end AgentWorkflow.Http.Target
