/-
Assignments in a file of variables.

* `Mode`, `readValue` — a value: quotes, escapes, and the values of other variables.
* `assignmentOf` — the variable that a line sets, if it sets one.

Design notes: the value of another variable is put in where its name ends.  Without
braces a name ends at the first character that is neither letter nor digit, and that
character is kept as it is, even when it is a quote.
-/
import AgentWorkflow.Environment.Lines
import AgentWorkflow.Text.Unicode.Property

namespace AgentWorkflow.Environment

open Text.Unicode (Category Property)

/-- The letters and the digits of all scripts. -/
def lettersAndDigits : Text.CharSet :=
  Text.CharSet.union (Property.charsNamed "alphabetic")
    (Category.charsOf [.nd, .nl, .no])

/-- What the reader of a value is in the middle of.  Names are spelled backwards. -/
inductive Mode where
  | copying
  | escape
  | single
  /-- The name of a variable after a dollar sign. -/
  | name (spelled : List Char)
  /-- The name of a variable in braces. -/
  | braced (spelled : List Char)
  /-- Behind the value only blanks and a remark may follow. -/
  | ended
  deriving DecidableEq, Repr

/-- A value as far as it has been read: whether it is inside double quotes, what it
is in the middle of, and the characters so far, backwards. -/
structure Draft where
  quoted : Bool
  mode : Mode
  out : List Char
  deriving DecidableEq, Repr

namespace Draft

def start : Draft := ⟨false, .copying, []⟩

def push (d : Draft) (c : Char) : Draft := { d with mode := .copying, out := c :: d.out }

/-- Puts in the value of a variable; one that is not set has none. -/
def putIn (value? : String → Option String) (d : Draft) (spelled : List Char) : Draft :=
  let value := (value? (String.ofList spelled.reverse)).getD ""
  { d with mode := .copying, out := value.toList.reverse ++ d.out }

/-- The character that a backslash stands before. -/
def escaped? : Char → Option Char
  | 'n' => some '\n'
  | c => if ['\\', '\u0027', '"', '$', ' '].contains c then some c else none

/-- One character further when nothing special is going on. -/
def copy (d : Draft) (c : Char) : Draft :=
  if c = '$' then { d with mode := .name [] }
  else if c = '"' then { d with quoted := !d.quoted }
  else if c = '\\' then { d with mode := .escape }
  else if d.quoted then d.push c
  else if c = '\u0027' then { d with mode := .single }
  else if c = ' ' || c = '\t' then { d with mode := .ended }
  else d.push c

/-- One character further; `none` where a value cannot go on. -/
def step (value? : String → Option String) (d : Draft) (c : Char) : Option Draft :=
  match d.mode with
  | .copying => some (d.copy c)
  | .escape => (escaped? c).map d.push
  | .single => if c = '\u0027' then some { d with mode := .copying }
    else some { d with out := c :: d.out }
  | .name spelled =>
    if lettersAndDigits.contains c then some { d with mode := .name (c :: spelled) }
    else if c = '\x7b' && spelled.isEmpty then some { d with mode := .braced [] }
    else
      let d := putIn value? d spelled
      some (if c = '$' then { d with mode := .name [] } else d.push c)
  | .braced spelled =>
    if c = '\x7d' then some (putIn value? d spelled)
    else some { d with mode := .braced (c :: spelled) }
  | .ended => if c = ' ' || c = '\t' then some d else none

/-- The value that ends here; `none` inside quotes or braces. -/
def finish? (value? : String → Option String) (d : Draft) : Option String :=
  let whole (d : Draft) : Option String :=
    if d.quoted then none else some (String.ofList d.out.reverse)
  match d.mode with
  | .single => none
  | .braced _ => none
  | .name spelled => whole (putIn value? d spelled)
  | _ => whole d

end Draft

/-- Reads a value.  The failure is the number of characters before the one that does
not belong there, or `none` when the end is missing. -/
def readDraft (value? : String → Option String) :
    Nat → Draft → List Char → Except (Option Nat) String
  | _, d, [] =>
    match d.finish? value? with
    | some value => .ok value
    | none => .error none
  | count, d, c :: rest =>
    if d.mode = .ended && c = '#' then readDraft value? count d []
    else
      match d.step value? c with
      | some d => readDraft value? (count + 1) d rest
      | none => .error (some count)

def byteSize (cs : List Char) : Nat := (String.ofList cs).utf8ByteSize

/-- Reads a value and tells where it goes wrong. -/
def readValue (value? : String → Option String) (cs : List Char) : Except Defect String :=
  match readDraft value? 0 Draft.start cs with
  | .ok value => .ok value
  | .error place? =>
    .error (.line (String.ofList cs) (place?.getD (byteSize cs - 1)))

/-! ### Lines -/

def isNameStart (c : Char) : Bool := c.isAlpha || c = '_'

def isNameRest (c : Char) : Bool := c.isAlphanum || c = '_' || c = '.'

/-- A name at the beginning, and the rest. -/
def takeName? (cs : List Char) : Option (List Char × List Char) :=
  if cs.head?.any isNameStart then some (cs.takeWhile isNameRest, cs.dropWhile isNameRest)
  else none

/-- The rest behind an equality sign. -/
def takeEquals? : List Char → Option (List Char)
  | '=' :: rest => some rest
  | _ => none

def skipBlanks (cs : List Char) : List Char := cs.dropWhile Text.isBlank

/-- Where a line goes wrong when `rest` is left of it. -/
def defectAt (line rest : List Char) : Defect :=
  .line (String.ofList line) (byteSize (Text.trimEndChars line) - byteSize rest)

/-- The name that a line begins with and the rest behind the equality sign.  The word
`export` may stand before the name. -/
def readHead (line : List Char) : Except Defect (String × List Char) :=
  let named (cs : List Char) : Except Defect (List Char × List Char) :=
    match takeName? cs with
    | none => .error (defectAt line cs)
    | some (name, rest) => .ok (name, skipBlanks rest)
  let closed (name rest : List Char) : Except Defect (String × List Char) :=
    match takeEquals? rest with
    | none => .error (defectAt line rest)
    | some rest => .ok (String.ofList name, rest)
  do
    let (name, rest) ← named (skipBlanks (Text.trimEndChars line))
    if name = "export".toList && (takeEquals? rest).isNone then
      let (name, rest) ← named rest
      closed name rest
    else closed name rest

/-- Whether nothing or a remark follows. -/
def isVoid (cs : List Char) : Bool := cs.isEmpty || cs.head? = some '#'

/-- The variable that a line sets, and its value; an empty line and a remark set
none. -/
def assignmentOf (value? : String → Option String) (line : List Char) :
    Except Defect (Option (String × String)) :=
  if isVoid (skipBlanks (Text.trimEndChars line)) then .ok none
  else do
    let (name, rest) ← readHead line
    let rest := skipBlanks rest
    if isVoid rest then pure (some (name, ""))
    else
      let value ← readValue value? rest
      pure (some (name, value))

end AgentWorkflow.Environment
