/-
The lines of a file of variables.

* `Spot` — what the reader of a line is in the middle of.
* `Spot.after` — one character further.
* `Defect` — what is wrong with such a file.
* `linesOf` — the lines.  A line goes on over its end inside quotes, and a remark
  that follows one blank ends it.

Design notes: a line that has no end is only found out when the file ends, so it is
handed on as an item of the list and the lines before it can still be used.  A blank
right before the end of the file asks for more, too.
-/
import AgentWorkflow.Failure
import AgentWorkflow.Text.Utf8

namespace AgentWorkflow.Environment

/-- What the reader of a line is in the middle of. -/
inductive Spot where
  | plain
  /-- Right after a blank that follows something else. -/
  | blank
  | escape
  | single
  | singleEscape
  | double
  | doubleEscape
  deriving DecidableEq, Repr

namespace Spot

/-- The spot outside of quotes that a character leads to. -/
def outside (c : Char) (otherwise : Spot) : Spot :=
  if c = '\\' then escape
  else if c = '"' then double
  else if c = '\u0027' then single
  else otherwise

/-- One character further. -/
def after (c : Char) : Spot → Spot
  | .plain =>
    outside c (if Text.isBlank c && c ≠ '\n' && c ≠ '\r' then .blank else .plain)
  | .blank => outside c .plain
  | .escape => .plain
  | .single => if c = '\\' then .singleEscape else if c = '\u0027' then .plain else .single
  | .singleEscape => .single
  | .double => if c = '\\' then .doubleEscape else if c = '"' then .plain else .double
  | .doubleEscape => .double

/-- Where a piece of a line leads to, and what of it stands before a remark. -/
def read : Spot → List Char → List Char × Option Spot
  | s, [] => ([], some s)
  | s, c :: rest =>
    if s = .blank && c = '#' then ([], none)
    else
      let (kept, spot) := read (s.after c) rest
      (c :: kept, spot)

end Spot

/-- What is wrong with a file of variables. -/
inductive Defect where
  | notText
  /-- A line that cannot be understood, and where it goes wrong, counted in bytes. -/
  | line (text : String) (place : Nat)
  deriving DecidableEq, Repr

def Defect.message : Defect → String
  | .notText => OsError.notText.message
  | .line text place =>
    "Error parsing line: '" ++ text ++ "', error at line index: " ++ toString place

/-- Whether the first character that is not blank begins a remark. -/
def isRemark (cs : List Char) : Bool := (cs.dropWhile Text.isBlank).head? = some '#'

/-- Drops the end of a line. -/
def withoutEnd (cs : List Char) : List Char :=
  if cs.getLast? = some '\n' then Text.dropReturn cs.dropLast else cs

/-- The lines of pieces that each end where a line of the file does.  A piece is
`none` when its bytes are no text. -/
def collect (sofar : List Char) (spot : Spot) :
    List (Option (List Char)) → List (Except Defect (List Char))
  | [] =>
    if spot = .plain then []
    else [.error (.line (String.ofList sofar) (String.ofList sofar).utf8ByteSize)]
  | none :: _ => [.error .notText]
  | some piece :: rest =>
    if isRemark (sofar ++ piece) then collect [] .plain rest
    else
      match spot.read piece with
      | (kept, none) => .ok (sofar ++ kept) :: collect [] .plain rest
      | (kept, some .plain) => .ok (withoutEnd (sofar ++ kept)) :: collect [] .plain rest
      | (kept, some spot) => collect (sofar ++ kept) spot rest

/-- The bytes up to and with each line feed. -/
def pieces : List UInt8 → List (List UInt8)
  | [] => []
  | b :: rest =>
    if b = 10 then [b] :: pieces rest
    else
      match pieces rest with
      | [] => [[b]]
      | piece :: more => (b :: piece) :: more

/-- The bytes without the mark that may stand at the beginning of a text. -/
def withoutMark : List UInt8 → List UInt8
  | 0xEF :: 0xBB :: 0xBF :: rest => rest
  | bytes => bytes

/-- The lines of a file; none follows one that is wrong. -/
def linesOf (content : List UInt8) : List (Except Defect (List Char)) :=
  collect [] .plain ((pieces (withoutMark content)).map fun piece =>
    (Text.decode? piece).map String.toList)

end AgentWorkflow.Environment
