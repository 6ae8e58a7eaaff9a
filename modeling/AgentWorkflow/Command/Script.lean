/-
Shell scripts.

* `Script.Word` — a word in pieces: a piece between quotes is taken as it stands, a
  parameter, a nested script and an arithmetic expression are replaced by what they
  yield.
* `Script.Command` — the words of a command, the variables set for it, and where its
  streams are led.
* `Script` — commands put together: pipelines, lists, conditions, loops and functions.

Design notes: nested scripts are kept as text and read when they are run.  A part of a
script that could not be read stands as `malformed` at its place, so what comes before it
can still be run.
-/

namespace AgentWorkflow

namespace Script

/-- What is made of the value of a parameter.  The flag says whether an empty value counts
as one that is not set. -/
inductive Treatment where
  | plain
  /-- A word in its stead where it is not set. -/
  | orElse (emptyToo : Bool)
  /-- As before, and the parameter is set to the word. -/
  | orSet (emptyToo : Bool)
  /-- A word in its stead where it is set. -/
  | instead (emptyToo : Bool)
  /-- A complaint where it is not set. -/
  | orFail (emptyToo : Bool)
  /-- How many characters it has. -/
  | count
  /-- The value without what a pattern takes at its end. -/
  | dropEnd (longest : Bool)
  /-- The value without what a pattern takes at its start. -/
  | dropStart (longest : Bool)
  | unknown
  deriving DecidableEq, Repr

/-- A part of a word. -/
inductive Piece where
  | bare (text : String)
  | quoted (text : String)
  | parameter (name : String) (treatment : Treatment) (word : List Piece) (quoted : Bool)
  | output (script : String) (quoted : Bool)
  | arithmetic (expression : List Piece) (quoted : Bool)
  deriving Repr, Inhabited

abbrev Word := List Piece

/-- Where a stream is led. -/
inductive Redirection where
  | toFile (stream : Nat) (append : Bool) (path : Word)
  | fromFile (path : Word)
  | fromText (text : Word)
  | toStream (stream target : Nat)
  deriving Repr

/-- A command with its words, the variables set for it, and its redirections. -/
structure Command where
  line : Nat
  settings : List (String × Word)
  words : List Word
  redirections : List Redirection
  deriving Repr, Inhabited

end Script

inductive Script where
  | nothing
  | command (c : Script.Command)
  /-- Commands in brackets; in round ones what they change stays inside. -/
  | group (body : Script) (apart : Bool) (redirections : List Script.Redirection)
  | pipe (first second : Script)
  | negate (body : Script)
  | both (first second : Script)
  | either (first second : Script)
  | sequence (first second : Script)
  /-- Nobody waits for the body. -/
  | background (body : Script)
  | choose (test thenPart elsePart : Script)
  /-- Goes round while the test has the given result. -/
  | loop (test body : Script) (goesOn : Bool)
  /-- Goes round once for each of the words, or of the arguments. -/
  | each (name : String) (words : Option (List Script.Word)) (body : Script)
  /-- The first arm of which a pattern fits the word. -/
  | select (word : Script.Word) (arms : List (List Script.Word × Script))
  | define (name : String) (body : Script)
  | malformed (line : Nat) (fault : String)
  deriving Repr, Inhabited

namespace Script

/-- Whether a character can stand in the name of a variable. -/
def isNameChar (c : Char) : Bool := c.isAlphanum || c = '_'

/-- Whether a text can be the name of a variable. -/
def isName (cs : List Char) : Bool :=
  match cs with
  | [] => false
  | c :: rest => !c.isDigit && (c :: rest).all isNameChar

/-- The text of a word without pieces that have to be replaced. -/
def plainText? : Word → Option String
  | [] => some ""
  | .bare t :: rest => (plainText? rest).map (t ++ ·)
  | .quoted t :: rest => (plainText? rest).map (t ++ ·)
  | _ => none

/-- Joins neighbouring pieces of one kind. -/
def joinPieces : Word → Word
  | [] => []
  | piece :: rest =>
    match piece, joinPieces rest with
    | .bare a, .bare b :: more => .bare (a ++ b) :: more
    | .quoted a, .quoted b :: more => .quoted (a ++ b) :: more
    | piece, more => piece :: more

end Script

end AgentWorkflow
