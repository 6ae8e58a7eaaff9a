/-
Talking to a user.

* `Console.output`, `Console.errors` — the two things that are written.
* `Console.readLine` — takes the next line; nothing is left of one that is no text.
* `Console.confirm` — asks whether a tool may be run.  Only `y` and `yes` agree, in
  any case and with blanks around them.
-/
import AgentWorkflow.Site

namespace AgentWorkflow.Console

/-- The results. -/
def output (c : Console) : String :=
  String.join (c.transcript.filterMap fun u => match u with
    | .printed text => some text
    | _ => none)

/-- What was written to the user. -/
def errors (c : Console) : String :=
  String.join (c.transcript.filterMap fun u => match u with
    | .told text => some text
    | _ => none)

/-- Something more passes. -/
def pass (u : Utterance) : Deed Unit :=
  modify fun s => { s with console.transcript := s.console.transcript ++ [u] }

def print (text : String) : Deed Unit := pass (.printed text)

def tell (text : String) : Deed Unit := pass (.told text)

/-- The first line of some bytes with its end, and the bytes behind it. -/
def cutLine : List UInt8 → List UInt8 × List UInt8
  | [] => ([], [])
  | b :: rest =>
    if b = 10 then ([b], rest)
    else
      let (line, behind) := cutLine rest
      (b :: line, behind)

/-- Takes the next line; behind the last one every line is empty. -/
def readLine : Deed (Option String) := do
  pass .asked
  let site ← get
  let (line, behind) := cutLine site.console.input
  set { site with console.input := behind }
  pure (Text.decode? line)

def isYes (answer : String) : Bool :=
  ["y", "yes"].contains (Text.lowerAscii (Text.trim answer))

def question (tool : String) (arguments : Table Json) : String :=
  "Run tool " ++ tool ++ " with " ++ (Json.object arguments).render ++ "? [y/N] "

/-- Asks whether a tool may be run. -/
def confirm (tool : String) (arguments : Table Json) : Deed Bool := do
  tell (question tool arguments)
  match ← readLine with
  | some answer => pure (isYes answer)
  | none => pure false

end AgentWorkflow.Console
