/-
What the arguments of the program say.

* `Reading`, `Level.read` — the arguments of a level from left to right: switches with
  what is given with them, up to a word that leads to another level.
* `Invocation`, `Wish.ofArguments` — what the program is asked to do.

Design notes: the first argument that is wrong or asks for a page decides, whatever
follows it.  A switch may be given once on each level, and what is given on the inner
level wins.
-/
import AgentWorkflow.CommandLine.Manual
import AgentWorkflow.Session
import AgentWorkflow.Supervisor.Basic

namespace AgentWorkflow.CommandLine

/-! ### Levels -/

/-- The greatest number that can be given. -/
def countLimit : Nat := Nat.pow 2 32 - 1

/-- A number; minus nothing is nothing, too. -/
def count? (s : String) : Option Nat :=
  match s.toList with
  | '-' :: digits => (Text.digits? digits).filter (· = 0)
  | _ => Text.natUpTo? countLimit s

/-- Whether something may be given with a switch. -/
def Value.accepts : Value → String → Bool
  | .path, s => !s.isEmpty
  | .count, s => (count? s).isSome

/-- The switches by name, the last one first, with what was given with them. -/
abbrev Given := List (String × String)

/-- The switches of a level, the words that lead on from it, and whether it knows a
version. -/
structure Level where
  switches : List Switch
  words : List String
  hasVersion : Bool

/-- How the arguments of a level end. -/
inductive Reading where
  | finished (given : Given)
  /-- A word leads to another level. -/
  | leads (given : Given) (word : String) (rest : List String)
  | help
  | version
  | misuse
  deriving DecidableEq, Repr

/-- Whether an argument is no word: it has a dash and something behind it. -/
def isSwitch (argument : String) : Bool :=
  match argument.toList with
  | '-' :: _ :: _ => true
  | _ => false

/-- A long switch and what is attached to it by an equality sign. -/
def cutLong? (argument : String) : Option (String × Option String) :=
  match argument.toList with
  | '-' :: '-' :: cs =>
    let name := String.ofList (cs.takeWhile (· ≠ '='))
    match cs.dropWhile (· ≠ '=') with
    | [] => some (name, none)
    | _ :: value => some (name, some (String.ofList value))
  | _ => none

namespace Level

/-- Takes what is given with a switch. -/
def take (given : Given) (s : Switch) (kind : Value) (value : String) : Option Given :=
  if kind.accepts value then some ((s.name, value) :: given) else none

/-- The page that a switch without a value asks for, if it asks for one. -/
def pageOf? (l : Level) (name : String) : Option Reading :=
  if name = "help" then some .help
  else if name = "version" && l.hasVersion then some .version
  else none

/-- The page that a short switch asks for. -/
def shortPage (l : Level) (argument : String) : Reading :=
  match argument.toList with
  | '-' :: 'h' :: _ => .help
  | '-' :: 'V' :: _ => if l.hasVersion then .version else .misuse
  | _ => .misuse

/-- Reads the arguments of a level. -/
def read (l : Level) : List String → Given → Reading
  | [], given => .finished given
  | argument :: rest, given =>
    if l.words.contains argument then .leads given argument rest
    else if argument = "--" then if rest.isEmpty then .finished given else .misuse
    else
      match cutLong? argument with
      | none => l.shortPage argument
      | some (name, attached) =>
        match l.switches.find? fun s => s.name == name with
        | none => if attached.isSome then .misuse else (l.pageOf? name).getD .misuse
        | some s =>
          if given.any fun g => g.1 == name then .misuse
          else
            match s.value, attached with
            | none, none => read l rest ((name, "") :: given)
            | none, some _ => .misuse
            | some (_, kind), some value =>
              match take given s kind value with
              | some given => read l rest given
              | none => .misuse
            | some (_, kind), none =>
              match rest with
              | [] => .misuse
              | value :: rest =>
                if isSwitch value then .misuse
                else
                  match take given s kind value with
                  | some given => read l rest given
                  | none => .misuse

end Level

/-! ### The program -/

structure RunOptions where
  dryRun : Bool
  yolo : Bool
  once : Bool
  /-- Whether the model is asked without a workflow. -/
  direct : Bool
  workflow : Option String
  iterations : Option Nat
  stopAtMilestone : Bool
  deriving DecidableEq, Repr

namespace RunOptions

/-- The passes; a single one that is asked for wins over a number of them. -/
def mode (o : RunOptions) : RunMode :=
  match o.once, o.iterations with
  | true, _ => .once
  | false, some count => .iterations count
  | false, none => .continuous

/-- What is asked of a pass.  When there are more than one, loops are gone round once
in each of them. -/
def flags (o : RunOptions) : Flags :=
  let several : Bool := match o.mode with
    | .iterations count => 1 < count
    | _ => false
  ⟨o.dryRun, o.yolo, o.once || several⟩

end RunOptions

inductive Verb where
  | run (options : RunOptions)
  | validate (workflow : Option String)
  | plugins
  deriving DecidableEq, Repr

/-- What is to be done, and where. -/
structure Invocation where
  config : Option String
  root : Option String
  verb : Verb
  deriving DecidableEq, Repr

/-- What the program is asked for. -/
inductive Wish where
  | invocation (i : Invocation)
  | page (text : String)
  | version
  | misuse
  deriving DecidableEq, Repr

namespace Wish

def frontLevel : Level :=
  ⟨[configSwitch, rootSwitch], Manual.verbs.map Manual.name ++ [Manual.helpWord], true⟩

def levelOf (m : Manual) : Level := ⟨m.switches, [], false⟩

def runOptions (given : Given) : RunOptions where
  dryRun := (given.lookup "dry-run").isSome
  yolo := (given.lookup "yolo").isSome
  once := (given.lookup "once").isSome
  direct := (given.lookup "direct").isSome
  workflow := given.lookup "workflow"
  iterations := (given.lookup "iterations").bind count?
  stopAtMilestone := (given.lookup "stop-at-mvp").isSome

def verb (name : String) (given : Given) : Verb :=
  if name = Manual.run.name then .run (runOptions given)
  else if name = Manual.validate.name then .validate (given.lookup "workflow")
  else .plugins

/-- What the arguments behind a verb ask for. -/
def ofVerb (outer : Given) (m : Manual) (arguments : List String) : Wish :=
  match (levelOf m).read arguments [] with
  | .finished inner =>
    let given := inner ++ outer
    .invocation ⟨given.lookup "config", given.lookup "root", verb m.name given⟩
  | .help => .page m.page
  | _ => .misuse

/-- What the arguments of the program ask for. -/
def ofArguments (arguments : List String) : Wish :=
  match frontLevel.read arguments [] with
  | .leads outer word rest =>
    match Manual.verbs.find? fun m => m.name == word with
    | some m => ofVerb outer m rest
    | none =>
      match Manual.pageOf? rest with
      | some text => .page text
      | none => .misuse
  | .help => .page Manual.frontPage
  | .version => .version
  | _ => .misuse

end Wish

end AgentWorkflow.CommandLine
