/-
Scripts from their tokens.

* `Script.Read` — a reader of tokens that may meet a fault.
* `Script.ofText` — the script that a text spells.

Design notes: keywords are told from words only where a command may begin.  A script is
read line by line; a line with a fault becomes `malformed` as a whole, and nothing after it
is read.  The fuel is a multiple of the number of tokens: of the readers that call each
other only a few in a row take no token.
-/
import AgentWorkflow.Command.Script.Token

namespace AgentWorkflow.Script

/-- Why a script could not be read, and the line. -/
structure Fault where
  line : Nat
  message : String
  deriving Repr

/-- A reader of tokens. -/
abbrev Read (α : Type) := StateT (List Token) (Except Fault) α

namespace Read

def keywords : List String :=
  ["!", "case", "do", "done", "elif", "else", "esac", "fi", "for", "if", "in", "then", "until",
    "while", "\x7b", "\x7d"]

/-- The keyword that a word is, if it is one. -/
def keyword? : Word → Option String
  | [.bare text] => if keywords.contains text then some text else none
  | _ => none

def isLineEnd (t : Token) : Bool :=
  match t.sign with
  | .lineEnd => true
  | _ => false

/-- How a sign is called in a fault. -/
def describe : Sign → String
  | .word _ => "word"
  | .keyword text => "\"" ++ text ++ "\""
  | .operator text => "\"" ++ text ++ "\""
  | .redirect _ _ => "redirection"
  | .hereText _ => "redirection"
  | .lineEnd => "newline"
  | .ending => "end of file"
  | .fault message => message

/-- The next token.  Keywords are told from words on demand, and line ends are dropped on
demand. -/
def peek (words lines : Bool) : Read Token := do
  if lines then modify (List.dropWhile isLineEnd)
  match ← get with
  | [] => pure ⟨.ending, 1⟩
  | t :: _ =>
    match t.sign with
    | .fault message => throw ⟨t.line, message⟩
    | .word w =>
      match keyword? w with
      | some text => pure (if words then ⟨.keyword text, t.line⟩ else t)
      | none => pure t
    | _ => pure t

def drop : Read Unit := modify (List.drop 1)

/-- The fault that a token cannot stand at its place. -/
def unexpected {α : Type} (t : Token) (expected : Option String) : Read α :=
  let wish := match expected with
    | some text => " (expecting \"" ++ text ++ "\")"
    | none => ""
  throw ⟨t.line, describe t.sign ++ " unexpected" ++ wish⟩

/-- Whether a token is a keyword or an operator with a text. -/
def Sign.spells (text : String) : Sign → Bool
  | .keyword t => t == text
  | .operator t => t == text
  | _ => false

/-- Takes a keyword or an operator that has to be next. -/
def expect (text : String) (lines : Bool) : Read Unit := do
  let t ← peek true lines
  if Sign.spells text t.sign then drop else unexpected t (some text)

/-- Whether a token ends a list of commands inside brackets. -/
def endsList (t : Token) : Bool :=
  match t.sign with
  | .operator text => text == ")" || text == ";;"
  | .keyword text =>
    ["do", "done", "elif", "else", "esac", "fi", "then", "\x7d"].contains text
  | _ => false

/-! ### Simple commands -/

/-- A word that sets a variable. -/
def setting? : Word → Option (String × Word)
  | .bare text :: rest =>
    let name := text.toList.takeWhile isNameChar
    match text.toList.drop name.length with
    | '=' :: value =>
      if isName name then
        some (String.ofList name,
          if value.isEmpty then rest else .bare (String.ofList value) :: rest)
      else none
    | _ => none
  | _ => none

/-- The redirection to the path or the stream that a word names. -/
def redirection (stream : Nat) (kind : String) (w : Word) (line : Nat) : Read Redirection :=
  match kind with
  | ">" => pure (.toFile stream false w)
  | ">>" => pure (.toFile stream true w)
  | "<" => pure (.fromFile w)
  | _ =>
    match (plainText? w).bind fun s => Text.digits? s.toList with
    | some target => pure (.toStream stream target)
    | none =>
      if plainText? w = some "-" then pure (.toStream stream stream)
      else throw ⟨line, "Bad fd number"⟩

/-- The redirection whose operator was read, with the word after it. -/
def redirectionAfter (stream : Nat) (kind : String) : Read Redirection := do
  let t ← peek false false
  match t.sign with
  | .word w =>
    drop
    redirection stream kind w t.line
  | _ => unexpected t none

/-- The redirections at the head of the tokens. -/
def redirections : Nat → Read (List Redirection)
  | 0 => pure []
  | fuel + 1 => do
    let t ← peek true false
    match t.sign with
    | .redirect stream kind =>
      drop
      let r ← redirectionAfter stream kind
      let more ← redirections fuel
      pure (r :: more)
    | .hereText w =>
      drop
      let more ← redirections fuel
      pure (.fromText w :: more)
    | _ => pure []

/-- What a command turned out to be. -/
inductive Simple where
  | command (c : Command)
  /-- The name of a function, whose brackets were read. -/
  | function (name : String)

/-- The rest of a simple command. -/
def simple (c : Command) : Nat → Read Simple
  | 0 => pure (.command c)
  | fuel + 1 => do
    let t ← peek false false
    match t.sign with
    | .word w =>
      drop
      match setting? w, c.words with
      | some s, [] => simple { c with settings := c.settings ++ [s] } fuel
      | _, _ => simple { c with words := c.words ++ [w] } fuel
    | .redirect stream kind =>
      drop
      let r ← redirectionAfter stream kind
      simple { c with redirections := c.redirections ++ [r] } fuel
    | .hereText w =>
      drop
      simple { c with redirections := c.redirections ++ [.fromText w] } fuel
    | .operator "(" =>
      match c.words, c.settings.isEmpty && c.redirections.isEmpty with
      | [w], true =>
        drop
        let close ← peek false false
        if Sign.spells ")" close.sign then
          drop
          match plainText? w with
          | some name =>
            if isName name.toList then pure (.function name)
            else throw ⟨close.line, "Bad function name"⟩
          | none => throw ⟨close.line, "Bad function name"⟩
        else unexpected close (some ")")
      | _, _ => pure (.command c)
    | _ => pure (.command c)

/-- Words up to something else. -/
def words : Nat → Read (List Word)
  | 0 => pure []
  | fuel + 1 => do
    match (← peek false false).sign with
    | .word w =>
      drop
      let more ← words fuel
      pure (w :: more)
    | _ => pure []

/-- The patterns of an arm, up to the bracket after them. -/
def patterns : Nat → Read (List Word)
  | 0 => pure []
  | fuel + 1 => do
    let t ← peek false false
    match t.sign with
    | .word w =>
      drop
      let next ← peek false false
      if Sign.spells "|" next.sign then
        drop
        let more ← patterns fuel
        pure (w :: more)
      else if Sign.spells ")" next.sign then
        drop
        pure [w]
      else unexpected next (some ")")
    | _ => unexpected t (some ")")

/-! ### Commands put together -/

mutual

/-- Commands inside brackets, up to what ends them. -/
def list : Nat → Bool → Read Script
  | 0, _ => pure .nothing
  | fuel + 1, mayEnd => do
    let t ← peek true true
    match t.sign, mayEnd && endsList t with
    | .ending, _ => pure .nothing
    | _, true => pure .nothing
    | _, false => do
      let first ← chain fuel
      let t ← peek true false
      match t.sign with
      | .operator ";" =>
        drop
        let more ← list fuel true
        pure (.sequence first more)
      | .operator "&" =>
        drop
        let more ← list fuel true
        pure (.sequence (.background first) more)
      | .lineEnd =>
        let more ← list fuel true
        pure (.sequence first more)
      | _ => pure first

/-- Pipelines of which the later ones depend on the earlier. -/
def chain : Nat → Read Script
  | 0 => pure .nothing
  | fuel + 1 => do
    let first ← pipeline fuel false
    chainFrom fuel first

def chainFrom : Nat → Script → Read Script
  | 0, first => pure first
  | fuel + 1, first => do
    match (← peek true false).sign with
    | .operator "&&" =>
      drop
      let second ← pipeline fuel true
      chainFrom fuel (.both first second)
    | .operator "||" =>
      drop
      let second ← pipeline fuel true
      chainFrom fuel (.either first second)
    | _ => pure first

def pipeline : Nat → Bool → Read Script
  | 0, _ => pure .nothing
  | fuel + 1, lines => do
    match (← peek true lines).sign with
    | .keyword "!" =>
      drop
      let body ← pipes fuel false
      pure (.negate body)
    | _ => pipes fuel lines

def pipes : Nat → Bool → Read Script
  | 0, _ => pure .nothing
  | fuel + 1, lines => do
    let first ← single fuel lines
    match (← peek true false).sign with
    | .operator "|" =>
      drop
      let second ← pipes fuel true
      pure (.pipe first second)
    | _ => pure first

/-- A command, or commands in brackets. -/
def single : Nat → Bool → Read Script
  | 0, _ => pure .nothing
  | fuel + 1, lines => do
    let t ← peek true lines
    match t.sign with
    | .keyword "if" =>
      drop
      compound fuel (← conditional fuel)
    | .keyword "while" =>
      drop
      compound fuel (← looping fuel true)
    | .keyword "until" =>
      drop
      compound fuel (← looping fuel false)
    | .keyword "for" =>
      drop
      compound fuel (← counting fuel)
    | .keyword "case" =>
      drop
      let t ← peek false false
      match t.sign with
      | .word w =>
        drop
        expect "in" true
        compound fuel (.select w (← arms fuel))
      | _ => unexpected t (some "word")
    | .operator "(" =>
      drop
      let body ← list fuel false
      expect ")" false
      pure (.group body true (← redirections fuel))
    | .keyword "\x7b" =>
      drop
      let body ← list fuel false
      expect "\x7d" false
      compound fuel body
    | .keyword _ => unexpected t none
    | .operator _ => unexpected t none
    | .lineEnd => unexpected t none
    | .ending => unexpected t none
    | .fault message => throw ⟨t.line, message⟩
    | _ => do
      match ← simple ⟨t.line, [], [], []⟩ fuel with
      | .command c => pure (.command c)
      | .function name => pure (.define name (← single fuel true))

/-- A command with the redirections after it. -/
def compound : Nat → Script → Read Script
  | 0, body => pure body
  | fuel + 1, body => do
    match ← redirections fuel with
    | [] => pure body
    | rs => pure (.group body false rs)

/-- A condition after its first word. -/
def conditional : Nat → Read Script
  | 0 => pure .nothing
  | fuel + 1 => do
    let test ← list fuel false
    expect "then" false
    let thenPart ← list fuel false
    let t ← peek true false
    match t.sign with
    | .keyword "elif" =>
      drop
      pure (.choose test thenPart (← conditional fuel))
    | .keyword "else" =>
      drop
      let elsePart ← list fuel false
      expect "fi" false
      pure (.choose test thenPart elsePart)
    | _ =>
      expect "fi" false
      pure (.choose test thenPart .nothing)

/-- A loop after its first word. -/
def looping : Nat → Bool → Read Script
  | 0, _ => pure .nothing
  | fuel + 1, goesOn => do
    let test ← list fuel false
    expect "do" false
    let body ← list fuel false
    expect "done" false
    pure (.loop test body goesOn)

/-- A loop over words after its first word. -/
def counting : Nat → Read Script
  | 0 => pure .nothing
  | fuel + 1 => do
    let t ← peek false false
    match t.sign with
    | .word [.bare name] =>
      if !isName name.toList then throw ⟨t.line, "Bad for loop variable"⟩
      drop
      let next ← peek true true
      let given ← (if Sign.spells "in" next.sign then do
          drop
          let ws ← words fuel
          let t ← peek false false
          match t.sign with
          | .lineEnd => drop
          | .operator ";" => drop
          | _ => unexpected t none
          pure (some ws)
        else do
          if Sign.spells ";" next.sign then drop
          pure none)
      expect "do" true
      let body ← list fuel false
      expect "done" false
      pure (.each name given body)
    | _ => throw ⟨t.line, "Bad for loop variable"⟩

/-- The arms of a choice by patterns. -/
def arms : Nat → Read (List (List Word × Script))
  | 0 => pure []
  | fuel + 1 => do
    let t ← peek true true
    match t.sign with
    | .keyword "esac" =>
      drop
      pure []
    | _ => do
      if Sign.spells "(" t.sign then drop
      let ps ← patterns fuel
      let body ← list fuel true
      let t ← peek true true
      match t.sign with
      | .keyword "esac" =>
        drop
        pure [(ps, body)]
      | .operator ";;" =>
        drop
        let more ← arms fuel
        pure ((ps, body) :: more)
      | _ => unexpected t (some ";;")

end

/-! ### Scripts -/

/-- The commands up to the end of a line. -/
def line : Nat → Read Script
  | 0 => pure .nothing
  | fuel + 1 => do
    match (← peek true false).sign with
    | .lineEnd => pure .nothing
    | .ending => pure .nothing
    | _ => do
      let first ← chain fuel
      let t ← peek true false
      match t.sign with
      | .operator ";" =>
        drop
        let more ← line fuel
        pure (.sequence first more)
      | .operator "&" =>
        drop
        let more ← line fuel
        pure (.sequence (.background first) more)
      | .lineEnd => pure first
      | .ending => pure first
      | _ => unexpected t none

/-- The lines one after the other, up to the first with a fault. -/
def lines : Nat → List Token → Script
  | 0, _ => .nothing
  | fuel + 1, ts =>
    match ts.dropWhile isLineEnd with
    | [] => .nothing
    | t :: rest =>
      match t.sign with
      | .ending => .nothing
      | _ =>
        match (line fuel).run (t :: rest) with
        | .ok (first, rest) => .sequence first (lines fuel rest)
        | .error f => .malformed f.line f.message

end Read

/-- The script that a text spells. -/
def ofText (text : String) : Script :=
  let ts := Token.ofText text
  Read.lines (10 * ts.length + 20) ts

end AgentWorkflow.Script
