/-
The tokens of a script.

* `Token` — a word, an operator, a redirection or a line end, with its line.
* `Token.pieces` — the pieces of a word, or of what stands in quotes or braces.
* `Token.ofText` — the tokens of a text.  A fault that cannot be read over stands as the
  last token.

Design notes: fuel is the number of characters ahead; each call drops one at least.
-/
import AgentWorkflow.Command.Script
import AgentWorkflow.Text.Basic

namespace AgentWorkflow.Script

/-- What a token is. -/
inductive Sign where
  | word (w : Word)
  /-- A word that has a meaning of its own at its place. -/
  | keyword (text : String)
  | operator (text : String)
  /-- A redirection that still lacks its path. -/
  | redirect (stream : Nat) (kind : String)
  /-- A redirection from a text in the script. -/
  | hereText (text : Word)
  | lineEnd
  | ending
  | fault (message : String)
  deriving Repr

structure Token where
  sign : Sign
  line : Nat
  deriving Repr

namespace Token

/-! ### Words -/

def unterminated : String := "Unterminated quoted string"

/-- The characters up to a closing one, which is dropped. -/
def upTo (close : Char) (fault : String) (cs : List Char) :
    Except String (List Char × List Char) :=
  let inside := cs.takeWhile (· ≠ close)
  match cs.drop inside.length with
  | [] => .error fault
  | _ :: rest => .ok (inside, rest)

/-- How a nested script is being read over. -/
inductive Shelter where
  | outside
  | single
  | double

/-- The characters up to the bracket that closes a nested script; brackets in quotes do
not count. -/
def nested : Shelter → Nat → List Char → Except String (List Char × List Char)
  | _, _, [] => .error "end of file unexpected (expecting \")\")"
  | s, depth, '\\' :: c :: rest =>
    match s with
    | .single => do
      let (inside, rest) ← nested .single depth (c :: rest)
      pure ('\\' :: inside, rest)
    | s => do
      let (inside, rest) ← nested s depth rest
      pure ('\\' :: c :: inside, rest)
  | s, depth, c :: rest =>
    match s, c, depth with
    | .outside, ')', 0 => .ok ([], rest)
    | s, c, depth => do
      let shelter : Shelter := match s, c with
        | .outside, '\'' => .single
        | .single, '\'' => .outside
        | .outside, '"' => .double
        | .double, '"' => .outside
        | s, _ => s
      let depth := match s, c with
        | .outside, '(' => depth + 1
        | .outside, ')' => depth - 1
        | _, _ => depth
      let (inside, rest) ← nested shelter depth rest
      pure (c :: inside, rest)

/-- A script between backquotes: a backslash before a dollar sign, a backquote or a
backslash is dropped. -/
def backquoted : List Char → Except String (List Char × List Char)
  | [] => .error "EOF in backquote substitution"
  | '`' :: rest => .ok ([], rest)
  | '\\' :: c :: rest => do
    let (inside, rest) ← backquoted rest
    pure (if ['$', '`', '\\'].contains c then (c :: inside, rest) else ('\\' :: c :: inside, rest))
  | c :: rest => do
    let (inside, rest) ← backquoted rest
    pure (c :: inside, rest)

/-- Where pieces stand. -/
inductive Setting where
  | word
  | double
  /-- In the braces of a parameter, which may stand in double quotes. -/
  | braces (quoted : Bool)
  /-- In an arithmetic expression; brackets are counted. -/
  | arithmetic (depth : Nat)
  /-- In a text that a redirection reads. -/
  | hereText
  deriving DecidableEq

def Setting.isQuoted : Setting → Bool
  | .word => false
  | .braces quoted => quoted
  | _ => true

/-- What follows from the end of the text. -/
def Setting.atEnd : Setting → Except String (Word × List Char)
  | .word => .ok ([], [])
  | .hereText => .ok ([], [])
  | .double => .error unterminated
  | .braces _ => .error "Missing '\x7d'"
  | .arithmetic _ => .error "Missing '))'"

def isBoundary (c : Char) : Bool :=
  [' ', '\t', '\n', ';', '&', '|', '(', ')', '<', '>'].contains c

/-- The characters that a backslash takes their meaning from. -/
def Setting.escaped : Setting → List Char
  | .hereText => ['$', '`', '\\']
  | .braces _ => ['$', '`', '"', '\\', '\x7d']
  | _ => ['$', '`', '"', '\\']

/-- A single character as a piece. -/
def Setting.piece (s : Setting) (c : Char) : Piece :=
  if s.isQuoted then .quoted c.toString else .bare c.toString

/-- The name of a parameter in braces, and what follows. -/
def bracedName (cs : List Char) : List Char × List Char :=
  match cs with
  | c :: rest =>
    if ['$', '?', '#', '@', '*', '!', '-'].contains c then ([c], rest)
    else (cs.takeWhile isNameChar, cs.dropWhile isNameChar)
  | [] => ([], [])

/-- How the value of a parameter in braces is treated, and what follows. -/
def treatment (cs : List Char) : Treatment × List Char :=
  match cs with
  | '\x7d' :: _ => (.plain, cs)
  | ':' :: '-' :: rest => (.orElse true, rest)
  | ':' :: '=' :: rest => (.orSet true, rest)
  | ':' :: '+' :: rest => (.instead true, rest)
  | ':' :: '?' :: rest => (.orFail true, rest)
  | '-' :: rest => (.orElse false, rest)
  | '=' :: rest => (.orSet false, rest)
  | '+' :: rest => (.instead false, rest)
  | '?' :: rest => (.orFail false, rest)
  | '%' :: '%' :: rest => (.dropEnd true, rest)
  | '%' :: rest => (.dropEnd false, rest)
  | '#' :: '#' :: rest => (.dropStart true, rest)
  | '#' :: rest => (.dropStart false, rest)
  | _ => (.unknown, cs)

mutual

/-- What a dollar sign stands for; the characters after it are given. -/
def dollar : Nat → Bool → List Char → Except String (Piece × List Char)
  | 0, _, cs => .ok (.quoted "$", cs)
  | fuel + 1, quoted, cs =>
    match cs with
    | '(' :: '(' :: rest => do
      let (expression, rest) ← pieces fuel (.arithmetic 0) rest
      pure (.arithmetic expression quoted, rest)
    | '(' :: rest => do
      let (inside, rest) ← nested .outside 0 rest
      pure (.output (String.ofList inside) quoted, rest)
    | '\x7b' :: '#' :: c :: rest =>
      if isNameChar c then do
        let (name, rest) := bracedName (c :: rest)
        let (_, rest) ← pieces fuel (.braces quoted) rest
        pure (.parameter (String.ofList name) .count [] quoted, rest)
      else braced fuel quoted ('#' :: c :: rest)
    | '\x7b' :: rest => braced fuel quoted rest
    | c :: rest =>
      if c.isAlpha || c = '_' then
        let name := cs.takeWhile isNameChar
        .ok (.parameter (String.ofList name) .plain [] quoted, cs.drop name.length)
      else if c.isDigit || ['$', '?', '#', '@', '*', '!', '-'].contains c then
        .ok (.parameter c.toString .plain [] quoted, rest)
      else .ok (.quoted "$", cs)
    | [] => .ok (.quoted "$", [])

/-- A parameter in braces, after the opening one. -/
def braced : Nat → Bool → List Char → Except String (Piece × List Char)
  | 0, _, _ => .error unterminated
  | fuel + 1, quoted, cs => do
    let (name, rest) := bracedName cs
    let (how, rest) := treatment rest
    let (word, rest) ← pieces fuel (.braces quoted) rest
    let how := if name.isEmpty then .unknown else how
    pure (.parameter (String.ofList name) how (joinPieces word) quoted, rest)

/-- The pieces up to the end of what they stand in. -/
def pieces : Nat → Setting → List Char → Except String (Word × List Char)
  | 0, s, _ => s.atEnd
  | fuel + 1, s, cs =>
    let andMore (piece : Piece) (rest : List Char) : Except String (Word × List Char) := do
      let (more, rest) ← pieces fuel s rest
      pure (piece :: more, rest)
    match cs with
    | [] => s.atEnd
    | '"' :: rest =>
      if s = .double then .ok ([], rest)
      else if s = .hereText then andMore (.quoted "\"") rest
      else do
        let (inside, rest) ← pieces fuel .double rest
        let (more, rest) ← pieces fuel s rest
        pure ((if inside.isEmpty then [.quoted ""] else inside) ++ more, rest)
    | '\'' :: rest =>
      if s.isQuoted then andMore (.quoted "'") rest
      else do
        let (inside, rest) ← upTo '\'' unterminated rest
        andMore (.quoted (String.ofList inside)) rest
    | '\\' :: c :: rest =>
      if c = '\n' then pieces fuel s rest
      else if !s.isQuoted || s.escaped.contains c then andMore (.quoted c.toString) rest
      else andMore (.quoted ("\\" ++ c.toString)) rest
    | '$' :: rest => do
      let (piece, rest) ← dollar fuel s.isQuoted rest
      andMore piece rest
    | '`' :: rest => do
      let (inside, rest) ← backquoted rest
      andMore (.output (String.ofList inside) s.isQuoted) rest
    | c :: rest =>
      match s, c, rest with
      | .braces _, '\x7d', _ => .ok ([], rest)
      | .arithmetic 0, ')', ')' :: rest => .ok ([], rest)
      | .arithmetic depth, ')', _ => do
        let (more, rest) ← pieces fuel (.arithmetic (depth - 1)) rest
        pure (.quoted ")" :: more, rest)
      | .arithmetic depth, '(', _ => do
        let (more, rest) ← pieces fuel (.arithmetic (depth + 1)) rest
        pure (.quoted "(" :: more, rest)
      | .word, c, _ => if isBoundary c then .ok ([], cs) else andMore (s.piece c) rest
      | _, c, _ => andMore (s.piece c) rest

end

/-- The word at the head of the characters. -/
def word (cs : List Char) : Except String (Word × List Char) := do
  let (w, rest) ← pieces (2 * cs.length + 2) .word cs
  pure (joinPieces w, rest)

/-! ### Redirections -/

/-- The redirection that starts here, for the stream it is given or its own. -/
def redirect? (stream : Option Nat) : List Char → Option (Sign × List Char)
  | '>' :: '>' :: rest => some (.redirect (stream.getD 1) ">>", rest)
  | '>' :: '&' :: rest => some (.redirect (stream.getD 1) ">&", rest)
  | '>' :: '|' :: rest => some (.redirect (stream.getD 1) ">", rest)
  | '>' :: rest => some (.redirect (stream.getD 1) ">", rest)
  | '<' :: '&' :: rest => some (.redirect (stream.getD 0) ">&", rest)
  | '<' :: rest => some (.redirect (stream.getD 0) "<", rest)
  | _ => none

/-- The redirection at the head of the characters, with its number if it has one. -/
def numbered? (cs : List Char) : Option (Sign × List Char) :=
  match redirect? none cs, cs with
  | some r, _ => some r
  | none, c :: rest => if c.isDigit then redirect? (some (c.toNat - '0'.toNat)) rest else none
  | none, [] => none

/-- The lines up to the one that is the mark, and what follows it. -/
def linesUpTo (mark : List Char) (tabs : Bool) : Nat → List Char → List Char × List Char
  | 0, cs => (cs, [])
  | _ + 1, [] => ([], [])
  | fuel + 1, cs =>
    let line := cs.takeWhile (· ≠ '\n')
    let shown := if tabs then line.dropWhile (· = '\t') else line
    let rest := cs.drop (line.length + 1)
    if shown = mark then ([], rest)
    else
      let (more, rest) := linesUpTo mark tabs fuel rest
      (shown ++ '\n' :: more, rest)

/-- A text for a redirection, after its operator; the text begins on the next line and is
taken out of what follows. -/
def hereText (cs : List Char) : Except String (Sign × List Char) := do
  let (tabs, cs) := match cs with
    | '-' :: rest => (true, rest)
    | cs => (false, cs)
  let (mark, rest) ← word (cs.dropWhile fun c => c = ' ' || c = '\t')
  let asItStands := mark.any fun p => match p with
    | .quoted _ => true
    | _ => false
  let line := rest.takeWhile (· ≠ '\n')
  let below := rest.drop (line.length + 1)
  let (text, after) :=
    linesUpTo ((plainText? mark).getD "").toList tabs (below.length + 1) below
  let body ← (if asItStands then pure [.quoted (String.ofList text)] else do
    let (w, _) ← pieces (2 * text.length + 2) .hereText text
    pure (joinPieces w))
  pure (.hereText body, line ++ '\n' :: after)

/-! ### Tokens -/

/-- The operator at the head of the characters. -/
def operator? : List Char → Option (String × List Char)
  | '&' :: '&' :: rest => some ("&&", rest)
  | '|' :: '|' :: rest => some ("||", rest)
  | ';' :: ';' :: rest => some (";;", rest)
  | ';' :: rest => some (";", rest)
  | '&' :: rest => some ("&", rest)
  | '|' :: rest => some ("|", rest)
  | '(' :: rest => some ("(", rest)
  | ')' :: rest => some (")", rest)
  | _ => none

/-- How many lines were ended by what was read. -/
def linesRead (before after : List Char) : Nat :=
  ((before.take (before.length - after.length)).filter (· = '\n')).length

/-- The tokens of the characters from a line on. -/
def tokens : Nat → Nat → List Char → List Token
  | 0, line, _ => [⟨.ending, line⟩]
  | _ + 1, line, [] => [⟨.ending, line⟩]
  | fuel + 1, line, c :: rest =>
    if c = ' ' || c = '\t' then tokens fuel line rest
    else if c = '#' then tokens fuel line (rest.dropWhile (· ≠ '\n'))
    else if c = '\n' then ⟨.lineEnd, line⟩ :: tokens fuel (line + 1) rest
    else
      match c, rest, operator? (c :: rest), numbered? (c :: rest) with
      | '\\', '\n' :: rest, _, _ => tokens fuel (line + 1) rest
      | '<', '<' :: rest, _, _ =>
        match hereText rest with
        | .ok (sign, rest) => ⟨sign, line⟩ :: tokens fuel line rest
        | .error m => [⟨.fault m, line⟩]
      | _, _, some (text, rest), _ => ⟨.operator text, line⟩ :: tokens fuel line rest
      | _, _, none, some (sign, rest) => ⟨sign, line⟩ :: tokens fuel line rest
      | _, _, none, none =>
        match word (c :: rest) with
        | .ok (w, after) =>
          let line' := line + linesRead (c :: rest) after
          ⟨.word w, line'⟩ :: tokens fuel line' after
        | .error m => [⟨.fault m, line + linesRead (c :: rest) []⟩]

/-- The tokens of a text. -/
def ofText (text : String) : List Token := tokens (2 * text.length + 2) 1 text.toList

end Token

end AgentWorkflow.Script
