/-
The tokens of a YAML text.

* `Yaml.Token` — scalars, the marks of collections, and the marks that only the
  indentation of the lines shows.
* `Yaml.Token.ofText?` — the tokens of a text.

Design notes: that a word is a key shows only at the colon behind it.  So of the last
word that may be one the place in the list of tokens is kept (`Yaml.Candidate`), and at the
colon the mark of a key is put there, with that of a new collection where the word is
indented further than the collection around it.
-/
import AgentWorkflow.Yaml.Scalar

namespace AgentWorkflow.Yaml

inductive Token where
  | documentStart
  | documentEnd
  | directive (name : String) (parameters : List String)
  | blockList
  | blockMap
  | blockEnd
  | openList
  | closeList
  | openMap
  | closeMap
  | dash
  | comma
  | key
  | colon
  | alias (name : String)
  | anchor (name : String)
  | tag (handle suffix : String)
  | scalar (text : String) (isPlain : Bool)
  deriving DecidableEq, Repr

/-- A word that may turn out to be a key. -/
structure Candidate where
  /-- The number of tokens before it. -/
  number : Nat
  line : Nat
  column : Nat
  index : Nat
  /-- Whether the text makes no sense unless it is one. -/
  isRequired : Bool

/-- Where a text has been scanned to. -/
structure Scan where
  cursor : Cursor
  /-- The columns of the collections that the lines are in, the innermost first. -/
  indents : List Nat
  /-- One candidate at most for the lines and for each collection in brackets, the
  innermost first. -/
  candidates : List (Option Candidate)
  /-- Whether a key may begin here. -/
  keyAllowed : Bool
  /-- The tokens so far, backwards. -/
  tokens : List Token
  count : Nat

namespace Scan

def start (cs : List Char) : Scan := ⟨Cursor.start cs, [], [none], true, [], 0⟩

def inFlow (s : Scan) : Bool := 1 < s.candidates.length

def column (s : Scan) : Nat := s.cursor.column

/-- The column of the innermost collection of lines. -/
def indent? (s : Scan) : Option Nat := s.indents.head?

def emit (s : Scan) (t : Token) : Scan := { s with tokens := t :: s.tokens, count := s.count + 1 }

/-- Puts a token behind the first `number` ones. -/
def emitAt (s : Scan) (number : Nat) (t : Token) : Scan :=
  let after := s.count - number
  { s with tokens := s.tokens.take after ++ t :: s.tokens.drop after, count := s.count + 1 }

def goTo (s : Scan) (c : Cursor) : Scan := { s with cursor := c }

def allowKey (s : Scan) (allowed : Bool) : Scan := { s with keyAllowed := allowed }

/-! ### Candidates -/

/-- How many characters a key may have. -/
def keyLimit : Nat := 1024

/-- Whether a word can no longer be a key. -/
def isStale (s : Scan) (k : Candidate) : Bool :=
  k.line < s.cursor.line || k.index + keyLimit < s.cursor.index

/-- Drops the candidates that can no longer be keys; one that has to be is
refused. -/
def dropStale (s : Scan) : Option Scan := do
  let candidates ← s.candidates.mapM fun candidate =>
    match candidate with
    | none => some none
    | some k =>
      if s.isStale k then (if k.isRequired then none else some none) else some (some k)
  some { s with candidates }

/-- Drops the innermost candidate; one that has to be a key is refused. -/
def dropCandidate (s : Scan) : Option Scan :=
  match s.candidates with
  | some k :: rest => if k.isRequired then none else some { s with candidates := none :: rest }
  | _ => some s

/-- Keeps the place of what comes next as that of a candidate. -/
def keepCandidate (s : Scan) : Option Scan :=
  if s.keyAllowed then do
    let s ← s.dropCandidate
    let required := !s.inFlow && s.indent? == some s.column
    let k : Candidate := ⟨s.count, s.cursor.line, s.column, s.cursor.index, required⟩
    some { s with candidates := some k :: s.candidates.tail }
  else some s

/-! ### Indentation -/

/-- Opens a collection of lines at a column, unless one is open there.  Its token is put
behind the first `number` ones. -/
def roll (s : Scan) (column number : Nat) (t : Token) : Scan :=
  if s.inFlow then s
  else
    match s.indent? with
    | some n => if n < column then { s.emitAt number t with indents := column :: s.indents } else s
    | none => { s.emitAt number t with indents := column :: s.indents }

/-- Closes the collections of lines that are indented further than a column. -/
def unrollTo (s : Scan) (stays : Nat → Bool) : Scan :=
  if s.inFlow then s
  else
    let closed := (s.indents.takeWhile fun n => !stays n).length
    { s with
      indents := s.indents.drop closed
      tokens := List.replicate closed Token.blockEnd ++ s.tokens
      count := s.count + closed }

def unroll (s : Scan) (column : Nat) : Scan := s.unrollTo fun n => n ≤ column

def unrollAll (s : Scan) : Scan := s.unrollTo fun _ => false

/-! ### Between tokens -/

/-- Goes on behind blanks, comments and line ends. -/
def skipGap : Nat → Scan → Scan
  | 0, s => s
  | fuel + 1, s =>
    let tabs := s.inFlow || !s.keyAllowed
    let c := s.cursor.skipWhile fun ch => ch = ' ' || (tabs && ch = '\t')
    let c := if c.rest.head? = some '#' then c.skipWhile fun ch => !isBreak ch else c
    match c.rest with
    | [] => s.goTo c
    | ch :: _ =>
      if isBreak ch then
        let s := s.goTo c.next
        skipGap fuel (if s.inFlow then s else s.allowKey true)
      else s.goTo c

/-! ### Tokens of one character or three -/

/-- A mark that opens a collection in brackets. -/
def openFlow (s : Scan) (t : Token) : Option Scan := do
  let s ← s.keepCandidate
  let s := { s with candidates := none :: s.candidates }
  some ((s.allowKey true).emit t |>.goTo s.cursor.next)

/-- A mark that closes a collection in brackets. -/
def closeFlow (s : Scan) (t : Token) : Option Scan := do
  let s ← s.dropCandidate
  let s := if s.inFlow then { s with candidates := s.candidates.tail } else s
  some ((s.allowKey false).emit t |>.goTo s.cursor.next)

def comma (s : Scan) : Option Scan := do
  let s ← s.dropCandidate
  some ((s.allowKey true).emit .comma |>.goTo s.cursor.next)

def dash (s : Scan) : Option Scan := do
  if !s.inFlow && !s.keyAllowed then none
  else
    let s := s.roll s.column s.count .blockList
    let s ← s.dropCandidate
    some ((s.allowKey true).emit .dash |>.goTo s.cursor.next)

def explicitKey (s : Scan) : Option Scan := do
  if !s.inFlow && !s.keyAllowed then none
  else
    let s := s.roll s.column s.count .blockMap
    let s ← s.dropCandidate
    some ((s.allowKey (!s.inFlow)).emit .key |>.goTo s.cursor.next)

def colon (s : Scan) : Option Scan :=
  match s.candidates with
  | some k :: rest =>
    let s := s.emitAt k.number .key
    let s := s.roll k.column k.number .blockMap
    let s := { s with candidates := none :: rest }
    some ((s.allowKey false).emit .colon |>.goTo s.cursor.next)
  | _ =>
    if !s.inFlow && !s.keyAllowed then none
    else
      let s := s.roll s.column s.count .blockMap
      some ((s.allowKey (!s.inFlow)).emit .colon |>.goTo s.cursor.next)

/-- The mark between documents. -/
def documentMark (s : Scan) (t : Token) : Option Scan := do
  let s ← s.unrollAll.dropCandidate
  some ((s.allowKey false).emit t |>.goTo (s.cursor.skip 3))

/-! ### Names and tags -/

def isNameChar (c : Char) : Bool := c.isAlphanum || c = '-' || c = '_'

/-- Whether a name may end here. -/
def endsName (cs : List Char) : Bool :=
  endsWord cs || (match cs with
    | c :: _ => ['?', ':', ',', ']', '\x7d', '%', '@', '\u0060'].contains c
    | [] => true)

/-- The name behind an anchor or an alias. -/
def named (s : Scan) (make : String → Token) : Option Scan := do
  let s ← s.keepCandidate
  let c := s.cursor.next
  let name := c.rest.takeWhile isNameChar
  let after := c.skip name.length
  if name.isEmpty || !endsName after.rest then none
  else some ((s.allowKey false).emit (make (String.ofList name)) |>.goTo after)

/-- The characters of a tag. -/
def isTagChar (c : Char) : Bool :=
  isNameChar c ||
    [';', '/', '?', ':', '@', '&', '=', '+', '$', '.', '%', '!', '~', '*', '\u0027', '(',
      ')'].contains c

/-- The characters of a tag in angle brackets. -/
def isAddressChar (c : Char) : Bool := isTagChar c || [',', '[', ']'].contains c

/-- A tag: a handle, and what is put behind the text that the handle stands for. -/
def tagParts (c : Cursor) : Option (String × String × Cursor) :=
  match c.rest with
  | '!' :: '<' :: rest =>
    let address := rest.takeWhile isAddressChar
    let after := c.skip (address.length + 2)
    if address.isEmpty || after.rest.head? ≠ some '>' then none
    else some ("", String.ofList address, after.next)
  | _ =>
    let name := c.rest.tail.takeWhile isNameChar
    let after := c.skip (name.length + 1)
    if after.rest.head? = some '!' then
      let suffix := after.rest.tail.takeWhile isTagChar
      if suffix.isEmpty then none
      else
        some ("!" ++ String.ofList name ++ "!", String.ofList suffix,
          after.skip (suffix.length + 1))
    else
      let suffix := c.rest.tail.takeWhile isTagChar
      some ("!", String.ofList suffix, c.skip (suffix.length + 1))

def tagged (s : Scan) : Option Scan := do
  let s ← s.keepCandidate
  let (handle, suffix, after) ← tagParts s.cursor
  if endsWord after.rest || (s.inFlow && after.rest.head? = some ',') then
    some ((s.allowKey false).emit (.tag handle suffix) |>.goTo after)
  else none

/-! ### Scalars and directives -/

def block (s : Scan) (isFolded : Bool) : Option Scan := do
  let s ← s.dropCandidate
  let (text, after) ← Yaml.block isFolded s.indent? s.cursor.next
  some ((s.allowKey true).emit (.scalar text false) |>.goTo after)

def quoted (s : Scan) (isSingle : Bool) : Option Scan := do
  let s ← s.keepCandidate
  let (g, after) ← Yaml.quoted isSingle (s.cursor.rest.length + 1) Gather.start s.cursor.next
  some ((s.allowKey false).emit (.scalar g.toString false) |>.goTo after)

def plain (s : Scan) : Option Scan := do
  let s ← s.keepCandidate
  let indent := match s.indent? with
    | none => 0
    | some n => n + 1
  let (g, after) ← Yaml.plain s.inFlow indent (s.cursor.rest.length + 1) Gather.start s.cursor
  some ((s.allowKey g.hasBreak).emit (.scalar g.toString true) |>.goTo after)

/-- A line with a per cent sign: a name and words. -/
def directive (s : Scan) : Option Scan := do
  let s ← s.unrollAll.dropCandidate
  let line := s.cursor.rest.takeWhile fun c => !isBreak c
  let words := (Text.splitAt ' ' (String.ofList (line.tail.map fun c =>
    if c = '\t' then ' ' else c))).filter (· ≠ "")
  let words := words.takeWhile fun w => !Text.beginsWith "#" w
  match words with
  | [] => none
  | name :: parameters =>
    some ((s.allowKey false).emit (.directive name parameters) |>.goTo (s.cursor.skip line.length))

/-! ### All tokens -/

/-- The characters that no word begins with, unless more is known. -/
def isIndicator (c : Char) : Bool :=
  ['-', '?', ':', ',', '[', ']', '\x7b', '\x7d', '#', '&', '*', '!', '|', '>', '\u0027', '"', '%',
    '@', '\u0060'].contains c

/-- Whether a word without quotes begins here. -/
def beginsPlain (s : Scan) : Bool :=
  match s.cursor.rest with
  | [] => false
  | c :: rest =>
    !(isIndicator c || isBlank c || isBreak c) ||
      (c = '-' && !(rest.head?.map isBlank).getD false) ||
      (!s.inFlow && (c = '?' || c = ':') && !endsWord rest)

/-- Reads the token that begins with a character. -/
def tokenOf (s : Scan) (c : Char) (rest : List Char) : Option Scan :=
  if s.column = 0 && c = '%' then s.directive
  else if s.cursor.isMark ['-', '-', '-'] then s.documentMark .documentStart
  else if s.cursor.isMark ['.', '.', '.'] then s.documentMark .documentEnd
  else if c = '[' then s.openFlow .openList
  else if c = '\x7b' then s.openFlow .openMap
  else if c = ']' then s.closeFlow .closeList
  else if c = '\x7d' then s.closeFlow .closeMap
  else if c = ',' then s.comma
  else if c = '-' && endsWord rest then s.dash
  else if c = '?' && (s.inFlow || endsWord rest) then s.explicitKey
  else if c = ':' && (s.inFlow || endsWord rest) then s.colon
  else if c = '*' then s.named .alias
  else if c = '&' then s.named .anchor
  else if c = '!' then s.tagged
  else if c = '|' && !s.inFlow then s.block false
  else if c = '>' && !s.inFlow then s.block true
  else if c = '\u0027' then s.quoted true
  else if c = '"' then s.quoted false
  else if s.beginsPlain then s.plain
  else none

/-- Closes what is open at the end of the text. -/
def finish (s : Scan) : Option (List Token) := do
  let s ← s.unrollAll.dropCandidate
  some s.tokens.reverse

/-- Reads tokens up to the end of the text. -/
def run : Nat → Scan → Option (List Token)
  | 0, _ => none
  | fuel + 1, s => do
    let s := skipGap (s.cursor.rest.length + 1) s
    let s ← s.dropStale
    let s := s.unroll s.column
    match s.cursor.rest with
    | [] => s.finish
    | c :: rest => run fuel (← s.tokenOf c rest)

end Scan

/-! ### Characters -/

/-- The characters that a text may hold. -/
def isAllowed (c : Char) : Bool :=
  let n := c.toNat
  n = 0x09 || n = 0x0A || n = 0x0D || (0x20 ≤ n && n ≤ 0x7E) || n = 0x85 ||
    (0xA0 ≤ n && n ≤ 0xFFFD) || 0x10000 ≤ n

/-- Turns the line ends into line feeds. -/
def unifyBreaks : List Char → List Char
  | [] => []
  | '\r' :: '\n' :: rest => '\n' :: unifyBreaks rest
  | c :: rest => (if c = '\r' || c = '\u0085' then '\n' else c) :: unifyBreaks rest

/-- Drops the mark that may stand before a text. -/
def dropMark : List Char → List Char
  | '\uFEFF' :: rest => rest
  | cs => cs

/-- The tokens of a text. -/
def Token.ofText? (s : String) : Option (List Token) :=
  if s.toList.all isAllowed then
    let cs := unifyBreaks (dropMark s.toList)
    Scan.run (cs.length + 2) (Scan.start cs)
  else none

end AgentWorkflow.Yaml
