/-
YAML scalars.

* `Yaml.Cursor` — what is left of a text, and where in the text that is.
* `Yaml.plain`, `Yaml.quoted`, `Yaml.block` — a scalar without quotes, in quotes, and on
  lines of its own.

Design notes: all line ends but the two separators of Unicode are line feeds before a
text is scanned.  The lines of a scalar are joined while it is read: one line end between
two lines counts as a blank, and of more than one the first is dropped.
-/
import AgentWorkflow.Text.Basic
import AgentWorkflow.Text.Utf8

namespace AgentWorkflow.Yaml

/-- What is left of a text, its line, its column, and the characters before it. -/
structure Cursor where
  rest : List Char
  line : Nat
  column : Nat
  index : Nat

def isBreak (c : Char) : Bool := c = '\n' || c = '\u2028' || c = '\u2029'

def isBlank (c : Char) : Bool := c = ' ' || c = '\t'

/-- Whether a text is at its end or goes on with a blank or a line end. -/
def endsWord : List Char → Bool
  | [] => true
  | c :: _ => isBlank c || isBreak c

/-- Whether a text is at its end or at the end of a line. -/
def endsLine : List Char → Bool
  | [] => true
  | c :: _ => isBreak c

namespace Cursor

def start (cs : List Char) : Cursor := ⟨cs, 0, 0, 0⟩

/-- Goes on by one character. -/
def next (c : Cursor) : Cursor :=
  match c.rest with
  | [] => c
  | ch :: rest =>
    if isBreak ch then ⟨rest, c.line + 1, 0, c.index + 1⟩
    else ⟨rest, c.line, c.column + 1, c.index + 1⟩

def skip : Nat → Cursor → Cursor
  | 0, c => c
  | n + 1, c => skip n c.next

/-- Goes on while the characters are of a kind. -/
def skipWhile (p : Char → Bool) (c : Cursor) : Cursor := c.skip (c.rest.takeWhile p).length

/-- Whether a line begins with a mark that stands alone. -/
def isMark (mark : List Char) (c : Cursor) : Bool :=
  c.column = 0 && mark.isPrefixOf c.rest && endsWord (c.rest.drop 3)

/-- Whether a document begins or ends here. -/
def isDocumentMark (c : Cursor) : Bool := c.isMark ['-', '-', '-'] || c.isMark ['.', '.', '.']

end Cursor

/-! ### Joining lines -/

/-- The text of a scalar so far, and what stands between it and the next word.  All
lists run backwards. -/
structure Gather where
  text : List Char
  blanks : List Char
  /-- The first line end; one that is escaped is nothing. -/
  lead : Option (List Char)
  /-- The line ends after the first. -/
  breaks : List Char

namespace Gather

def start : Gather := ⟨[], [], none, []⟩

/-- The text with what stands behind it. -/
def joined (g : Gather) : List Char :=
  match g.lead with
  | none => g.blanks ++ g.text
  | some ['\n'] => if g.breaks.isEmpty then ' ' :: g.text else g.breaks ++ g.text
  | some lead => g.breaks ++ (lead ++ g.text)

/-- Adds a word. -/
def add (g : Gather) (word : List Char) : Gather :=
  if word.isEmpty then g else ⟨word.reverse ++ g.joined, [], none, []⟩

def hasBreak (g : Gather) : Bool := g.lead.isSome

def toString (g : Gather) : String := String.ofList g.text.reverse

end Gather

/-- Reads blanks and line ends.  A tab that stands before column `indent` of a line is
refused. -/
def gap (indent : Nat) : Nat → Gather → Cursor → Option (Gather × Cursor)
  | 0, g, c => some (g, c)
  | fuel + 1, g, c =>
    match c.rest with
    | [] => some (g, c)
    | ch :: _ =>
      if isBlank ch then
        if g.hasBreak then
          if ch = '\t' && c.column < indent then none else gap indent fuel g c.next
        else gap indent fuel { g with blanks := ch :: g.blanks } c.next
      else if isBreak ch then
        if g.hasBreak then gap indent fuel { g with breaks := ch :: g.breaks } c.next
        else gap indent fuel { g with blanks := [], lead := some [ch] } c.next
      else some (g, c)

/-! ### Without quotes -/

/-- The marks of collections in a line. -/
def isFlowMark (c : Char) : Bool := [',', '[', ']', '\x7b', '\x7d'].contains c

/-- The characters of a word; `none` when it holds a colon that cannot stand there. -/
def word (inFlow : Bool) : List Char → Option (List Char)
  | [] => some []
  | c :: rest =>
    if isBlank c || isBreak c then some []
    else if inFlow && c = ':' && (match rest with
        | d :: _ => isFlowMark d || d = '?'
        | [] => false) then none
    else if c = ':' && endsWord rest then some []
    else if inFlow && isFlowMark c then some []
    else (word inFlow rest).map (c :: ·)

/-- A scalar without quotes, whose further lines begin at column `indent` or behind. -/
def plain (inFlow : Bool) (indent : Nat) : Nat → Gather → Cursor → Option (Gather × Cursor)
  | 0, _, _ => none
  | fuel + 1, g, c =>
    if c.isDocumentMark || c.rest.head? = some '#' then some (g, c)
    else
      match word inFlow c.rest with
      | none => none
      | some w =>
        let g := g.add w
        let c := c.skip w.length
        if c.rest.isEmpty || !endsWord c.rest then some (g, c)
        else
          match gap indent (c.rest.length + 1) g c with
          | none => none
          | some (g, c) =>
            if !inFlow && c.column < indent then some (g, c) else plain inFlow indent fuel g c

/-! ### In quotes -/

def hexValue? (c : Char) : Option Nat :=
  if c.isDigit then some (c.toNat - '0'.toNat)
  else if 'a' ≤ c && c ≤ 'f' then some (c.toNat - 'a'.toNat + 10)
  else if 'A' ≤ c && c ≤ 'F' then some (c.toNat - 'A'.toNat + 10)
  else none

/-- The character that so many digits name. -/
def named (count : Nat) (cs : List Char) : Option (Char × Nat) :=
  match (cs.take count).mapM hexValue? with
  | none => none
  | some ds =>
    let n := ds.foldl (fun n d => n * 16 + d) 0
    if ds.length = count && n.isValidChar then some (Char.ofNat n, count + 1) else none

/-- The escapes of one letter. -/
def escapes : List (Char × Char) := [
  ('0', '\x00'), ('a', '\x07'), ('b', '\x08'), ('t', '\t'), ('\t', '\t'), ('n', '\n'),
  ('v', '\x0b'), ('f', '\x0c'), ('r', '\r'), ('e', '\x1b'), (' ', ' '), ('"', '"'), ('/', '/'),
  ('\\', '\\'), ('N', '\u0085'), ('_', '\u00a0'), ('L', '\u2028'), ('P', '\u2029')]

/-- The character of an escape, and how many characters behind the backslash it
takes. -/
def escaped : List Char → Option (Char × Nat)
  | [] => none
  | 'x' :: rest => named 2 rest
  | 'u' :: rest => named 4 rest
  | 'U' :: rest => named 8 rest
  | c :: _ => (escapes.lookup c).map fun e => (e, 1)

/-- Reads what stands between two words in quotes and joins it. -/
def quotedGap (g : Gather) (c : Cursor) : Gather × Cursor :=
  match gap 0 (c.rest.length + 1) g c with
  | some (g, c) => (⟨g.joined, [], none, []⟩, c)
  | none => (g, c)

/-- A scalar behind its opening quote; in single quotes only the quote itself is
escaped, by another. -/
def quoted (isSingle : Bool) : Nat → Gather → Cursor → Option (Gather × Cursor)
  | 0, _, _ => none
  | fuel + 1, g, c =>
    if c.isDocumentMark then none
    else
      match c.rest with
      | [] => none
      | '\'' :: '\'' :: _ =>
        if isSingle then quoted isSingle fuel { g with text := '\'' :: g.text } (c.skip 2)
        else quoted isSingle fuel { g with text := '\'' :: g.text } c.next
      | ch :: rest =>
        if ch = (if isSingle then '\'' else '"') then some (g, c.next)
        else if ch = '\\' && !isSingle then
          if !rest.isEmpty && endsLine rest then
            let (g, c) := quotedGap { g with lead := some [] } (c.skip 2)
            quoted isSingle fuel g c
          else
            match escaped rest with
            | none => none
            | some (e, count) =>
              quoted isSingle fuel { g with text := e :: g.text } (c.skip (count + 1))
        else if isBlank ch || isBreak ch then
          let (g, c) := quotedGap g c
          quoted isSingle fuel g c
        else quoted isSingle fuel { g with text := ch :: g.text } c.next

/-! ### On lines of its own -/

/-- What becomes of the line ends at the end of a scalar. -/
inductive Chomp where
  | strip
  | clip
  | keep
  deriving DecidableEq

/-- The head of a scalar on lines of its own: what becomes of the line ends, and how
far it is indented when that is said. -/
structure BlockHead where
  chomp : Chomp
  indent : Option Nat

/-- Reads the marks behind the first one. -/
def blockMarks (c : Cursor) : Option (BlockHead × Cursor) :=
  let chompOf : Char → Option Chomp
    | '+' => some .keep
    | '-' => some .strip
    | _ => none
  let digitOf (ch : Char) : Option Nat :=
    if ch.isDigit && ch ≠ '0' then some (ch.toNat - '0'.toNat) else none
  match c.rest with
  | [] => some (⟨.clip, none⟩, c)
  | a :: rest =>
    match chompOf a with
    | some chomp =>
      match rest with
      | b :: _ =>
        if b = '0' then none
        else
          match digitOf b with
          | some d => some (⟨chomp, some d⟩, c.skip 2)
          | none => some (⟨chomp, none⟩, c.next)
      | [] => some (⟨chomp, none⟩, c.next)
    | none =>
      if a = '0' then none
      else
        match digitOf a with
        | none => some (⟨.clip, none⟩, c)
        | some d =>
          match rest.head?.bind chompOf with
          | some chomp => some (⟨chomp, some d⟩, c.skip 2)
          | none => some (⟨.clip, some d⟩, c.next)

/-- Reads the rest of the line of a head. -/
def blockLine (c : Cursor) : Option Cursor :=
  let c := c.skipWhile isBlank
  let c := if c.rest.head? = some '#' then c.skipWhile fun ch => !isBreak ch else c
  if endsLine c.rest then some c.next else none

/-- Reads empty lines.  `indent` is how far the scalar is indented, when that is
known; answers the line ends, backwards, and the greatest column met. -/
def emptyLines (indent : Option Nat) :
    Nat → List Char → Nat → Cursor → Option (List Char × Nat × Cursor)
  | 0, breaks, greatest, c => some (breaks, greatest, c)
  | fuel + 1, breaks, greatest, c =>
    let spaces := (c.rest.takeWhile (· = ' ')).length
    let c := c.skip (match indent with
      | none => spaces
      | some n => min spaces (n - c.column))
    let greatest := max greatest c.column
    let isOutside := match indent with
      | none => true
      | some n => c.column < n
    match c.rest with
    | [] => some (breaks, greatest, c)
    | ch :: _ =>
      if ch = '\t' && isOutside then none
      else if isBreak ch then emptyLines indent fuel (ch :: breaks) greatest c.next
      else some (breaks, greatest, c)

/-- The lines of a scalar so far, all backwards: its text, the end of its last line, and
the empty lines behind it; `blank` tells whether its last line began with a blank. -/
structure Lines where
  text : List Char
  lead : List Char
  breaks : List Char
  blank : Bool

/-- Joins the next line to the lines before it. -/
def Lines.joined (isFolded : Bool) (l : Lines) (blank : Bool) : List Char :=
  if isFolded && l.lead = ['\n'] && !l.blank && !blank then
    if l.breaks.isEmpty then ' ' :: l.text else l.breaks ++ l.text
  else l.breaks ++ (l.lead ++ l.text)

/-- Reads lines that are indented by `indent`. -/
def blockLines (isFolded : Bool) (indent : Nat) : Nat → Lines → Cursor → Option (Lines × Cursor)
  | 0, _, _ => none
  | fuel + 1, l, c =>
    match c.rest with
    | [] => some (l, c)
    | ch :: _ =>
      if c.column ≠ indent then some (l, c)
      else
        let blank := isBlank ch
        let text := l.joined isFolded blank
        let line := c.rest.takeWhile fun ch => !isBreak ch
        let c := c.skip line.length
        let lead := c.rest.take 1
        match emptyLines (some indent) (c.rest.length + 1) [] 0 c.next with
        | none => none
        | some (breaks, _, c) =>
          blockLines isFolded indent fuel ⟨line.reverse ++ text, lead, breaks, blank⟩ c

/-- A scalar behind its first mark.  `outer` is the column of the collection around it,
or nothing. -/
def block (isFolded : Bool) (outer : Option Nat) (c : Cursor) : Option (String × Cursor) := do
  let (head, c) ← blockMarks c
  let c ← blockLine c
  let fuel := c.rest.length + 1
  let given := head.indent.map fun n => (outer.getD 0) + n
  let (breaks, greatest, c) ← emptyLines given fuel [] 0 c
  let least := match outer with
    | none => 1
    | some n => n + 1
  let indent := given.getD (max greatest least)
  let (l, c) ← blockLines isFolded indent fuel ⟨[], [], breaks, false⟩ c
  let text := match head.chomp with
    | .strip => l.text
    | .clip => l.lead ++ l.text
    | .keep => l.breaks ++ (l.lead ++ l.text)
  some (String.ofList text.reverse, c)

end AgentWorkflow.Yaml
