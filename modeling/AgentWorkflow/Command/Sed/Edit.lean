/-
The edits of a stream editor, as they are written.

* `Sed.Edit` — an action for the lines that its addresses name.
* `Sed.readEdits` — the edits that a text spells, or what is wrong and after how many
  characters.

Design notes: a block is kept as the number of edits in it, so edits are a plain list; where
the block is not for a line that many edits are passed over.
-/
import AgentWorkflow.Command.Sed.Expression

namespace AgentWorkflow.Sed

/-- A pattern, and whether it takes letters of either case. -/
structure Sought where
  pattern : Expression
  anyCase : Bool
  deriving Repr

inductive Address where
  | line (n : Nat)
  | last
  | matching (p : Sought)
  /-- Every so many lines from one on. -/
  | every (first step : Nat)
  deriving Repr

/-- Where a range ends. -/
inductive RangeEnd where
  | at (a : Address)
  /-- So many lines after it began. -/
  | lines (n : Nat)
  /-- At the next multiple of a number. -/
  | multiple (n : Nat)
  deriving Repr

/-- How letters of a replacement are changed. -/
inductive Casing where
  | upper
  | lower
  | none
  | nextUpper
  | nextLower
  deriving DecidableEq, Repr

/-- A part of a replacement; group 0 is the whole match. -/
inductive Substitute where
  | char (c : Char)
  | group (n : Nat)
  | casing (k : Casing)
  deriving DecidableEq, Repr

inductive Action where
  /-- The next edits, so many, belong together. -/
  | block (size : Nat)
  | print
  | printFirst
  | number
  | delete
  | deleteFirst
  | next
  | appendNext
  | quit (code : Nat) (silent : Bool)
  | holdSpace (append : Bool)
  | getHeld (append : Bool)
  | exchange
  | appendText (s : String)
  | insertText (s : String)
  | changeText (s : String)
  | clear
  | translate (source target : List Char)
  | label (name : String)
  /-- A jump, always or where a substitution was made (or was not). -/
  | jump (name : String) (after : Option Bool)
  | substitute (p : Sought) (replacement : List Substitute) (which : Nat) (every print : Bool)
  | nothing
  deriving Repr

structure Edit where
  first : Option Address
  second : Option RangeEnd
  negated : Bool
  action : Action
  deriving Repr

/-! ### Parts of edits -/

/-- What is wrong with a text, and how much of it is left there. -/
structure Fault where
  message : String
  left : Nat

def isGap (c : Char) : Bool := c = ' ' || c = '\t'

def skipGap (cs : List Char) : List Char := cs.dropWhile isGap

/-- The characters up to a separator that no backslash precedes; inside brackets it does not
count.  A backslash before the separator is dropped. -/
def upTo? (separator : Char) (brackets : Bool) :
    Bool → List Char → Option (List Char × List Char)
  | _, [] => none
  | inside, '\\' :: c :: rest =>
    (upTo? separator brackets inside rest).map fun r =>
      if c = separator && c ≠ '\\' then (c :: r.1, r.2) else ('\\' :: c :: r.1, r.2)
  | inside, c :: rest =>
    if c = separator && !inside then some ([], rest)
    else
      let inside := if !brackets then false
        else if inside then c ≠ ']'
        else c = '['
      (upTo? separator brackets inside rest).map fun r => (c :: r.1, r.2)

def readReplacement : List Char → List Substitute
  | [] => []
  | '\\' :: 'n' :: rest => .char '\n' :: readReplacement rest
  | '\\' :: 't' :: rest => .char '\t' :: readReplacement rest
  | '\\' :: 'U' :: rest => .casing .upper :: readReplacement rest
  | '\\' :: 'L' :: rest => .casing .lower :: readReplacement rest
  | '\\' :: 'E' :: rest => .casing .none :: readReplacement rest
  | '\\' :: 'u' :: rest => .casing .nextUpper :: readReplacement rest
  | '\\' :: 'l' :: rest => .casing .nextLower :: readReplacement rest
  | '\\' :: c :: rest =>
    (if c.isDigit then .group (c.toNat - '0'.toNat) else .char c) :: readReplacement rest
  | '&' :: rest => .group 0 :: readReplacement rest
  | c :: rest => .char c :: readReplacement rest

/-- The flags of a substitution. -/
structure Flags where
  which : Nat
  every : Bool
  print : Bool
  anyCase : Bool

def readFlags : Nat → Flags → List Char → Except Fault (Flags × List Char)
  | 0, f, cs => .ok (f, cs)
  | fuel + 1, f, cs =>
    match cs with
    | 'g' :: rest => readFlags fuel { f with every := true } rest
    | 'p' :: rest => readFlags fuel { f with print := true } rest
    | 'i' :: rest => readFlags fuel { f with anyCase := true } rest
    | 'I' :: rest => readFlags fuel { f with anyCase := true } rest
    | 'm' :: rest => readFlags fuel f rest
    | 'M' :: rest => readFlags fuel f rest
    | c :: rest =>
      if c.isDigit then
        let digits := cs.takeWhile Char.isDigit
        let n := (Text.digits? digits).getD 1
        if n = 0 then .error ⟨"number option to `s' command may not be zero", rest.length⟩
        else readFlags fuel { f with which := n } (cs.drop digits.length)
      else if ['\n', ';', '\x7d', '#'].contains c || isGap c then .ok (f, cs)
      else .error ⟨"unknown option to `s'", rest.length⟩
    | [] => .ok (f, [])

/-- A substitution after its letter. -/
def readSubstitution (extended : Bool) (cs : List Char) : Except Fault (Action × List Char) :=
  match cs with
  | [] => .error ⟨"unterminated `s' command", 0⟩
  | separator :: rest =>
    match upTo? separator true false rest with
    | none => .error ⟨"unterminated `s' command", 0⟩
    | some (pattern, rest) =>
      match upTo? separator false false rest with
      | none => .error ⟨"unterminated `s' command", 0⟩
      | some (replacement, rest) => do
        let (f, rest) ← readFlags (rest.length + 1) ⟨1, false, false, false⟩ rest
        match Expression.read? extended pattern with
        | none => .error ⟨"Invalid preceding regular expression", rest.length⟩
        | some p =>
          pure (.substitute ⟨p, f.anyCase⟩ (readReplacement replacement) f.which f.every f.print,
            rest)

/-- The characters that one side of a `y` edit lists. -/
def plainChars : List Char → List Char
  | [] => []
  | '\\' :: 'n' :: rest => '\n' :: plainChars rest
  | '\\' :: 't' :: rest => '\t' :: plainChars rest
  | '\\' :: c :: rest => c :: plainChars rest
  | c :: rest => c :: plainChars rest

def readTranslation (cs : List Char) : Except Fault (Action × List Char) :=
  let fault : Fault := ⟨"unterminated `y' command", 0⟩
  match cs with
  | [] => .error fault
  | separator :: rest =>
    match upTo? separator false false rest with
    | none => .error fault
    | some (source, rest) =>
      match upTo? separator false false rest with
      | none => .error fault
      | some (target, rest) =>
        let source := plainChars source
        let target := plainChars target
        if source.length = target.length then .ok (.translate source target, rest)
        else .error ⟨"strings for `y' command are different lengths", rest.length⟩

/-- The lines of a text to be put in: a backslash at the end of a line keeps it going, and
other backslashes are dropped. -/
def textLines : List Char → List Char × List Char
  | [] => ([], [])
  | '\\' :: c :: rest =>
    let (more, rest) := textLines rest
    (c :: more, rest)
  | '\n' :: rest => ([], rest)
  | c :: rest =>
    let (more, rest) := textLines rest
    (c :: more, rest)

/-- A text to be put in, after its letter. -/
def readText (cs : List Char) : Except Fault (String × List Char) :=
  let cs := skipGap cs
  let cs := match cs with
    | '\\' :: rest =>
      match skipGap rest with
      | '\n' :: rest => rest
      | rest => rest
    | cs => cs
  if cs.isEmpty then .error ⟨"expected \\ after `a', `c' or `i'", 0⟩
  else
    let (text, rest) := textLines cs
    .ok (String.ofList text ++ "\n", rest)

/-- The name of a label. -/
def readLabel (cs : List Char) : String × List Char :=
  let cs := skipGap cs
  let name := cs.takeWhile fun c => c ≠ '\n' && c ≠ ';' && c ≠ '\x7d'
  (Text.trimEnd (String.ofList name), cs.drop name.length)

/-- A pattern as an address, after its first separator. -/
def readMatching (extended : Bool) (separator : Char) (cs : List Char) :
    Except Fault (Address × List Char) :=
  match upTo? separator true false cs with
  | none => .error ⟨"unterminated address regex", 0⟩
  | some (pattern, rest) =>
    let (anyCase, rest) := match rest with
      | 'I' :: rest => (true, rest)
      | rest => (false, rest)
    match Expression.read? extended pattern with
    | some p => .ok (.matching ⟨p, anyCase⟩, rest)
    | none => .error ⟨"Invalid preceding regular expression", rest.length⟩

def readAddress (extended : Bool) (cs : List Char) : Except Fault (Option Address × List Char) :=
  match cs with
  | '$' :: rest => .ok (some .last, rest)
  | '/' :: rest => (readMatching extended '/' rest).map fun r => (some r.1, r.2)
  | '\\' :: c :: rest => (readMatching extended c rest).map fun r => (some r.1, r.2)
  | _ =>
    let digits := cs.takeWhile Char.isDigit
    match Text.digits? digits, cs.drop digits.length with
    | none, _ => .ok (none, cs)
    | some n, '~' :: rest =>
      let step := rest.takeWhile Char.isDigit
      .ok (some (.every n ((Text.digits? step).getD 0)), rest.drop step.length)
    | some n, rest => .ok (some (.line n), rest)

/-- The end of a range, after its comma. -/
def readRangeEnd (extended : Bool) (cs : List Char) : Except Fault (Option RangeEnd × List Char) :=
  let counted (make : Nat → RangeEnd) (rest : List Char) :
      Except Fault (Option RangeEnd × List Char) :=
    let digits := rest.takeWhile Char.isDigit
    .ok (some (make ((Text.digits? digits).getD 0)), rest.drop digits.length)
  match skipGap cs with
  | '+' :: rest => counted .lines rest
  | '~' :: rest => counted .multiple rest
  | cs => do
    let (a, rest) ← readAddress extended cs
    match a with
    | some a => pure (some (.at a), rest)
    | none => .error ⟨"unexpected `,'", rest.length⟩

/-- An action other than a block. -/
def readAction (extended : Bool) (c : Char) (rest : List Char) :
    Except Fault (Action × List Char) :=
  let plain (a : Action) : Except Fault (Action × List Char) := .ok (a, rest)
  let withText (make : String → Action) : Except Fault (Action × List Char) :=
    (readText rest).map fun r => (make r.1, r.2)
  let withCode (silent : Bool) : Except Fault (Action × List Char) :=
    let digits := (skipGap rest).takeWhile Char.isDigit
    .ok (.quit ((Text.digits? digits).getD 0) silent, (skipGap rest).drop digits.length)
  let jumping (after : Option Bool) : Except Fault (Action × List Char) :=
    let (name, rest) := readLabel rest
    .ok (.jump name after, rest)
  match c with
  | 'p' => plain .print
  | 'P' => plain .printFirst
  | '=' => plain .number
  | 'd' => plain .delete
  | 'D' => plain .deleteFirst
  | 'n' => plain .next
  | 'N' => plain .appendNext
  | 'h' => plain (.holdSpace false)
  | 'H' => plain (.holdSpace true)
  | 'g' => plain (.getHeld false)
  | 'G' => plain (.getHeld true)
  | 'x' => plain .exchange
  | 'z' => plain .clear
  | 'q' => withCode false
  | 'Q' => withCode true
  | 'a' => withText .appendText
  | 'i' => withText .insertText
  | 'c' => withText .changeText
  | 's' => readSubstitution extended rest
  | 'y' => readTranslation rest
  | 'b' => jumping none
  | 't' => jumping (some true)
  | 'T' => jumping (some false)
  | ':' =>
    let (name, rest) := readLabel rest
    .ok (.label name, rest)
  | c => .error ⟨"unknown command: `" ++ c.toString ++ "'", rest.length⟩

/-- What may follow an action. -/
def afterAction (cs : List Char) : Except Fault (List Char) :=
  match skipGap cs with
  | [] => .ok []
  | c :: rest =>
    if c = ';' || c = '\n' then .ok rest
    else if c = '\x7d' || c = '#' then .ok (c :: rest)
    else .error ⟨"extra characters after command", rest.length⟩

/-- Whether an action reads the rest of its line, so that anything may follow. -/
def takesLine : Action → Bool
  | .appendText _ => true
  | .insertText _ => true
  | .changeText _ => true
  | _ => false

/-- The edits of a text; those inside a block end at its brace. -/
def edits (extended : Bool) : Nat → Bool → List Char → Except Fault (List Edit × List Char)
  | 0, _, cs => .ok ([], cs)
  | fuel + 1, inside, cs =>
    match cs.dropWhile fun c => isGap c || c = ';' || c = '\n' with
    | [] =>
      if inside then .error ⟨"unmatched `\x7b'", 0⟩ else .ok ([], [])
    | '#' :: rest => edits extended fuel inside (rest.dropWhile (· ≠ '\n'))
    | '\x7d' :: rest =>
      if inside then .ok ([], rest) else .error ⟨"unexpected `\x7d'", rest.length⟩
    | cs => do
      let (first, cs) ← readAddress extended cs
      let (second, cs) ← match skipGap cs with
        | ',' :: rest => readRangeEnd extended rest
        | cs => pure (none, cs)
      let cs := skipGap cs
      let negated := cs.head? = some '!'
      match skipGap (cs.dropWhile (· = '!')) with
      | [] => .error ⟨"missing command", 0⟩
      | '\x7b' :: rest => do
        let (body, rest) ← edits extended fuel true rest
        let rest ← afterAction rest
        let (more, rest) ← edits extended fuel inside rest
        pure (⟨first, second, negated, .block body.length⟩ :: (body ++ more), rest)
      | c :: rest => do
        let (action, rest) ← readAction extended c rest
        let rest ← (if takesLine action then pure rest else afterAction rest)
        let (more, rest) ← edits extended fuel inside rest
        pure (⟨first, second, negated, action⟩ :: more, rest)

/-- The edits of a text, or what is wrong and after how many characters. -/
def readEdits (extended : Bool) (text : String) : Except (String × Nat) (List Edit) :=
  match edits extended (2 * text.length + 2) false text.toList with
  | .ok (es, _) => .ok es
  | .error f => .error (f.message, text.length - f.left)

end AgentWorkflow.Sed
