/-
The written form of patterns.

* `Pattern.read?` — the pattern that a text spells, if it is well-formed.
* `Flags` — the switches that a pattern can set for the rest of a group: case,
  lines, blanks and the characters outside of ASCII.

Design notes: the reader goes through the text once and builds the pattern with
the switches in force at each place.  What is refused is what has no meaning
(an unknown escape, a range the wrong way round), what is not offered (looking
around, references back), and what is too large: nesting deeper than
`nestLimit` and patterns whose estimated size is beyond `sizeLimit`.
-/
import AgentWorkflow.Pattern.Basic
import AgentWorkflow.Text.Basic
import AgentWorkflow.Text.Unicode.CaseFold
import AgentWorkflow.Text.Unicode.Script

namespace AgentWorkflow.Pattern

open Text (CharSet)
open Text.Unicode (Category Property Script)

/-- The switches of a pattern. -/
structure Flags where
  anyCase : Bool := false
  manyLines : Bool := false
  dotTakesAll : Bool := false
  unicode : Bool := true
  allReturns : Bool := false
  free : Bool := false
  deriving DecidableEq, Repr

/-- The deepest nesting. -/
def nestLimit : Nat := 250

/-- The largest estimated size in bytes. -/
def sizeLimit : Nat := 10 * Nat.pow 2 20

/-- A part of a pattern with its nesting and its estimated size. -/
structure Part where
  pattern : Pattern
  depth : Nat
  size : Nat

/-- What is left to read, the switches in force, and the names given so far. -/
structure Reading where
  rest : List Char
  flags : Flags
  names : List (List Char)

abbrev Read := StateT Reading Option

namespace Read

def refuse {α : Type} : Read α := fun _ => none

def rest : Read (List Char) := return (← get).rest

def flags : Read Flags := return (← get).flags

def setFlags (f : Flags) : Read Unit := modify fun r => { r with flags := f }

def setRest (cs : List Char) : Read Unit := modify fun r => { r with rest := cs }

/-- Steps over the next character. -/
def bump : Read Unit := modify fun r => { r with rest := r.rest.drop 1 }

/-- Drops blanks and comments at the head. -/
def dropFree : Bool → List Char → List Char
  | _, [] => []
  | false, c :: rest =>
    if Text.isBlank c then dropFree false rest
    else if c = '#' then dropFree true rest
    else c :: rest
  | true, c :: rest => dropFree (c ≠ '\n') rest

/-- Steps over blanks and comments where they have no meaning. -/
def skipFree : Read Unit := do
  if (← flags).free then setRest (dropFree false (← rest))

/-- Steps over the next character and what has no meaning after it. -/
def next : Read Unit := do
  bump
  skipFree

/-- The next character; refuses at the end. -/
def peek : Read Char := do
  match ← rest with
  | [] => refuse
  | c :: _ => return c

/-- The character after the next one that has a meaning. -/
def peekSecond : Read (Option Char) := do
  let cs := (← rest).drop 1
  let cs := if (← flags).free then dropFree false cs else cs
  return cs.head?

end Read

open Read

/-! ### Sizes -/

/-- The estimated size of a set of characters. -/
def setSize (s : CharSet) : Nat :=
  if s.all fun r => r.2 < 0x80 then 32 * max 1 s.length
  else 32 + 60 * s.length

def part (p : Pattern) : Part := ⟨p, 0, 32⟩

def setPart (s : CharSet) (depth : Nat) : Part := ⟨.chars s, depth, setSize s⟩

/-! ### Classes -/

def digits (unicode : Bool) : CharSet :=
  if unicode then Category.nd.chars else [(0x30, 0x39)]

def spaces (unicode : Bool) : CharSet :=
  if unicode then Property.charsNamed "whitespace" else [(9, 13), (32, 32)]

def words (unicode : Bool) : CharSet := if unicode then wordChars else asciiWord

/-- The classes of ASCII characters that have a name. -/
def asciiClass? (name : String) : Option CharSet :=
  match name with
  | "alnum" => some [(0x30, 0x39), (0x41, 0x5A), (0x61, 0x7A)]
  | "alpha" => some [(0x41, 0x5A), (0x61, 0x7A)]
  | "ascii" => some [(0, 0x7F)]
  | "blank" => some [(9, 9), (32, 32)]
  | "cntrl" => some [(0, 0x1F), (0x7F, 0x7F)]
  | "digit" => some [(0x30, 0x39)]
  | "graph" => some [(0x21, 0x7E)]
  | "lower" => some [(0x61, 0x7A)]
  | "print" => some [(0x20, 0x7E)]
  | "punct" => some [(0x21, 0x2F), (0x3A, 0x40), (0x5B, 0x60), (0x7B, 0x7E)]
  | "space" => some [(9, 13), (32, 32)]
  | "upper" => some [(0x41, 0x5A)]
  | "word" => some asciiWord
  | "xdigit" => some [(0x30, 0x39), (0x41, 0x46), (0x61, 0x66)]
  | _ => none

/-- A name of a property without case, separators and a leading `is`. -/
def looseName (cs : List Char) : String :=
  let lower := cs.map Char.toLower
  let (starts, body) := match lower with
    | 'i' :: 's' :: rest => (true, rest)
    | _ => (false, lower)
  let kept := body.filter fun c => c.toNat < 0x80 && c ≠ ' ' && c ≠ '_' && c ≠ '-'
  if starts && kept == ['c'] then "isc" else String.ofList kept

/-- The characters of the general category or group with a name. -/
def categoryNamed (name : String) : Option CharSet :=
  if name = "any" then some CharSet.everything
  else if name = "assigned" then some (CharSet.complement Category.cn.chars)
  else if name = "ascii" then some [(0, 0x7F)]
  else (Category.ofName name).map Category.charsOf

/-- The names of properties that are not answered by yes or no. -/
def valuedProperties : List String :=
  ["age", "bc", "bidiclass", "blk", "block", "ccc", "canonicalcombiningclass",
    "dt", "decompositiontype", "ea", "eastasianwidth", "gc", "generalcategory",
    "gcb", "graphemeclusterbreak", "hst", "hangulsyllabletype", "jg",
    "joininggroup", "jt", "joiningtype", "lb", "linebreak", "nt", "numerictype",
    "nv", "numericvalue", "na", "name", "scx", "scriptextensions", "script",
    "sb", "sentencebreak", "wb", "wordbreak"]

/-- The characters that a single name in `\p` stands for: those of a property, a
category or a script. -/
def classNamed (cs : List Char) : Option CharSet :=
  let name := looseName cs
  let shared := name = "cf" || name = "sc" || name = "lc"
  if !shared && valuedProperties.contains name then none
  else
    match if shared then none else Property.ofName name with
    | some s => some s
    | none =>
      match categoryNamed name with
      | some s => some s
      | none => Script.ofName name

/-- The characters that a name and a value in `\p` stand for. -/
def classValued (name value : List Char) : Option CharSet :=
  let name := looseName name
  let value := looseName value
  if name = "gc" || name = "generalcategory" then categoryNamed value
  else if ["sc", "script", "scx", "scriptextensions"].contains name then
    Script.ofName value
  else none

/-- Letters of ASCII in both cases. -/
def foldAscii (s : CharSet) : CharSet :=
  let upper := CharSet.inter s [(0x41, 0x5A)]
  let lower := CharSet.inter s [(0x61, 0x7A)]
  CharSet.ofRanges (s ++ upper.map (fun r => (r.1 + 32, r.2 + 32)) ++
    lower.map fun r => (r.1 - 32, r.2 - 32))

def foldCase (f : Flags) (s : CharSet) : CharSet :=
  if !f.anyCase then s
  else if f.unicode then Text.Unicode.CaseFold.close s
  else foldAscii s

/-- The complement where it is asked for.  Without the characters outside of
ASCII there is no complement. -/
def negateIf (negated : Bool) (f : Flags) (s : CharSet) : Read CharSet := do
  if !negated then return s
  else if f.unicode then return CharSet.complement s
  else refuse

/-! ### Escapes -/

def isMeta (c : Char) : Bool :=
  ['\\', '.', '+', '*', '?', '(', ')', '|', '[', ']', '\x7b', '\x7d', '^', '$', '#',
    '&', '-', '~'].contains c

/-- Whether a character stands for itself after a backslash. -/
def isEscapable (c : Char) : Bool :=
  isMeta c || (c.toNat < 0x80 && !c.isAlphanum && c ≠ '<' && c ≠ '>')

def hexValue? (c : Char) : Option Nat :=
  if c.isDigit then some (c.toNat - '0'.toNat)
  else if 'a' ≤ c ∧ c ≤ 'f' then some (c.toNat - 'a'.toNat + 10)
  else if 'A' ≤ c ∧ c ≤ 'F' then some (c.toNat - 'A'.toNat + 10)
  else none

/-- The character with a code point, if there is one. -/
def scalar (n : Nat) : Read Char :=
  if n.isValidChar then return Char.ofNat n else refuse

/-- Exactly `count` hexadecimal digits. -/
def fixedHex : Nat → Nat → Read Nat
  | 0, value => return value
  | count + 1, value => do
    match hexValue? (← peek) with
    | none => refuse
    | some d =>
      next
      fixedHex count (value * 16 + d)

/-- Hexadecimal digits up to a closing brace. -/
def bracedHex : Nat → Nat → Nat → Read Nat
  | 0, _, _ => refuse
  | fuel + 1, count, value => do
    let c ← peek
    if c = '\x7d' then
      next
      if count = 0 then refuse else return value
    else
      match hexValue? c with
      | none => refuse
      | some d =>
        next
        bracedHex fuel (count + 1) (value * 16 + d)

/-- The character of `\x`, `\u` and `\U`, whose letter is next.  Two digits after
`\x` name a byte where the characters outside of ASCII are switched off, and a
byte outside of ASCII is no character. -/
def hexChar : Read Char := do
  let f ← flags
  let letter ← peek
  next
  if (← peek) = '\x7b' then
    next
    let fuel := (← rest).length + 1
    scalar (← bracedHex fuel 0 0)
  else
    let count := if letter = 'x' then 2 else if letter = 'u' then 4 else 8
    let value ← fixedHex count 0
    if letter = 'x' && !f.unicode && 0x80 ≤ value then refuse else scalar value

/-- The characters up to a closing brace. -/
def bracedName : Nat → List Char → Read (List Char)
  | 0, _ => refuse
  | fuel + 1, acc => do
    let c ← peek
    if c = '\x7d' then
      bump
      return acc.reverse
    else
      next
      bracedName fuel (c :: acc)

/-- Splits a text at the first occurrence of a mark. -/
def splitAtMark (mark : List Char) : List Char → List Char → Option (List Char × List Char)
  | _, [] => none
  | acc, c :: rest =>
    if mark.isPrefixOf (c :: rest) then some (acc.reverse, (c :: rest).drop mark.length)
    else splitAtMark mark (c :: acc) rest

/-- The class of `\p` and `\P`, whose letter is next. -/
def propertyClass : Read CharSet := do
  let f ← flags
  let negated := (← peek) = 'P'
  next
  let c ← peek
  let (set, negated) ← (if c = '\x7b' then do
      next
      let name ← bracedName ((← rest).length + 1) []
      match splitAtMark ['!', '='] [] name with
      | some (n, v) => return (classValued n v, !negated)
      | none =>
        match splitAtMark [':'] [] name with
        | some (n, v) => return (classValued n v, negated)
        | none =>
          match splitAtMark ['='] [] name with
          | some (n, v) => return (classValued n v, negated)
          | none => return (classNamed name, negated)
    else if c = '\\' then refuse
    else do
      next
      return (categoryNamed (looseName [c]), negated))
  match set with
  | none => refuse
  | some s =>
    if !f.unicode then refuse
    else negateIf negated f (foldCase f s)

/-- What an escape stands for. -/
inductive Escape where
  | char (c : Char)
  | set (s : CharSet)
  | assert (a : Assertion)

/-- The word in braces after `\b`.  Where the brace cannot begin such a word it
is left for a repetition. -/
def wordBrace : Nat → List Char → Read (List Char)
  | 0, _ => refuse
  | fuel + 1, acc => do
    let c ← peek
    if c.isAlpha || c = '-' then
      next
      wordBrace fuel (c :: acc)
    else if c = '\x7d' then
      bump
      return acc.reverse
    else refuse

/-- An assertion on words, after the `b` of its escape. -/
def wordAssertion : Read Assertion := do
  let ascii := !(← flags).unicode
  match ← rest with
  | '\x7b' :: _ =>
    let before ← rest
    next
    let c ← peek
    if !(c.isAlpha || c = '-') then
      setRest before
      return .wordEdge ascii
    else
      match String.ofList (← wordBrace ((← rest).length + 1) []) with
      | "start" => return .wordStart ascii
      | "end" => return .wordEnd ascii
      | "start-half" => return .noWordBefore ascii
      | "end-half" => return .noWordAfter ascii
      | _ => refuse
  | _ => return .wordEdge ascii

/-- An escape, whose backslash is next. -/
def escape : Read Escape := do
  bump
  let f ← flags
  let c ← peek
  if c = 'x' || c = 'u' || c = 'U' then return .char (← hexChar)
  else if c = 'p' || c = 'P' then return .set (← propertyClass)
  else if c = 'd' || c = 'D' then
    bump
    return .set (← negateIf (c = 'D') f (digits f.unicode))
  else if c = 's' || c = 'S' then
    bump
    return .set (← negateIf (c = 'S') f (spaces f.unicode))
  else if c = 'w' || c = 'W' then
    bump
    return .set (← negateIf (c = 'W') f (words f.unicode))
  else
    bump
    if isEscapable c then return .char c
    else
      match c with
      | 'a' => return .char '\x07'
      | 'f' => return .char '\x0c'
      | 't' => return .char '\t'
      | 'n' => return .char '\n'
      | 'r' => return .char '\r'
      | 'v' => return .char '\x0b'
      | 'A' => return .assert .textStart
      | 'z' => return .assert .textEnd
      | 'b' => return .assert (← wordAssertion)
      | 'B' => return .assert (.noWordEdge (!f.unicode))
      | '<' => return .assert (.wordStart (!f.unicode))
      | '>' => return .assert (.wordEnd (!f.unicode))
      | _ => refuse

/-- A character as a set. -/
def literal (c : Char) : Read CharSet := do
  return foldCase (← flags) (CharSet.single c)

/-! ### Sets in brackets -/

/-- An operation between two sets. -/
inductive SetOp where
  | inter
  | diff
  | symmDiff

def SetOp.apply : SetOp → CharSet → CharSet → CharSet
  | .inter => CharSet.inter
  | .diff => CharSet.diff
  | .symmDiff => CharSet.symmDiff

/-- A set being read: its members, the operation waiting for its right side,
and how deep its parts are nested. -/
structure Members where
  ranges : List (Nat × Nat)
  count : Nat
  waiting : Option (SetOp × CharSet)
  depth : Nat

def Members.add (m : Members) (s : CharSet) (depth : Nat) : Members :=
  { m with ranges := m.ranges ++ s, count := m.count + 1, depth := max m.depth depth }

/-- The set with the waiting operation done. -/
def Members.close (m : Members) (f : Flags) : CharSet :=
  let right := CharSet.ofRanges m.ranges
  match m.waiting with
  | none => right
  | some (op, left) => op.apply (foldCase f left) (foldCase f right)

def Members.depthNow (m : Members) : Nat :=
  m.depth + (if m.count > 1 then 1 else 0) + (if m.waiting.isSome then 1 else 0)

/-- Closes the members so far as the left side of an operation. -/
def Members.operate (m : Members) (f : Flags) (op : SetOp) : Members :=
  ⟨[], 0, some (op, m.close f), m.depthNow⟩

/-- A named class of ASCII characters such as `[:alpha:]`, whose bracket is
next.  Where there is none, nothing is read. -/
def asciiNamed : Read (Option CharSet) := do
  let f ← flags
  match (← rest) with
  | '[' :: ':' :: body =>
    let (negated, body) := match body with
      | '^' :: more => (true, more)
      | _ => (false, body)
    let name := body.takeWhile (· ≠ ':')
    match body.drop name.length, asciiClass? (String.ofList name) with
    | ':' :: ']' :: after, some s =>
      setRest after
      return some (← negateIf negated f (foldCase f s))
    | _, _ => return none
  | _ => return none

/-- One end of a range, or a whole member. -/
def member : Read Escape := do
  if (← peek) = '\\' then escape
  else
    let c ← peek
    bump
    return .char c

/-- The character of one end of a range. -/
def rangeEnd : Escape → Read Nat
  | .char c => do
    if !(← flags).unicode && c.toNat ≥ 0x80 then refuse else return c.toNat
  | _ => refuse

/-- A member or a range. -/
def memberOrRange : Read CharSet := do
  let first ← member
  skipFree
  let c ← peek
  let second ← peekSecond
  if c ≠ '-' || second = some ']' || second = some '-' then
    match first with
    | .char c =>
      if !(← flags).unicode && c.toNat ≥ 0x80 then refuse else return CharSet.single c
    | .set s => return s
    | .assert _ => refuse
  else
    next
    let last ← member
    let low ← rangeEnd first
    let high ← rangeEnd last
    if low ≤ high then return [(low, high)] else refuse

/-- The dashes right after an opening bracket stand for themselves. -/
def leadingDashes : Nat → Members → Read Members
  | 0, _ => refuse
  | fuel + 1, m => do
    if (← peek) = '-' then
      next
      leadingDashes fuel (m.add (CharSet.single '-') 0)
    else return m

mutual

/-- A set in brackets, whose opening bracket is next. -/
def bracketed : Nat → Read (CharSet × Nat)
  | 0 => refuse
  | fuel + 1 => do
    let f ← flags
    next
    let negated := (← peek) = '^'
    if negated then next
    let m ← leadingDashes ((← rest).length + 1) ⟨[], 0, none, 0⟩
    let m ← (if m.count = 0 && (← peek) = ']' then do
        next
        return m.add (CharSet.single ']') 0
      else return m)
    let m ← members fuel m
    let s ← negateIf negated f (foldCase f (m.close f))
    return (s, m.depthNow + 1)

/-- The members up to the closing bracket. -/
def members : Nat → Members → Read Members
  | 0, _ => refuse
  | fuel + 1, m => do
    skipFree
    let f ← flags
    match ← rest with
    | [] => refuse
    | '[' :: _ =>
      match ← asciiNamed with
      | some s => members fuel (m.add s 0)
      | none =>
        let (s, depth) ← bracketed fuel
        members fuel (m.add s depth)
    | ']' :: _ =>
      bump
      return m
    | '&' :: '&' :: after =>
      setRest after
      members fuel (m.operate f .inter)
    | '-' :: '-' :: after =>
      setRest after
      members fuel (m.operate f .diff)
    | '~' :: '~' :: after =>
      setRest after
      members fuel (m.operate f .symmDiff)
    | _ =>
      let s ← memberOrRange
      members fuel (m.add s 0)
end

/-! ### Sequences, groups and repetitions -/

/-- A part of a sequence; a setting of switches is `none`. -/
abbrev Item := Option Part

/-- A sequence, from its parts in reverse. -/
def sequence (items : List Item) : Part :=
  let parts := items.reverse.filterMap id
  let depth := parts.foldl (fun d p => max d p.depth) 0
  ⟨seqAll (parts.map Part.pattern), if items.length > 1 then depth + 1 else depth,
    parts.foldl (fun n p => n + p.size) 32⟩

/-- A choice, from its branches in reverse. -/
def choice (branches : List Part) : Part :=
  let branches := branches.reverse
  let depth := branches.foldl (fun d p => max d p.depth) 0
  ⟨altAll (branches.map Part.pattern), if branches.length > 1 then depth + 1 else depth,
    branches.foldl (fun n p => n + p.size) 0⟩

/-- Repeats the last part of a sequence. -/
def repeatLast (items : List Item) (low : Nat) (high : Option Nat) : Read (List Item) :=
  match items with
  | some p :: before =>
    let copies := (high.getD low).max 1
    let size := copies * (p.size + 32)
    if size > sizeLimit then refuse
    else return some ⟨repeated p.pattern low high, p.depth + 1, size⟩ :: before
  | _ => refuse

/-- Digits with blanks around them. -/
def decimal : Read (Option Nat) := do
  let start := (← rest).dropWhile Text.isBlank
  let digits := start.takeWhile Char.isDigit
  setRest ((start.drop digits.length).dropWhile Text.isBlank)
  match Text.digits? digits with
  | none => return none
  | some n => if n < Nat.pow 2 32 then return some n else refuse

/-- A question mark after a repetition changes which match is preferred, not
whether there is one. -/
def lazyMark : Read Unit := do
  match ← rest with
  | '?' :: _ => bump
  | _ => return

/-- The bounds of a repetition in braces, whose opening brace is next. -/
def bounds : Read (Nat × Option Nat) := do
  next
  let low ← decimal
  let range ← (if (← peek) = ',' then do
      next
      if (← peek) = '\x7d' then
        match low with
        | some n => return (n, none)
        | none => refuse
      else
        match low, ← decimal with
        | some n, some m => return (n, some m)
        | _, _ => refuse
    else
      match low with
      | some n => return (n, some n)
      | none => refuse)
  if (← peek) ≠ '\x7d' then refuse
  next
  match range.2 with
  | some high => if range.1 ≤ high then return range else refuse
  | none => return range

/-- Whether a character can stand in the name of a group. -/
def isNameChar (first : Bool) (c : Char) : Bool :=
  let alphabetic := if c.toNat < 0x80 then c.isAlpha
    else (Property.charsNamed "alphabetic").contains c
  let numeric := if c.toNat < 0x80 then c.isDigit
    else (Category.charsOf [.nd, .nl, .no]).contains c
  c = '_' || alphabetic || (!first && (numeric || c = '.' || c = '[' || c = ']'))

/-- The name of a group up to its closing angle bracket. -/
def groupName : Read Unit := do
  let cs ← rest
  let name := cs.takeWhile (· ≠ '>')
  let r ← get
  match name, cs.drop name.length with
  | first :: more, '>' :: after =>
    if isNameChar true first && more.all (isNameChar false) && !r.names.contains name then
      set { r with rest := after, names := name :: r.names }
    else refuse
  | _, _ => refuse

/-- One switch turned on or off. -/
def Flags.put (f : Flags) (on : Bool) : Char → Option Flags
  | 'i' => some { f with anyCase := on }
  | 'm' => some { f with manyLines := on }
  | 's' => some { f with dotTakesAll := on }
  | 'u' => some { f with unicode := on }
  | 'R' => some { f with allReturns := on }
  | 'x' => some { f with free := on }
  | 'U' => some f
  | _ => none

/-- Switches up to a colon or a closing parenthesis: the switches then, and
whether any was named. -/
def switches : Nat → Flags → List Char → Bool → Bool → Read (Flags × Bool)
  | 0, _, _, _, _ => refuse
  | fuel + 1, f, seen, off, dangling => do
    let c ← peek
    if c = ':' || c = ')' then
      if dangling then refuse else return (f, !seen.isEmpty || off)
    else if seen.contains c then refuse
    else if c = '-' then
      bump
      switches fuel f (c :: seen) true true
    else
      match f.put (!off) c with
      | none => refuse
      | some f =>
        bump
        switches fuel f (c :: seen) off false

/-- What a parenthesis opens. -/
inductive Opening where
  | capture
  | plain (f : Flags)
  | setting (f : Flags)

/-- Reads what a parenthesis opens, up to its body. -/
def opening : Read Opening := do
  bump
  skipFree
  let f ← flags
  match ← rest with
  | '?' :: '=' :: _ => refuse
  | '?' :: '!' :: _ => refuse
  | '?' :: '<' :: '=' :: _ => refuse
  | '?' :: '<' :: '!' :: _ => refuse
  | '?' :: 'P' :: '<' :: after =>
    setRest after
    groupName
    return .capture
  | '?' :: '<' :: after =>
    setRest after
    groupName
    return .capture
  | '?' :: after =>
    setRest after
    let (f, named) ← switches (after.length + 1) f [] false false
    let c ← peek
    bump
    if c = ')' then
      if named then return .setting f else refuse
    else return .plain f
  | _ => return .capture

/-- A single character, a dot, an edge or an escape. -/
def primitive : Read Part := do
  let f ← flags
  let c ← peek
  if c = '\\' then
    match ← escape with
    | .char c => return setPart (← literal c) 0
    | .set s => return setPart s 0
    | .assert a => return part (.assert a)
  else
    bump
    if c = '.' then
      if !f.unicode then refuse
      else if f.dotTakesAll then return setPart CharSet.everything 0
      else if f.allReturns then
        return setPart (CharSet.complement [(0x0A, 0x0A), (0x0D, 0x0D)]) 0
      else return setPart (CharSet.complement [(0x0A, 0x0A)]) 0
    else if c = '^' then
      return part (.assert
        (if !f.manyLines then .textStart else if f.allReturns then .anyLineStart else .lineStart))
    else if c = '$' then
      return part (.assert
        (if !f.manyLines then .textEnd else if f.allReturns then .anyLineEnd else .lineEnd))
    else return setPart (← literal c) 0

/-- The branches up to a closing parenthesis or the end.  `branches` and
`items` hold what was read so far, in reverse. -/
def body : Nat → List Part → List Item → Read Part
  | 0, _, _ => refuse
  | fuel + 1, branches, items => do
    skipFree
    match ← rest with
    | [] => return choice (sequence items :: branches)
    | ')' :: _ => return choice (sequence items :: branches)
    | '|' :: _ =>
      bump
      body fuel (sequence items :: branches) []
    | '(' :: _ =>
      let before ← flags
      match ← opening with
      | .setting f =>
        setFlags f
        body fuel branches (none :: items)
      | .capture =>
        let inner ← body fuel [] []
        if (← peek) ≠ ')' then refuse
        bump
        setFlags before
        body fuel branches (some ⟨inner.pattern, inner.depth + 1, inner.size + 64⟩ :: items)
      | .plain f =>
        setFlags f
        let inner ← body fuel [] []
        if (← peek) ≠ ')' then refuse
        bump
        setFlags before
        body fuel branches (some { inner with depth := inner.depth + 1 } :: items)
    | '[' :: _ =>
      let (s, depth) ← bracketed fuel
      body fuel branches (some (setPart s depth) :: items)
    | '?' :: _ =>
      bump
      lazyMark
      body fuel branches (← repeatLast items 0 (some 1))
    | '*' :: _ =>
      bump
      lazyMark
      body fuel branches (← repeatLast items 0 none)
    | '+' :: _ =>
      bump
      lazyMark
      body fuel branches (← repeatLast items 1 none)
    | '\x7b' :: _ =>
      let (low, high) ← bounds
      lazyMark
      body fuel branches (← repeatLast items low high)
    | _ =>
      let p ← primitive
      body fuel branches (some p :: items)

/-- The pattern that a text spells. -/
def read? (s : String) : Option Pattern := do
  let cs := s.toList
  let (p, r) ← body (cs.length + 1) [] [] ⟨cs, {}, []⟩
  if r.rest.isEmpty && p.depth ≤ nestLimit && p.size ≤ sizeLimit then some p.pattern else none

end AgentWorkflow.Pattern
