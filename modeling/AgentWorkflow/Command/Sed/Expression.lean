/-
Patterns with groups, as editors of streams have them.

* `Sed.Expression` — characters, edges, groups, repetitions and repeats of a group.
* `Sed.Expression.read?` — the pattern that a text spells, in the basic or in the extended
  notation.
* `Sed.Expression.find?` — the first match in a line, and of those that begin there the
  longest, with what the groups took.

Design notes: `ends` lists the places where a match can end, the preferred ways first; of
several ways to one place only the first is kept.
-/
import AgentWorkflow.Text.Basic

namespace AgentWorkflow.Sed

/-- A condition on one character. -/
inductive CharTest where
  | any
  | char (c : Char)
  | oneOf (negated : Bool) (ranges : List (Char × Char))
  deriving DecidableEq, Repr

/-- A condition on a place. -/
inductive Edge where
  | lineStart
  | lineEnd
  | wordEdge
  | noWordEdge
  | wordStart
  | wordEnd
  deriving DecidableEq, Repr

inductive Expression where
  | empty
  | one (test : CharTest)
  | edge (e : Edge)
  | seq (first second : Expression)
  | alt (first second : Expression)
  | group (n : Nat) (body : Expression)
  | times (body : Expression) (low : Nat) (high : Option Nat)
  /-- What a group took, once more. -/
  | again (n : Nat)
  deriving Repr, Inhabited

namespace Expression

/-! ### Matching -/

def isWordChar (c : Char) : Bool := c.isAlphanum || c = '_'

/-- Both cases of a letter. -/
def cases (c : Char) : List Char := [c, c.toLower, c.toUpper]

def CharTest.holds (anyCase : Bool) (c : Char) : CharTest → Bool
  | .any => true
  | .char e => if anyCase then e.toLower = c.toLower else e = c
  | .oneOf negated ranges =>
    let cs := if anyCase then cases c else [c]
    (cs.any fun c => ranges.any fun r => r.1 ≤ c && c ≤ r.2) != negated

/-- A place in a line, with what the groups took on the way. -/
structure Spot where
  before : Option Char
  rest : List Char
  groups : List (Nat × List Char)
  deriving Repr

def Edge.holds (s : Spot) (e : Edge) : Bool :=
  let left := s.before.any isWordChar
  let right := s.rest.head?.any isWordChar
  match e with
  | .lineStart => s.before.isNone
  | .lineEnd => s.rest.isEmpty
  | .wordEdge => left != right
  | .noWordEdge => left == right
  | .wordStart => !left && right
  | .wordEnd => left && !right

/-- The characters between a place and a later one. -/
def between (s t : Spot) : List Char := s.rest.take (s.rest.length - t.rest.length)

/-- Keeps the first of several ways to a place. -/
def distinct : List Spot → List Spot
  | [] => []
  | s :: rest => s :: (distinct rest).filter fun t => t.rest.length ≠ s.rest.length

/-- Steps over characters. -/
def Spot.over (s : Spot) (cs : List Char) : Spot :=
  { s with before := if cs.isEmpty then s.before else cs.getLast?, rest := s.rest.drop cs.length }

/-- The places after a number of steps, the most steps first. -/
def repeated (step : Spot → List Spot) (low : Nat) (high : Option Nat) :
    Nat → Nat → Spot → List Spot
  | 0, _, s => [s]
  | fuel + 1, count, s =>
    let onward := if high.any (· ≤ count) then []
      else (step s).filter fun t => count < low || t.rest.length < s.rest.length
    distinct (onward.flatMap (repeated step low high fuel (count + 1)) ++
      (if low ≤ count then [s] else []))

/-- The places where a match can end. -/
def ends (anyCase : Bool) : Expression → Spot → List Spot
  | .empty, s => [s]
  | .one test, s =>
    match s.rest with
    | c :: rest => if CharTest.holds anyCase c test then [{ s with before := some c, rest }] else []
    | [] => []
  | .edge e, s => if Edge.holds s e then [s] else []
  | .seq p q, s => distinct ((ends anyCase p s).flatMap (ends anyCase q))
  | .alt p q, s => distinct (ends anyCase p s ++ ends anyCase q s)
  | .group n body, s =>
    (ends anyCase body s).map fun t => { t with groups := (n, between s t) :: t.groups }
  | .times body low high, s =>
    repeated (ends anyCase body) low high (s.rest.length + low + 1) 0 s
  | .again n, s =>
    let taken := (s.groups.lookup n).getD []
    if taken.isPrefixOf s.rest then [s.over taken] else []

/-- The place that is farthest on. -/
def farthest : List Spot → Option Spot
  | [] => none
  | s :: rest =>
    match farthest rest with
    | none => some s
    | some t => some (if t.rest.length < s.rest.length then t else s)

/-- The longest match that begins at a place: the place where it ends. -/
def longest? (anyCase : Bool) (p : Expression) (s : Spot) : Option Spot :=
  farthest (ends anyCase p { s with groups := [] })

/-- The first match from a place on: the characters before it, where it begins, and where
it ends. -/
def findFrom (anyCase : Bool) (p : Expression) :
    Nat → Spot → Option (List Char × Spot × Spot)
  | 0, _ => none
  | fuel + 1, s =>
    match longest? anyCase p s, s.rest with
    | some t, _ => some ([], s, t)
    | none, [] => none
    | none, c :: rest =>
      (findFrom anyCase p fuel ⟨some c, rest, []⟩).map fun r => (c :: r.1, r.2)

def find? (anyCase : Bool) (p : Expression) (s : Spot) : Option (List Char × Spot × Spot) :=
  findFrom anyCase p (s.rest.length + 1) s

/-- Whether a line has a match. -/
def occursIn (anyCase : Bool) (p : Expression) (line : List Char) : Bool :=
  (find? anyCase p ⟨none, line, []⟩).isSome

/-! ### Reading -/

/-- A part of the written form. -/
inductive Token where
  | one (test : CharTest)
  | edge (e : Edge)
  | bar
  | opening
  | closing
  | times (low : Nat) (high : Option Nat)
  | again (n : Nat)
  deriving DecidableEq

/-- The ranges of a named class. -/
def classRanges (name : String) : List (Char × Char) :=
  match name with
  | "alpha" => [('A', 'Z'), ('a', 'z')]
  | "digit" => [('0', '9')]
  | "alnum" => [('0', '9'), ('A', 'Z'), ('a', 'z')]
  | "upper" => [('A', 'Z')]
  | "lower" => [('a', 'z')]
  | "space" => [('\t', '\r'), (' ', ' ')]
  | "blank" => [('\t', '\t'), (' ', ' ')]
  | "punct" => [('!', '/'), (':', '@'), ('[', '\x60'), ('\x7b', '~')]
  | "print" => [(' ', '~')]
  | "graph" => [('!', '~')]
  | "xdigit" => [('0', '9'), ('A', 'F'), ('a', 'f')]
  | _ => []

def wordRanges : List (Char × Char) := [('0', '9'), ('A', 'Z'), ('_', '_'), ('a', 'z')]

/-- The members of a set up to its closing bracket. -/
def members : Nat → Bool → List Char → Option (List (Char × Char) × List Char)
  | 0, _, _ => none
  | fuel + 1, first, cs =>
    let more (ranges : List (Char × Char)) (rest : List Char) :=
      (members fuel false rest).map fun r => (ranges ++ r.1, r.2)
    match cs with
    | [] => none
    | ']' :: rest => if first then more [(']', ']')] rest else some ([], rest)
    | '[' :: ':' :: rest =>
      let name := rest.takeWhile (· ≠ ':')
      match rest.drop name.length with
      | ':' :: ']' :: rest => more (classRanges (String.ofList name)) rest
      | _ => more [('[', '[')] (':' :: rest)
    | '\\' :: 'n' :: rest => more [('\n', '\n')] rest
    | '\\' :: 't' :: rest => more [('\t', '\t')] rest
    | low :: '-' :: high :: rest =>
      if high = ']' then more [(low, low)] ('-' :: high :: rest) else more [(low, high)] rest
    | c :: rest => more [(c, c)] rest

/-- The bounds of a repetition, up to its closing mark. -/
def bounds (close : List Char) (cs : List Char) : Option (Token × List Char) :=
  let low := cs.takeWhile Char.isDigit
  let rest := cs.drop low.length
  let lowest := (Text.digits? low).getD 0
  let (high, rest) : Option Nat × List Char := match rest with
    | ',' :: rest =>
      let high := rest.takeWhile Char.isDigit
      (Text.digits? high, rest.drop high.length)
    | rest => (some lowest, rest)
  if close.isPrefixOf rest then some (.times lowest high, rest.drop close.length) else none

/-- What a character after a backslash stands for in both notations. -/
def escaped (c : Char) : Token :=
  match c with
  | 'n' => .one (.char '\n')
  | 't' => .one (.char '\t')
  | 'w' => .one (.oneOf false wordRanges)
  | 'W' => .one (.oneOf true wordRanges)
  | 's' => .one (.oneOf false (classRanges "space"))
  | 'S' => .one (.oneOf true (classRanges "space"))
  | 'b' => .edge .wordEdge
  | 'B' => .edge .noWordEdge
  | '<' => .edge .wordStart
  | '>' => .edge .wordEnd
  | c =>
    if '1' ≤ c ∧ c ≤ '9' then .again (c.toNat - '0'.toNat) else .one (.char c)

/-- What a sign for grouping or repetition stands for. -/
def sign? (c : Char) (rest close : List Char) : Option (Token × List Char) :=
  match c with
  | '(' => some (.opening, rest)
  | ')' => some (.closing, rest)
  | '|' => some (.bar, rest)
  | '+' => some (.times 1 none, rest)
  | '?' => some (.times 0 (some 1), rest)
  | '\x7b' => bounds close rest
  | _ => none

def signs : List Char := ['(', ')', '|', '+', '?', '\x7b']

/-- Whether what was read so far begins a branch. -/
def begins (extended : Bool) (before : Option Token) : Bool :=
  before.isNone || before = some .opening || before = some .bar ||
    (!extended && before = some (.edge .lineStart))

/-- Whether a dollar sign stands at the end of a branch. -/
def endsBranch (extended : Bool) (rest : List Char) : Bool :=
  if extended then true
  else rest.isEmpty || ['\\', ')'].isPrefixOf rest || ['\\', '|'].isPrefixOf rest

def tokens (extended : Bool) : Nat → Option Token → List Char → Option (List Token)
  | 0, _, _ => none
  | _ + 1, _, [] => some []
  | fuel + 1, before, c :: rest =>
    let more (t : Token) (rest : List Char) := (tokens extended fuel (some t) rest).map (t :: ·)
    match c, rest with
    | '\\', e :: rest =>
      if !extended && signs.contains e then
        (sign? e rest ['\\', '\x7d']).bind fun r => more r.1 r.2
      else more (escaped e) rest
    | '\\', [] => none
    | '.', _ => more (.one .any) rest
    | '[', '^' :: rest =>
      (members (rest.length + 1) true rest).bind fun r => more (.one (.oneOf true r.1)) r.2
    | '[', _ =>
      (members (rest.length + 1) true rest).bind fun r => more (.one (.oneOf false r.1)) r.2
    | '*', _ =>
      if begins extended before then more (.one (.char '*')) rest else more (.times 0 none) rest
    | '^', _ =>
      if extended || before.isNone || before = some .opening || before = some .bar then
        more (.edge .lineStart) rest
      else more (.one (.char '^')) rest
    | '$', _ =>
      if endsBranch extended rest then more (.edge .lineEnd) rest else more (.one (.char '$')) rest
    | c, _ =>
      if extended && signs.contains c then
        (sign? c rest ['\x7d']).bind fun r => more r.1 r.2
      else more (.one (.char c)) rest

/-- Repeats the last of the parts read so far, which are in reverse. -/
def repeatLast (low : Nat) (high : Option Nat) : List Expression → Option (List Expression)
  | [] => none
  | p :: before => some (.times p low high :: before)

def sequence (parts : List Expression) : Expression :=
  parts.foldl (fun rest p => match rest with
    | .empty => p
    | rest => .seq p rest) .empty

def choice : List Expression → Expression
  | [] => .empty
  | [p] => p
  | p :: rest => .alt p (choice rest)

/-- The branches up to a closing bracket or the end; the parts of the branch being read are
in reverse, and `count` groups were opened. -/
def branches : Nat → Nat → List Expression → List Token →
    Option (List Expression × Nat × List Token)
  | 0, _, _, _ => none
  | fuel + 1, count, parts, ts =>
    match ts with
    | [] => some ([sequence parts], count, [])
    | .closing :: _ => some ([sequence parts], count, ts)
    | .bar :: rest => do
      let (more, count, rest) ← branches fuel count [] rest
      some (sequence parts :: more, count, rest)
    | .opening :: rest => do
      let (inner, after, rest) ← branches fuel (count + 1) [] rest
      match rest with
      | .closing :: rest => branches fuel after (.group (count + 1) (choice inner) :: parts) rest
      | _ => none
    | .times low high :: rest => do
      let parts ← repeatLast low high parts
      branches fuel count parts rest
    | .one test :: rest => branches fuel count (.one test :: parts) rest
    | .edge e :: rest => branches fuel count (.edge e :: parts) rest
    | .again n :: rest => branches fuel count (.again n :: parts) rest

/-- The pattern that a text spells. -/
def read? (extended : Bool) (cs : List Char) : Option Expression := do
  let ts ← tokens extended (cs.length + 1) none cs
  let (inner, _, rest) ← branches (ts.length + 1) 0 [] ts
  if rest.isEmpty then some (choice inner) else none

end Expression

end AgentWorkflow.Sed
