/-
Regular patterns over characters.

* `Pattern` — sets of characters, assertions on the place between two
  characters, sequence, choice and repetition.
* `Place`, `Assertion.holds` — what is known at a place in a text, and what an
  assertion says about it.
* `Pattern.times` — a pattern a given number of times over.
-/
import AgentWorkflow.Text.CharSet
import AgentWorkflow.Text.Unicode.Property

namespace AgentWorkflow

open Text (CharSet)

/-- A place in a text: the characters before and after it. -/
structure Pattern.Place where
  before : Option Char
  after : Option Char
  deriving Repr

/-- A condition on a place. -/
inductive Pattern.Assertion where
  | textStart
  | textEnd
  /-- The start of a line; lines end at a line feed. -/
  | lineStart
  | lineEnd
  /-- The start of a line; lines end at a line feed, a carriage return, or both. -/
  | anyLineStart
  | anyLineEnd
  /-- A word begins or ends here (or does not); `ascii` restricts words to the
  ASCII characters. -/
  | wordEdge (ascii : Bool)
  | noWordEdge (ascii : Bool)
  | wordStart (ascii : Bool)
  | wordEnd (ascii : Bool)
  | noWordBefore (ascii : Bool)
  | noWordAfter (ascii : Bool)
  deriving DecidableEq, Repr

/-- A pattern over characters. -/
inductive Pattern where
  | empty
  | chars (set : CharSet)
  | assert (a : Pattern.Assertion)
  | seq (first second : Pattern)
  | alt (first second : Pattern)
  /-- Any number of times, none included. -/
  | star (body : Pattern)
  deriving Repr, Inhabited

namespace Pattern

/-- The characters of words, with digits, marks and joiners. -/
def asciiWord : CharSet := [(0x30, 0x39), (0x41, 0x5A), (0x5F, 0x5F), (0x61, 0x7A)]

/-- The characters of words in any script. -/
def wordChars : CharSet :=
  CharSet.unions [Text.Unicode.Property.charsNamed "alphabetic",
    Text.Unicode.Category.charsOf [.mn, .mc, .me, .nd, .pc],
    Text.Unicode.Property.charsNamed "joincontrol"]

def isWordChar (ascii : Bool) (c : Char) : Bool :=
  if c.toNat < 0x80 then asciiWord.contains c
  else if ascii then false
  else wordChars.contains c

def Assertion.holds (p : Place) : Assertion → Bool
  | .textStart => p.before.isNone
  | .textEnd => p.after.isNone
  | .lineStart => p.before.isNone || p.before == some '\n'
  | .lineEnd => p.after.isNone || p.after == some '\n'
  | .anyLineStart =>
    p.before.isNone || p.before == some '\n' ||
      (p.before == some '\r' && p.after != some '\n')
  | .anyLineEnd =>
    p.after.isNone || p.after == some '\r' ||
      (p.after == some '\n' && p.before != some '\r')
  | .wordEdge a => p.before.any (isWordChar a) != p.after.any (isWordChar a)
  | .noWordEdge a => p.before.any (isWordChar a) == p.after.any (isWordChar a)
  | .wordStart a => !p.before.any (isWordChar a) && p.after.any (isWordChar a)
  | .wordEnd a => p.before.any (isWordChar a) && !p.after.any (isWordChar a)
  | .noWordBefore a => !p.before.any (isWordChar a)
  | .noWordAfter a => !p.after.any (isWordChar a)

def char (c : Char) : Pattern := .chars (CharSet.single c)

def seqAll (ps : List Pattern) : Pattern :=
  match ps with
  | [] => .empty
  | [p] => p
  | p :: rest => .seq p (seqAll rest)

def altAll (ps : List Pattern) : Pattern :=
  match ps with
  | [] => .empty
  | [p] => p
  | p :: rest => .alt p (altAll rest)

/-- A pattern `n` times over, put together in halves; `fuel` bounds how often
`n` can be halved. -/
def timesFrom (p : Pattern) : Nat → Nat → Pattern
  | 0, _ => .empty
  | fuel + 1, n =>
    if n = 0 then .empty
    else if n = 1 then p
    else .seq (timesFrom p fuel (n / 2)) (timesFrom p fuel (n - n / 2))

def times (p : Pattern) (n : Nat) : Pattern := timesFrom p (n.log2 + 2) n

def optional (p : Pattern) : Pattern := .alt p .empty

/-- A pattern from `low` up to `high` times, or without an upper bound. -/
def repeated (p : Pattern) (low : Nat) : Option Nat → Pattern
  | none => if low = 0 then .star p else .seq (times p (low - 1)) (.seq p (.star p))
  | some high => .seq (times p low) (times (optional p) (high - low))

end Pattern

end AgentWorkflow
