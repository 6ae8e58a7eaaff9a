/-
Matching patterns.

* `Pattern.occursIn` — whether a pattern matches some part of a text.
* `Marked` — a pattern with a mark on each set of characters that has just
  taken the last character read.

Design notes: the marks stand for all ways of matching at once, so the cost of
one character is the size of the pattern.  Every part of the text may begin a
match; so a mark enters from the left at each place.
-/
import AgentWorkflow.Pattern.Basic

namespace AgentWorkflow.Pattern

/-- A pattern whose sets of characters carry marks. -/
inductive Marked where
  | empty
  | chars (set : Text.CharSet) (mark : Bool)
  | assert (a : Assertion)
  | seq (first second : Marked)
  | alt (first second : Marked)
  | star (body : Marked)

/-- A pattern without marks. -/
def unmarked : Pattern → Marked
  | .empty => .empty
  | .chars s => .chars s false
  | .assert a => .assert a
  | .seq p q => .seq (unmarked p) (unmarked q)
  | .alt p q => .alt (unmarked p) (unmarked q)
  | .star p => .star (unmarked p)

namespace Marked

/-- Whether the pattern matches nothing at a place. -/
def matchesEmpty (place : Place) : Marked → Bool
  | .empty => true
  | .chars _ _ => false
  | .assert a => a.holds place
  | .seq p q => p.matchesEmpty place && q.matchesEmpty place
  | .alt p q => p.matchesEmpty place || q.matchesEmpty place
  | .star _ => true

/-- Whether a mark reaches the end of the pattern at a place. -/
def finished (place : Place) : Marked → Bool
  | .empty => false
  | .chars _ mark => mark
  | .assert _ => false
  | .seq p q => q.finished place || (p.finished place && q.matchesEmpty place)
  | .alt p q => p.finished place || q.finished place
  | .star p => p.finished place

/-- Moves the marks over one character.  `entering` says that a mark comes in
from the left.  Also answers whether the pattern before the move matched
nothing at the place, and whether a mark of it had reached its end. -/
def step (place : Place) (c : Char) (entering : Bool) : Marked → Marked × Bool × Bool
  | .empty => (.empty, true, false)
  | .chars s mark => (.chars s (entering && s.contains c), false, mark)
  | .assert a => (.assert a, a.holds place, false)
  | .seq p q =>
    let (p', pEmpty, pDone) := p.step place c entering
    let (q', qEmpty, qDone) := q.step place c ((entering && pEmpty) || pDone)
    (.seq p' q', pEmpty && qEmpty, qDone || (pDone && qEmpty))
  | .alt p q =>
    let (p', pEmpty, pDone) := p.step place c entering
    let (q', qEmpty, qDone) := q.step place c entering
    (.alt p' q', pEmpty || qEmpty, pDone || qDone)
  | .star p =>
    let (p', _, pDone) := p.step place c (entering || p.finished place)
    (.star p', true, pDone)

end Marked

/-- Whether a match ends at some place from here on. -/
def searchFrom (p : Marked) (before : Option Char) : List Char → Bool
  | [] => p.matchesEmpty ⟨before, none⟩ || p.finished ⟨before, none⟩
  | c :: rest =>
    let place : Place := ⟨before, some c⟩
    p.matchesEmpty place || p.finished place ||
      searchFrom (p.step place c true).1 (some c) rest

/-- Whether the pattern matches some part of the text. -/
def occursIn (p : Pattern) (s : String) : Bool :=
  searchFrom (unmarked p) none s.toList

end AgentWorkflow.Pattern
