/-
The milestone section of a roadmap.

* `Roadmap.section?` — the text from the end of the first heading of level two
  that names the milestone to the next heading of level two.
* `Roadmap.mvpReached` — the section has a checked item and no unchecked one.

Design notes: the search goes by positions.  At the start of a line the heading
mark is tried; the name of the milestone may stand anywhere after it on the
line.  What follows the heading is searched for the next heading on its own, so
its first character counts as the start of a line.
-/
import AgentWorkflow.Text.Basic

namespace AgentWorkflow.Roadmap

/-- The mark of a heading of level two. -/
def headingMark : List Char := ['#', '#', ' ']

/-- The name of the milestone, in lower case. -/
def milestoneName : List Char := ['(', 'm', 'v', 'p', ')']

/-- The rest of the line at the head of a text. -/
def lineRest (cs : List Char) : List Char := cs.takeWhile (· ≠ '\n')

/-- Whether a heading of the milestone starts here. -/
def isMilestoneHeading (cs : List Char) : Bool :=
  headingMark.isPrefixOf cs &&
    Text.occursIn milestoneName ((lineRest (cs.drop headingMark.length)).map Char.toLower)

/-- What follows the first heading of the milestone.  `lineStart` says whether
a line starts here. -/
def afterHeading : Bool → List Char → Option (List Char)
  | _, [] => none
  | lineStart, c :: rest =>
    if lineStart && isMilestoneHeading (c :: rest) then
      some ((c :: rest).dropWhile (· ≠ '\n'))
    else afterHeading (c = '\n') rest

/-- The text up to the next heading of level two. -/
def upToHeading : Bool → List Char → List Char
  | _, [] => []
  | lineStart, c :: rest =>
    if lineStart && headingMark.isPrefixOf (c :: rest) then []
    else c :: upToHeading (c = '\n') rest

/-- The section of the milestone. -/
def section? (cs : List Char) : Option (List Char) :=
  (afterHeading true cs).map (upToHeading true)

def unchecked : List Char := ['[', ' ', ']']

def checkedMarks : List (List Char) := [['[', 'x', ']'], ['[', 'X', ']']]

/-- Whether the section of the milestone has a checked item and no unchecked
one. -/
def mvpReached (roadmap : String) : Bool :=
  match section? roadmap.toList with
  | none => false
  | some body =>
    !Text.occursIn unchecked body && checkedMarks.any fun mark => Text.occursIn mark body

end AgentWorkflow.Roadmap
