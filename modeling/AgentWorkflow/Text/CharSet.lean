/-
Sets of characters, as ranges of code points.

* `CharSet` — ranges, ascending and apart from each other.
* `ofRanges`, `union`, `complement`, `inter`, `diff`, `symmDiff` — the usual
  operations.
* `ofRuns` — the set that a table of runs stands for.
-/

namespace AgentWorkflow.Text

/-- Ranges of code points, both ends included. -/
abbrev CharSet := List (Nat × Nat)

namespace CharSet

/-- The greatest code point. -/
def greatest : Nat := 0x10FFFF

def has (s : CharSet) (n : Nat) : Bool :=
  s.any fun r => r.1 ≤ n && n ≤ r.2

def contains (s : CharSet) (c : Char) : Bool := has s c.toNat

/-- Joins ranges that touch; the ranges ascend. -/
def coalesce : List (Nat × Nat) → CharSet
  | [] => []
  | r :: rest => go r.1 r.2 rest
where
  go (low high : Nat) : List (Nat × Nat) → CharSet
    | [] => [(low, high)]
    | (a, b) :: rest =>
      if a ≤ high + 1 then go low (max high b) rest
      else (low, high) :: go a b rest

/-- The set of the given ranges, in any order; a range whose ends are the wrong
way round is empty. -/
def ofRanges (ranges : List (Nat × Nat)) : CharSet :=
  coalesce ((ranges.filter fun r => r.1 ≤ r.2).mergeSort fun a b => a.1 ≤ b.1)

def single (c : Char) : CharSet := [(c.toNat, c.toNat)]

def everything : CharSet := [(0, greatest)]

def union (s t : CharSet) : CharSet := ofRanges (s ++ t)

def unions (sets : List CharSet) : CharSet := ofRanges sets.flatten

/-- The ranges between those of a set, from `start` on. -/
def gaps (start : Nat) : CharSet → CharSet
  | [] => if start ≤ greatest then [(start, greatest)] else []
  | (a, b) :: rest =>
    if start < a then (start, a - 1) :: gaps (b + 1) rest else gaps (b + 1) rest

def complement (s : CharSet) : CharSet := gaps 0 s

def inter (s t : CharSet) : CharSet := complement (union (complement s) (complement t))

def diff (s t : CharSet) : CharSet := inter s (complement t)

def symmDiff (s t : CharSet) : CharSet := union (diff s t) (diff t s)

/-- The value of a digit in base 36. -/
def digit36 (c : Char) : Nat :=
  if c.isDigit then c.toNat - '0'.toNat else c.toNat - 'a'.toNat + 10

/-- The numbers of a text, in base 36 with blanks between them. -/
def numbersOf (s : String) : List Nat :=
  let step := fun (acc : List Nat × Nat) (c : Char) =>
    if c = ' ' then (acc.2 :: acc.1, 0) else (acc.1, acc.2 * 36 + digit36 c)
  let (done, last) := s.toList.foldl step ([], 0)
  (last :: done).reverse

/-- The numbers of several texts. -/
def numbers (texts : List String) : List Nat := texts.flatMap numbersOf

/-- Ranges from gaps and lengths by turns. -/
def place (start : Nat) : List Nat → CharSet
  | gap :: more :: rest =>
    (start + gap, start + gap + more) :: place (start + gap + more + 1) rest
  | _ => []

/-- The set that a table of runs stands for. -/
def ofRuns (runs : List String) : CharSet := place 0 (numbers runs)

end CharSet

end AgentWorkflow.Text
