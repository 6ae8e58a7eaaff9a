/-
Patterns of names.

* `NamePattern` — characters, and signs for any character, any text and one of a set.
* `NamePattern.fits` — whether a text fits a pattern.
* `NamePattern.paths` — the paths that fit a pattern, name by name.
* `NamePattern.cutStart`, `NamePattern.cutEnd` — a text without the part at one end that
  fits.
-/
import AgentWorkflow.Command.Task

namespace AgentWorkflow

/-- A sign of a pattern of names. -/
inductive NameSign where
  | char (c : Char)
  | anyChar
  | anyText
  | oneOf (negated : Bool) (ranges : List (Char × Char))
  deriving DecidableEq

abbrev NamePattern := List NameSign

namespace NamePattern

/-- The characters of a set up to its closing bracket. -/
def ranges : Nat → Bool → List Char → Option (List (Char × Char) × List Char)
  | 0, _, _ => none
  | fuel + 1, first, cs =>
    match cs with
    | [] => none
    | ']' :: rest =>
      if first then (ranges fuel false rest).map fun r => ((']', ']') :: r.1, r.2)
      else some ([], rest)
    | low :: '-' :: high :: rest =>
      if high = ']' then
        (ranges fuel false ('-' :: high :: rest)).map fun r => ((low, low) :: r.1, r.2)
      else (ranges fuel false rest).map fun r => ((low, high) :: r.1, r.2)
    | c :: rest => (ranges fuel false rest).map fun r => ((c, c) :: r.1, r.2)

/-- A set after its opening bracket. -/
def oneOf? (cs : List Char) : Option (NameSign × List Char) :=
  let (negated, cs) := match cs with
    | '!' :: rest => (true, rest)
    | '^' :: rest => (true, rest)
    | cs => (false, cs)
  (ranges (cs.length + 1) true cs).map fun r => (.oneOf negated r.1, r.2)

/-- The pattern that characters spell; those with a false flag stand for themselves. -/
def ofMarked : Nat → List (Char × Bool) → NamePattern
  | 0, _ => []
  | _ + 1, [] => []
  | fuel + 1, (c, special) :: rest =>
    if !special then .char c :: ofMarked fuel rest
    else
      match c with
      | '*' => .anyText :: ofMarked fuel rest
      | '?' => .anyChar :: ofMarked fuel rest
      | '[' =>
        match oneOf? (rest.map Prod.fst) with
        | some (sign, after) => sign :: ofMarked fuel (rest.drop (rest.length - after.length))
        | none => .char '[' :: ofMarked fuel rest
      | c => .char c :: ofMarked fuel rest

def fits : NamePattern → List Char → Bool
  | [], cs => cs.isEmpty
  | .anyText :: rest, [] => fits rest []
  | .anyText :: rest, c :: cs => fits rest (c :: cs) || fits (.anyText :: rest) cs
  | .anyChar :: rest, _ :: cs => fits rest cs
  | .char e :: rest, c :: cs => c = e && fits rest cs
  | .oneOf negated ranges :: rest, c :: cs =>
    (ranges.any (fun r => r.1 ≤ c && c ≤ r.2)) != negated && fits rest cs
  | _ :: _, [] => false
termination_by p cs => p.length + cs.length

/-- The text of a pattern without signs. -/
def plain? : NamePattern → Option (List Char)
  | [] => some []
  | .char c :: rest => (plain? rest).map (c :: ·)
  | _ => none

/-- The pattern cut at its slashes. -/
def parts : NamePattern → List NamePattern
  | [] => [[]]
  | sign :: rest =>
    if sign = .char '/' then [] :: parts rest
    else
      match parts rest with
      | [] => [[sign]]
      | part :: more => (sign :: part) :: more

/-- Whether a name is shown to a pattern: one with a dot in front only where the pattern
has it too. -/
def shows (p : NamePattern) (name : String) : Bool :=
  !Text.beginsWith "." name || p.head? = some (.char '.')

/-- The paths below `done` that fit the parts of a pattern. -/
def pathsFrom (disk : Disk) : String → List NamePattern → List String
  | done, [] => [done]
  | done, part :: rest =>
    let onward (name : String) : List String :=
      pathsFrom disk (done ++ name ++ (if rest.isEmpty then "" else "/")) rest
    match plain? part with
    | some name => onward (String.ofList name)
    | none =>
      let names := (disk.names (if done.isEmpty then "." else done)).toOption.getD []
      (names.filter fun n => shows part n && fits part n.toList).flatMap onward

/-- The paths that fit a pattern. -/
def paths (disk : Disk) (p : NamePattern) : List String :=
  (pathsFrom disk "" (parts p)).filter fun path => (disk.find path).toOption.isSome

/-- The lengths up to `n`, the least first or last. -/
def lengths (n : Nat) (longest : Bool) : List Nat :=
  let up := List.range (n + 1)
  if longest then up.reverse else up

/-- A text without the part at its start that fits. -/
def cutStart (p : NamePattern) (longest : Bool) (cs : List Char) : List Char :=
  match (lengths cs.length longest).find? fun n => fits p (cs.take n) with
  | some n => cs.drop n
  | none => cs

/-- A text without the part at its end that fits. -/
def cutEnd (p : NamePattern) (longest : Bool) (cs : List Char) : List Char :=
  match (lengths cs.length longest).find? fun n => fits p (cs.drop (cs.length - n)) with
  | some n => cs.take (cs.length - n)
  | none => cs

end NamePattern

end AgentWorkflow
