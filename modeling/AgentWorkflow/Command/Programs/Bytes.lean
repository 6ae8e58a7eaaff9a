/-
Translating, dropping and squeezing bytes.

* `Programs.readSet` — the bytes that a set names, ranges and classes included.
* `Programs.tr` — the program.
-/
import AgentWorkflow.Command.Printf

namespace AgentWorkflow.Programs

/-- The bytes between two bytes. -/
def byteRange (low high : UInt8) : List UInt8 :=
  (List.range (high.toNat + 1 - low.toNat)).map fun i => UInt8.ofNat (low.toNat + i)

def letters (low high : Char) : List UInt8 :=
  byteRange (UInt8.ofNat low.toNat) (UInt8.ofNat high.toNat)

/-- The bytes of a named class. -/
def byteClass? (name : String) : Option (List UInt8) :=
  match name with
  | "upper" => some (letters 'A' 'Z')
  | "lower" => some (letters 'a' 'z')
  | "digit" => some (letters '0' '9')
  | "alpha" => some (letters 'A' 'Z' ++ letters 'a' 'z')
  | "alnum" => some (letters '0' '9' ++ letters 'A' 'Z' ++ letters 'a' 'z')
  | "space" => some [9, 10, 11, 12, 13, 32]
  | "blank" => some [9, 32]
  | "punct" => some (letters '!' '/' ++ letters ':' '@' ++ letters '[' '\x60' ++ letters '\x7b' '~')
  | "print" => some (letters ' ' '~')
  | "graph" => some (letters '!' '~')
  | "cntrl" => some (byteRange 0 31 ++ [127])
  | "xdigit" => some (letters '0' '9' ++ letters 'A' 'F' ++ letters 'a' 'f')
  | _ => none

/-- One byte of a set, with escapes. -/
def setByte? : List Char → Option (List UInt8 × List Char)
  | '\\' :: rest => Printf.escape rest
  | c :: rest => some (Text.encode c.toString, rest)
  | [] => none

/-- The bytes of a set. -/
def byteSet : Nat → List Char → List UInt8
  | 0, _ => []
  | _ + 1, [] => []
  | fuel + 1, '[' :: ':' :: rest =>
    let name := rest.takeWhile (· ≠ ':')
    match byteClass? (String.ofList name), rest.drop name.length with
    | some bytes, ':' :: ']' :: rest => bytes ++ byteSet fuel rest
    | _, _ => 91 :: 58 :: byteSet fuel rest
  | fuel + 1, cs =>
    match setByte? cs with
    | none => []
    | some (low, '-' :: rest) =>
      match setByte? rest with
      | some (high, rest) => byteRange (low.headD 0) (high.headD 0) ++ byteSet fuel rest
      | none => low ++ [45]
    | some (bytes, rest) => bytes ++ byteSet fuel rest

def readSet (s : String) : List UInt8 := byteSet (s.length + 1) s.toList

/-- The byte that stands for another: that of the same place, the last one for
all further places. -/
def translate (source target : List UInt8) (b : UInt8) : UInt8 :=
  match source.findIdx? (· == b) with
  | none => b
  | some i => (target[i]?).getD ((target.getLast?).getD b)

/-- Drops a byte of the set that repeats the one before it. -/
def squeeze (set : List UInt8) (bytes : List UInt8) : List UInt8 :=
  (bytes.foldl (fun (acc : List UInt8) b =>
    if set.contains b && acc.head? == some b then acc else b :: acc) []).reverse

/-- The bytes that are not in a set. -/
def otherBytes (set : List UInt8) : List UInt8 :=
  (byteRange 0 255).filter fun b => !set.contains b

def tr : Program := fun args t =>
  let isFlag (a : String) : Bool := Text.beginsWith "-" a && a.length > 1
  let flags := ((args.takeWhile isFlag).flatMap fun a => a.toList.drop 1)
  let sets := args.dropWhile isFlag
  let others := flags.contains 'c' || flags.contains 'C'
  let first (s : String) : List UInt8 :=
    let set := readSet s
    if others then otherBytes set else set
  match sets, flags.contains 'd', flags.contains 's' with
  | [], _, _ => (.exited 1, t.advise "tr" "missing operand")
  | [set], true, _ =>
    let (bytes, t) := t.readInput
    let set := first set
    (.exited 0, t.put (bytes.filter fun b => !set.contains b))
  | [dropped, squeezed], true, true =>
    let (bytes, t) := t.readInput
    let set := first dropped
    (.exited 0, t.put (squeeze (readSet squeezed) (bytes.filter fun b => !set.contains b)))
  | [set], false, true =>
    let (bytes, t) := t.readInput
    (.exited 0, t.put (squeeze (first set) bytes))
  | [source, target], false, squeezes =>
    let source := first source
    let target := readSet target
    if target.isEmpty then
      (.exited 1, t.complain
        "tr: when not truncating set1, string2 must be non-empty")
    else
      let (bytes, t) := t.readInput
      let translated := bytes.map (translate source target)
      (.exited 0, t.put (if squeezes then squeeze target translated else translated))
  | set :: _, _, _ =>
    (.exited 1, ((t.complain ("tr: missing operand after '" ++ set ++ "'")).complain
      "Two strings must be given when translating.").complain
      "Try 'tr --help' for more information.")

end AgentWorkflow.Programs
