/-
Programs over lines.

* `Programs.head`, `Programs.tail` — the first and the last part of a text.
* `Programs.wc` — lines, words and bytes.
* `Programs.sort`, `Programs.grep` — lines in order, and lines with a match.
* `Programs.seq` — a row of numbers.

Design notes: lines are ordered by their bytes, and widths are counted in bytes.
-/
import AgentWorkflow.Command.Sed.Expression
import AgentWorkflow.Command.Task

namespace AgentWorkflow.Programs

/-- The first lines of some bytes. -/
def firstLines : Nat → List UInt8 → List UInt8
  | _, [] => []
  | 0, _ => []
  | n + 1, b :: rest => b :: (if b = 10 then firstLines n rest else firstLines (n + 1) rest)

/-- How much `head` shows: lines or bytes. -/
inductive Amount where
  | lines (n : Nat)
  | bytes (n : Nat)

def Amount.take : Amount → List UInt8 → List UInt8
  | .lines n, content => firstLines n content
  | .bytes n, content => content.take n

/-- The content of a file for `head`; the device of zeros has as many as are
asked for. -/
def headSource (amount : Amount) (t : Task) (file : String) : Except OsError (List UInt8) :=
  match file, amount with
  | "/dev/zero", .bytes n => .ok (List.replicate n 0)
  | _, _ => t.readFile file

def readAmount (amount : Amount) (files : List String) : List String → Amount × List String
  | [] => (amount, files)
  | "-n" :: n :: rest => readAmount (.lines ((Text.digits? n.toList).getD 0)) files rest
  | "-c" :: n :: rest => readAmount (.bytes ((Text.digits? n.toList).getD 0)) files rest
  | arg :: rest =>
    match arg.toList with
    | '-' :: 'n' :: n => readAmount (.lines ((Text.digits? n).getD 0)) files rest
    | '-' :: 'c' :: n => readAmount (.bytes ((Text.digits? n).getD 0)) files rest
    | '-' :: d :: n => readAmount (.lines ((Text.digits? (d :: n)).getD 0)) files rest
    | _ => readAmount amount (files ++ [arg]) rest

/-- The titles of several files have an empty line before them, but for the first. -/
def headTitle (files : List String) (place : Nat) (file : String) : String :=
  if files.length > 1 then (if place = 0 then "" else "\n") ++ "==> " ++ file ++ " <==\n" else ""

def head : Program := fun args t =>
  let (amount, files) := readAmount (.lines 10) [] args
  let one (acc : Status × Nat × Task) (file : String) : Status × Nat × Task :=
    let (status, place, t) := acc
    if file = "-" then
      let (bytes, t) := t.readInput
      let title := headTitle files place "standard input"
      (status, place + 1, (t.putText title).put (amount.take bytes))
    else
      match headSource amount t file with
      | .ok bytes =>
        (status, place + 1, (t.putText (headTitle files place file)).put (amount.take bytes))
      | .error .isDirectory =>
        (.exited 1, place + 1, (t.putText (headTitle files place file)).complain
          ("head: error reading '" ++ file ++ "': Is a directory"))
      | .error e =>
        (.exited 1, place, t.complain
          ("head: cannot open '" ++ file ++ "' for reading: " ++ e.text))
  let (status, _, t) := (if files.isEmpty then ["-"] else files).foldl one (.exited 0, 0, t)
  (status, t)

/-- The last lines or bytes of some bytes; after a plus sign, those from a number on. -/
def lastPart (fromStart : Bool) (amount : Amount) (content : List UInt8) : List UInt8 :=
  match fromStart, amount with
  | false, .bytes n => content.drop (content.length - n)
  | true, .bytes n => content.drop (n - 1)
  | false, .lines n =>
    let body := if content.getLast? = some 10 then content.dropLast else content
    let count := (content.filter (· == 10)).length + (if content.getLast? = some 10 then 0 else 1)
    content.drop ((firstLines (count - n) body).length)
  | true, .lines n => content.drop ((firstLines (n - 1) content).length)

/-- What `tail` shows, and of which files. -/
structure TailOptions where
  fromStart : Bool
  amount : Amount
  files : List String

def TailOptions.setAmount (o : TailOptions) (make : Nat → Amount) (n : List Char) : TailOptions :=
  match n with
  | '+' :: n => { o with fromStart := true, amount := make ((Text.digits? n).getD 0) }
  | '-' :: n => { o with fromStart := false, amount := make ((Text.digits? n).getD 0) }
  | n => { o with fromStart := false, amount := make ((Text.digits? n).getD 0) }

def readTail (o : TailOptions) : List String → TailOptions
  | [] => o
  | "-n" :: n :: rest => readTail (o.setAmount .lines n.toList) rest
  | "-c" :: n :: rest => readTail (o.setAmount .bytes n.toList) rest
  | arg :: rest =>
    match arg.toList with
    | '-' :: 'n' :: n => readTail (o.setAmount .lines n) rest
    | '-' :: 'c' :: n => readTail (o.setAmount .bytes n) rest
    | '-' :: d :: n => readTail (o.setAmount .lines (d :: n)) rest
    | _ => readTail { o with files := o.files ++ [arg] } rest

def tail : Program := fun args t =>
  let o := readTail ⟨false, .lines 10, []⟩ args
  let one (acc : Status × Nat × Task) (file : String) : Status × Nat × Task :=
    let (status, place, t) := acc
    let shown (title : String) (bytes : List UInt8) (t : Task) : Status × Nat × Task :=
      (status, place + 1,
        (t.putText (headTitle o.files place title)).put (lastPart o.fromStart o.amount bytes))
    if file = "-" then
      let (bytes, t) := t.readInput
      shown "standard input" bytes t
    else
      match t.readFile file with
      | .ok bytes => shown file bytes t
      | .error .isDirectory =>
        (.exited 1, place + 1, (t.putText (headTitle o.files place file)).complain
          ("tail: error reading '" ++ file ++ "': Is a directory"))
      | .error e =>
        (.exited 1, place, t.complain
          ("tail: cannot open '" ++ file ++ "' for reading: " ++ e.text))
  let (status, _, t) := (if o.files.isEmpty then ["-"] else o.files).foldl one (.exited 0, 0, t)
  (status, t)

/-- Lines, words and bytes. -/
def countAll (bytes : List UInt8) : Nat × Nat × Nat :=
  let blank (b : UInt8) : Bool := b == 32 || (9 ≤ b && b ≤ 13)
  let (lines, words, size, _) := bytes.foldl (fun (lines, words, size, inWord) b =>
    (if b == 10 then lines + 1 else lines,
      if !blank b && !inWord then words + 1 else words,
      size + 1, !blank b)) (0, 0, 0, false)
  (lines, words, size)

def padLeft (width : Nat) (s : String) : String :=
  String.ofList (List.replicate (width - s.length) ' ') ++ s

/-- Lines, words and bytes of a text, or of several together. -/
abbrev Counts := Nat × Nat × Nat

def addCounts (a b : Counts) : Counts := (a.1 + b.1, a.2.1 + b.2.1, a.2.2 + b.2.2)

/-- The counts that were asked for. -/
def wanted (flags : List Char) (c : Counts) : List Nat :=
  let flags := if flags.isEmpty then ['l', 'w', 'c'] else flags
  (if flags.contains 'l' then [c.1] else []) ++
    (if flags.contains 'w' then [c.2.1] else []) ++
    (if flags.contains 'm' then [c.2.2] else []) ++
    (if flags.contains 'c' then [c.2.2] else [])

/-- Counts on a line, with the name of their file. -/
def showCounts (flags : List Char) (width : Nat) (name : String) (c : Counts) : String :=
  Text.join " " ((wanted flags c).map fun n => padLeft width (toString n)) ++
    (if name.isEmpty then "" else " " ++ name) ++ "\n"

/-- How wide the counts are: as the size of all files together, and wider where the size of
something is not known beforehand. -/
def countWidth (flags : List Char) (files : List String) (t : Task) : Nat :=
  let files := if files.isEmpty then ["-"] else files
  if files.length = 1 && (wanted flags (0, 0, 0)).length = 1 then 1
  else
    let sizes := files.map fun file =>
      if file = "-" then (if t.fromFile then some t.input.length else none)
      else
        match t.disk.read file with
        | .ok bytes => some bytes.length
        | .error .notFound => some 0
        | .error _ => none
    let digits := (toString ((sizes.map fun s => s.getD 0).foldl (· + ·) 0)).length
    if sizes.any Option.isNone then max digits 7 else digits

def wc : Program := fun args t =>
  let isFlag (a : String) : Bool := Text.beginsWith "-" a && a != "-"
  let flags := (args.filter isFlag).flatMap fun a => a.toList.drop 1
  let files := args.filter fun a => !isFlag a
  let width := countWidth flags files t
  let one (acc : Status × Counts × Task) (file : String) : Status × Counts × Task :=
    let (status, total, t) := acc
    if file = "-" then
      let (bytes, t) := t.readInput
      let counts := countAll bytes
      let name := if files.isEmpty then "" else "-"
      (status, addCounts total counts, t.putText (showCounts flags width name counts))
    else
      match t.readFile file with
      | .ok bytes =>
        let counts := countAll bytes
        (status, addCounts total counts, t.putText (showCounts flags width file counts))
      | .error e =>
        let t := t.complain ("wc: " ++ file ++ ": " ++ e.text)
        (.exited 1, total,
          if e = .isDirectory then t.putText (showCounts flags width file (0, 0, 0)) else t)
  let (status, total, t) :=
    (if files.isEmpty then ["-"] else files).foldl one (.exited 0, (0, 0, 0), t)
  (status, if files.length > 1 then t.putText (showCounts flags width "total" total) else t)

/-! ### Order -/

/-- The lines of some bytes, without their line feeds. -/
def byteLines (bytes : List UInt8) : List (List UInt8) :=
  let (line, lines) := bytes.foldr (fun b (acc : List UInt8 × List (List UInt8)) =>
    if b == 10 then ([], acc.1 :: acc.2) else (b :: acc.1, acc.2))
    (([] : List UInt8), ([] : List (List UInt8)))
  match bytes.getLast?, (line :: lines).reverse with
  | some 10, _ :: before => before.reverse
  | none, _ => []
  | _, all => all.reverse

/-- The order of bytes: a line comes before those that it begins. -/
def bytesNotAfter : List UInt8 → List UInt8 → Bool
  | [], _ => true
  | _ :: _, [] => false
  | a :: p, b :: q => a < b || (a == b && bytesNotAfter p q)

/-- The number that a line begins with, in millionths. -/
def leadingNumber (line : List UInt8) : Int :=
  let cs := (line.map fun b => Char.ofNat b.toNat).dropWhile fun c => c = ' ' || c = '\t'
  let (negative, cs) := match cs with
    | '-' :: rest => (true, rest)
    | cs => (false, cs)
  let whole := cs.takeWhile Char.isDigit
  let fraction := match cs.drop whole.length with
    | '.' :: rest => (rest.takeWhile Char.isDigit).take 6
    | _ => []
  let padded := fraction ++ List.replicate (6 - fraction.length) '0'
  let n : Int := ((Text.digits? (whole ++ padded)).getD 0 : Nat)
  if negative then -n else n

/-- Drops a line with the same key as the one before it. -/
def dropRepeats (same : List UInt8 → List UInt8 → Bool) (lines : List (List UInt8)) :
    List (List UInt8) :=
  (lines.foldl (fun (acc : List (List UInt8)) line =>
    if acc.head?.any (same line) then acc else line :: acc) []).reverse

def sortLines (letters : List Char) (lines : List (List UInt8)) : List (List UInt8) :=
  let numeric := letters.contains 'n'
  let key (line : List UInt8) : List UInt8 :=
    if letters.contains 'f' then
      line.map fun b => if 97 ≤ b && b ≤ 122 then b - 32 else b
    else line
  let same (a b : List UInt8) : Bool :=
    if numeric then leadingNumber a == leadingNumber b else key a == key b
  let once := letters.contains 'u'
  let notAfter (a b : List UInt8) : Bool :=
    if same a b then once || bytesNotAfter a b
    else if numeric then decide (leadingNumber a ≤ leadingNumber b)
    else bytesNotAfter (key a) (key b)
  let order (a b : List UInt8) : Bool :=
    if !letters.contains 'r' then notAfter a b
    else if once && same a b then true
    else notAfter b a
  let sorted := lines.mergeSort order
  if once then dropRepeats same sorted else sorted

def sort : Program := fun args t =>
  let isFlag (a : String) : Bool := Text.beginsWith "-" a && a != "-"
  let letters := (args.filter isFlag).flatMap fun a => a.toList.drop 1
  let files := args.filter fun a => !isFlag a
  let gather (acc : Except (String × OsError) (List (List UInt8)) × Task) (file : String) :
      Except (String × OsError) (List (List UInt8)) × Task :=
    let (lines, t) := acc
    if file = "-" then
      let (bytes, t) := t.readInput
      (lines.map (· ++ byteLines bytes), t)
    else
      match lines, t.readFile file with
      | .ok lines, .ok bytes => (.ok (lines ++ byteLines bytes), t)
      | .ok _, .error e => (.error (file, e), t)
      | .error e, _ => (.error e, t)
  match (if files.isEmpty then ["-"] else files).foldl gather (.ok [], t) with
  | (.ok lines, t) => (.exited 0, t.put ((sortLines letters lines).flatMap (· ++ [10])))
  | (.error (file, .isDirectory), t) =>
    (.exited 2, t.complain ("sort: read failed: " ++ file ++ ": Is a directory"))
  | (.error (file, e), t) =>
    (.exited 2, t.complain ("sort: cannot read: " ++ file ++ ": " ++ e.text))

/-! ### Lines with a match -/

structure GrepOptions where
  letters : List Char
  patterns : List String
  files : List String

/-- Takes the letters of an option; answers whether a pattern comes next. -/
def GrepOptions.take (o : GrepOptions) : List Char → GrepOptions × Bool
  | [] => (o, false)
  | ['e'] => (o, true)
  | 'e' :: pattern => ({ o with patterns := o.patterns ++ [String.ofList pattern] }, false)
  | c :: rest => { o with letters := c :: o.letters }.take rest

def readGrep (o : GrepOptions) : List String → GrepOptions
  | [] => o
  | "--" :: rest => { o with files := o.files ++ rest }
  | arg :: rest =>
    match arg.toList with
    | '-' :: c :: more =>
      match o.take (c :: more), rest with
      | (o, true), pattern :: rest => readGrep { o with patterns := o.patterns ++ [pattern] } rest
      | (o, _), rest => readGrep o rest
    | _ => readGrep { o with files := o.files ++ [arg] } rest

/-- The pattern for lines: any of some patterns, of which each stands on a line. -/
def linePattern? (letters : List Char) (patterns : List String) : Option Sed.Expression :=
  let one (cs : List Char) : Option Sed.Expression :=
    if letters.contains 'F' then
      some (Sed.Expression.sequence (cs.reverse.map fun c => .one (.char c)))
    else Sed.Expression.read? (letters.contains 'E') cs
  let around (edge first : Sed.Edge) (p : Sed.Expression) : Sed.Expression :=
    .seq (.edge first) (.seq p (.edge edge))
  let bounded (p : Sed.Expression) : Sed.Expression :=
    if letters.contains 'x' then around .lineEnd .lineStart p
    else if letters.contains 'w' then around .wordEnd .wordStart p
    else p
  (patterns.flatMap fun p => Text.cutAt '\n' p.toList).mapM one |>.map fun ps =>
    bounded (Sed.Expression.choice ps)

/-- The parts of a line that match. -/
def matchesIn (anyCase : Bool) (p : Sed.Expression) :
    Nat → Sed.Expression.Spot → List (List Char)
  | 0, _ => []
  | fuel + 1, s =>
    match p.find? anyCase s with
    | none => []
    | some (_, b, e) =>
      if e.rest.length < b.rest.length then
        Sed.Expression.between b e :: matchesIn anyCase p fuel { e with groups := [] }
      else
        match e.rest with
        | [] => []
        | c :: rest => matchesIn anyCase p fuel ⟨some c, rest, []⟩

/-- What is shown of a text whose lines are searched, and whether one was selected. -/
def grepText (letters : List Char) (p : Sed.Expression) (title label : String)
    (bytes : List UInt8) : String × Bool :=
  let has (c : Char) : Bool := letters.contains c
  let lines := (Text.cutLines (Text.decodeLossy bytes).toList).map (·.1)
  let numbered := (List.range lines.length).zip lines
  let chosen := numbered.filter fun l => p.occursIn (has 'i') l.2 != has 'v'
  let head (n : Nat) : String := title ++ (if has 'n' then toString (n + 1) ++ ":" else "")
  let text :=
    if has 'q' then ""
    else if has 'l' then (if chosen.isEmpty then "" else label ++ "\n")
    else if has 'c' then title ++ toString chosen.length ++ "\n"
    else if has 'o' then
      String.join (chosen.flatMap fun l =>
        if has 'v' then []
        else (matchesIn (has 'i') p (l.2.length + 1) ⟨none, l.2, []⟩).map fun part =>
          head l.1 ++ String.ofList part ++ "\n")
    else String.join (chosen.map fun l => head l.1 ++ String.ofList l.2 ++ "\n")
  (text, !chosen.isEmpty)

def grep : Program := fun args t =>
  let o := readGrep ⟨[], [], []⟩ args
  let (patterns, files) := match o.patterns, o.files with
    | [], pattern :: files => ([pattern], files)
    | patterns, files => (patterns, files)
  let named := (files.length > 1 || o.letters.contains 'H') && !o.letters.contains 'h'
  let complain (t : Task) (s : String) : Task :=
    if o.letters.contains 's' then t else t.complain s
  match linePattern? o.letters patterns with
  | none => (.exited 2, t.complain "grep: Invalid regular expression")
  | some p =>
    if patterns.isEmpty then
      (.exited 2, (t.complain "Usage: grep [OPTION]... PATTERNS [FILE]...").complain
        "Try 'grep --help' for more information.")
    else
      let search (acc : Bool × Bool × Task) (label : String) (bytes : List UInt8) (t : Task) :
          Bool × Bool × Task :=
        let (text, found) :=
          grepText o.letters p (if named then label ++ ":" else "") label bytes
        (acc.1 || found, acc.2.1, t.putText text)
      let one (acc : Bool × Bool × Task) (file : String) : Bool × Bool × Task :=
        if file = "-" then
          let (bytes, t) := acc.2.2.readInput
          search acc "(standard input)" bytes t
        else
          match acc.2.2.readFile file with
          | .ok bytes => search acc file bytes acc.2.2
          | .error e => (acc.1, true, complain acc.2.2 ("grep: " ++ file ++ ": " ++ e.text))
      let (found, failed, t) := (if files.isEmpty then ["-"] else files).foldl one (false, false, t)
      let code := if failed && !(found && o.letters.contains 'q') then 2 else if found then 0 else 1
      (.exited code, t)

/-! ### Numbers -/

def integer? (s : String) : Option Int :=
  match s.toList with
  | '-' :: digits => (Text.digits? digits).map fun n => -(n : Int)
  | '+' :: digits => (Text.digits? digits).map fun n => (n : Int)
  | digits => (Text.digits? digits).map fun n => (n : Int)

/-- The numbers from one to another, by a step that is not zero. -/
def numbersFrom (first step last : Int) : List Int :=
  let distance := if 0 < step then last - first else first - last
  if distance < 0 then []
  else (List.range ((distance / step.natAbs).toNat + 1)).map fun (i : Nat) => first + step * i

def seqSeparator (args : List String) : String × List String :=
  match args with
  | "-s" :: separator :: rest => (separator, rest)
  | args =>
    match args.head?.bind (Text.dropHead? "-s") with
    | some separator => (separator, args.drop 1)
    | none => ("\n", args)

def seq : Program := fun args t =>
  let (separator, args) := seqSeparator args
  let shown (first step last : Int) : Status × Task :=
    let numbers := (numbersFrom first step last).map toString
    (.exited 0, if numbers.isEmpty then t else t.putText (Text.join separator numbers ++ "\n"))
  match args.find? fun a => (integer? a).isNone with
  | some faulty =>
    (.exited 1, t.advise "seq" ("invalid floating point argument: '" ++ faulty ++ "'"))
  | none =>
    match args.filterMap integer? with
    | [] => (.exited 1, t.advise "seq" "missing operand")
    | [last] => shown 1 1 last
    | [first, last] => shown first 1 last
    | [first, step, last] =>
      if step = 0 then
        (.exited 1, t.advise "seq" ("invalid Zero increment value: '" ++ args.getD 1 "" ++ "'"))
      else shown first step last
    | _ => (.exited 1, t.advise "seq" ("extra operand '" ++ args.getD 3 "" ++ "'"))

end AgentWorkflow.Programs
