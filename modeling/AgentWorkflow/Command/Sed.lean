/-
Editing a stream line by line.

* `Sed.Machine` — the lines ahead, the line being edited, and the text held beside it.
* `Sed.runEdits` — the edits of one line.
* `Sed.editAll` — the edits of a stream.
* `Sed.run` — the editor as a program.

Design notes: the fuel of a line counts edits, because they can jump back; that of a stream
counts lines.  A line feed that the last line lacks is put in only where more is printed.
-/
import AgentWorkflow.Command.Sed.Edit
import AgentWorkflow.Command.Task

namespace AgentWorkflow.Sed

/-- A range that has begun, by the place of its edit, and its last line if that is known. -/
abbrev OpenRange := Nat × Option Nat

structure Machine where
  /-- The lines ahead; the flag says whether a line feed ended them. -/
  ahead : List (List Char × Bool)
  number : Nat
  text : List Char
  ended : Bool
  held : List Char
  printed : List Char
  /-- Whether what was printed last lacks its line feed. -/
  lacksFeed : Bool
  /-- What is printed after the line. -/
  queue : List String
  ranges : List OpenRange
  substituted : Bool

namespace Machine

def start (lines : List (List Char × Bool)) : Machine :=
  ⟨lines, 0, [], true, [], [], false, [], [], false⟩

def isLast (m : Machine) : Bool := m.ahead.isEmpty

/-- Prints characters; printed text is kept in reverse. -/
def emit (m : Machine) (cs : List Char) : Machine :=
  if cs.isEmpty then m
  else
    let printed := if m.lacksFeed then '\n' :: m.printed else m.printed
    { m with printed := cs.reverse ++ printed, lacksFeed := false }

/-- Prints a line. -/
def emitLine (m : Machine) (cs : List Char) : Machine :=
  if m.ended then m.emit (cs ++ ['\n'])
  else
    let printed := if m.lacksFeed then '\n' :: m.printed else m.printed
    { m with printed := cs.reverse ++ printed, lacksFeed := true }

/-- Prints what was put back to the end of the line. -/
def flush (m : Machine) : Machine :=
  { m.queue.foldl (fun m s => m.emit s.toList) m with queue := [] }

/-- Takes the next line. -/
def advance (m : Machine) : Option Machine :=
  match m.ahead with
  | [] => none
  | (line, ended) :: rest =>
    some { m with
      ahead := rest, number := m.number + 1, text := line, ended := ended || !rest.isEmpty }

end Machine

/-! ### Which lines an edit is for -/

def Address.names (m : Machine) : Address → Bool
  | .line n => n == m.number
  | .last => m.isLast
  | .matching p => p.pattern.occursIn p.anyCase m.text
  | .every first step =>
    if step = 0 then m.number == first
    else first ≤ m.number && (m.number - first) % step == 0

/-- The last line of a range that begins here, if it is known. -/
def RangeEnd.lastLine? (m : Machine) : RangeEnd → Option Nat
  | .at (.line n) => some n
  | .lines n => some (m.number + n)
  | .multiple n => some (if n = 0 then m.number else (m.number + n - 1) / n * n)
  | _ => none

/-- Whether a line that is not known beforehand ends a range. -/
def RangeEnd.closes (m : Machine) : RangeEnd → Bool
  | .at a => a.names m
  | _ => false

/-- Whether a range of lines has the current one. -/
def Edit.inRange (e : Edit) (place : Nat) (first : Address) (second : RangeEnd)
    (m : Machine) : Bool × Machine :=
  match m.ranges.lookup place with
  | some (some last) =>
    if m.number < last then (true, m)
    else
      let m := { m with ranges := m.ranges.filter fun r => r.1 ≠ place }
      if m.number = last then (true, m)
      else (first.names m && (second.lastLine? m).isSome && e.second.isSome, m)
  | some none =>
    (true, if second.closes m then { m with ranges := m.ranges.filter fun r => r.1 ≠ place } else m)
  | none =>
    let zero := match first with
      | .line 0 => m.number == 1
      | _ => false
    if zero && second.closes m then (true, m)
    else if zero || first.names m then
      match second.lastLine? m with
      | some last =>
        (true, if m.number < last then { m with ranges := (place, some last) :: m.ranges } else m)
      | none => (true, { m with ranges := (place, none) :: m.ranges })
    else (false, m)

/-- Whether an edit is for the current line. -/
def Edit.applies (e : Edit) (place : Nat) (m : Machine) : Bool × Machine :=
  let (named, m) := match e.first, e.second with
    | none, _ => (true, m)
    | some a, none => (a.names m, m)
    | some a, some b => e.inRange place a b m
  (named != e.negated, m)

/-! ### Substitution -/

/-- How letters are changed: until further notice, and the next one. -/
structure Voice where
  lasting : Casing
  once : Casing

def Voice.apply (v : Voice) (c : Char) : Char × Voice :=
  let way := if v.once = .none then v.lasting else v.once
  let c := match way with
    | .upper => c.toUpper
    | .nextUpper => c.toUpper
    | .lower => c.toLower
    | .nextLower => c.toLower
    | .none => c
  (c, { v with once := .none })

def Voice.applyAll (v : Voice) : List Char → List Char × Voice
  | [] => ([], v)
  | c :: rest =>
    let (c, v) := v.apply c
    let (more, v) := v.applyAll rest
    (c :: more, v)

/-- The text that a replacement stands for. -/
def replacementText (taken : List Char) (groups : List (Nat × List Char)) :
    Voice → List Substitute → List Char
  | _, [] => []
  | v, .char c :: rest =>
    let (c, v) := v.apply c
    c :: replacementText taken groups v rest
  | v, .group n :: rest =>
    let text := if n = 0 then taken else (groups.lookup n).getD []
    let (text, v) := v.applyAll text
    text ++ replacementText taken groups v rest
  | v, .casing k :: rest =>
    let v := match k with
      | .nextUpper => { v with once := k }
      | .nextLower => { v with once := k }
      | _ => ⟨k, .none⟩
    replacementText taken groups v rest

/-- Replaces the match with a number, or from it on each.  An empty match right after the
match before does not count.  Answers the text and whether anything was replaced. -/
def substituteFrom (p : Sought) (replacement : List Substitute) (which : Nat) (every : Bool) :
    Nat → Nat → Bool → Expression.Spot → List Char × Bool
  | 0, _, _, s => (s.rest, false)
  | fuel + 1, count, afterMatch, s =>
    match p.pattern.find? p.anyCase s with
    | none => (s.rest, false)
    | some (skipped, b, e) =>
      let isEmpty := e.rest.length = b.rest.length
      let onward (count : Nat) : List Char × Bool :=
        match e.rest with
        | [] => ([], false)
        | c :: rest =>
          let (more, changed) :=
            substituteFrom p replacement which every fuel count false ⟨some c, rest, []⟩
          (c :: more, changed)
      if isEmpty && afterMatch && skipped.isEmpty then onward count
      else
        let count := count + 1
        let taken := Expression.between b e
        let chosen := count = which || (every && which ≤ count)
        let text := if chosen then replacementText taken e.groups ⟨.none, .none⟩ replacement
          else taken
        let (more, changed) :=
          if chosen && !every then (e.rest, false)
          else if isEmpty then onward count
          else substituteFrom p replacement which every fuel count true { e with groups := [] }
        (skipped ++ text ++ more, chosen || changed)

def substitute (p : Sought) (replacement : List Substitute) (which : Nat) (every : Bool)
    (line : List Char) : List Char × Bool :=
  substituteFrom p replacement which every (2 * line.length + 2) 0 false ⟨none, line, []⟩

def translate (source target : List Char) (c : Char) : Char :=
  match source.findIdx? (· == c) with
  | some i => (target[i]?).getD c
  | none => c

/-! ### Lines -/

/-- What comes after the edits of a line. -/
inductive Ending where
  | printLine
  | dropLine
  /-- The edits begin again without a new line. -/
  | restart
  | quit (code : Nat) (prints : Bool)

/-- The edits after a label; no label stands for the end. -/
def afterLabel (name : String) (all : List (Nat × Edit)) : List (Nat × Edit) :=
  if name.isEmpty then []
  else
    (all.dropWhile fun e => match e.2.action with
      | .label n => n ≠ name
      | _ => true).drop 1

/-- The characters up to the first line feed, and those after it. -/
def cutFirst (cs : List Char) : List Char × Option (List Char) :=
  let line := cs.takeWhile (· ≠ '\n')
  (line, if line.length < cs.length then some (cs.drop (line.length + 1)) else none)

/-- Whether a range goes on after the current line. -/
def goesOn (place : Nat) (m : Machine) : Bool := (m.ranges.lookup place).isSome

/-- Applies the edits to a line. -/
def runEdits (quiet : Bool) (all : List (Nat × Edit)) :
    Nat → List (Nat × Edit) → Machine → Ending × Machine
  | 0, _, m => (.printLine, m)
  | _ + 1, [], m => (.printLine, m)
  | fuel + 1, (place, e) :: rest, m =>
    let (applies, m) := e.applies place m
    let onward (m : Machine) : Ending × Machine := runEdits quiet all fuel rest m
    match e.action, applies with
    | .block size, false => runEdits quiet all fuel (rest.drop size) m
    | _, false => onward m
    | .block _, true => onward m
    | .nothing, true => onward m
    | .label _, true => onward m
    | .print, true => onward (m.emitLine m.text)
    | .printFirst, true => onward (m.emit ((cutFirst m.text).1 ++ ['\n']))
    | .number, true => onward (m.emit ((toString m.number).toList ++ ['\n']))
    | .delete, true => (.dropLine, m)
    | .deleteFirst, true =>
      match (cutFirst m.text).2 with
      | none => (.dropLine, m)
      | some below => (.restart, { m with text := below })
    | .next, true =>
      if m.isLast then (.quit 0 true, m)
      else
        let m := (if quiet then m else m.emitLine m.text).flush
        match m.advance with
        | some m => onward m
        | none => (.quit 0 false, m)
    | .appendNext, true =>
      let before := m.text
      match m.flush.advance with
      | some m => onward { m with text := before ++ '\n' :: m.text }
      | none => (.quit 0 true, m)
    | .quit code silent, true => (.quit code !silent, m)
    | .holdSpace append, true =>
      onward { m with held := if append then m.held ++ '\n' :: m.text else m.text }
    | .getHeld append, true =>
      onward { m with text := if append then m.text ++ '\n' :: m.held else m.held }
    | .exchange, true => onward { m with text := m.held, held := m.text }
    | .clear, true => onward { m with text := [] }
    | .appendText s, true => onward { m with queue := m.queue ++ [s] }
    | .insertText s, true => onward (m.emit s.toList)
    | .changeText s, true =>
      (.dropLine, if e.second.isSome && !e.negated && goesOn place m then m else m.emit s.toList)
    | .translate source target, true =>
      onward { m with text := m.text.map (translate source target) }
    | .jump name none, true => runEdits quiet all fuel (afterLabel name all) m
    | .jump name (some wish), true =>
      if m.substituted = wish then
        runEdits quiet all fuel (afterLabel name all) { m with substituted := false }
      else onward { m with substituted := false }
    | .substitute p replacement which every print, true =>
      let (text, changed) := substitute p replacement which every m.text
      if changed then
        let m := { m with text, substituted := true }
        onward (if print then m.emitLine m.text else m)
      else onward m

/-- How many edits are made of one line at most. -/
def editLimit : Nat := 10000

/-- Edits line after line; answers the code to exit with. -/
def editAll (quiet : Bool) (es : List (Nat × Edit)) : Nat → Bool → Machine → Nat × Machine
  | 0, _, m => (0, m)
  | fuel + 1, again, m =>
    match (if again then some m else m.advance) with
    | none => (0, m)
    | some m =>
      let (ending, m) :=
        runEdits quiet es (editLimit + es.length) es { m with substituted := false }
      let shown := if quiet then m else m.emitLine m.text
      match ending with
      | .printLine => editAll quiet es fuel false shown.flush
      | .dropLine => editAll quiet es fuel false m.flush
      | .restart => editAll quiet es fuel true m.flush
      | .quit code prints => (code, (if prints then shown else m).flush)

/-- The edited text of some bytes, and the code to exit with. -/
def edit (quiet : Bool) (es : List Edit) (bytes : List UInt8) : Nat × String :=
  let lines := Text.cutLines (Text.decodeLossy bytes).toList
  let placed := (List.range es.length).zip es
  let (code, m) := editAll quiet placed (2 * bytes.length + 2) false (Machine.start lines)
  (code, String.ofList m.printed.reverse)

/-! ### The program -/

/-- The options, the edits and the files of a command. -/
structure Options where
  quiet : Bool
  extended : Bool
  inPlace : Bool
  scripts : List String
  files : List String

/-- Takes the letters of an option; answers whether the next argument belongs to it. -/
def readLetters (o : Options) : List Char → Options × Bool
  | [] => (o, false)
  | 'n' :: rest => readLetters { o with quiet := true } rest
  | 'E' :: rest => readLetters { o with extended := true } rest
  | 'r' :: rest => readLetters { o with extended := true } rest
  | 'i' :: _ => ({ o with inPlace := true }, false)
  | 'e' :: [] => (o, true)
  | 'e' :: rest => ({ o with scripts := o.scripts ++ [String.ofList rest] }, false)
  | _ :: rest => readLetters o rest

def readOptions (o : Options) : List String → Options
  | [] => o
  | "--quiet" :: rest => readOptions { o with quiet := true } rest
  | "--silent" :: rest => readOptions { o with quiet := true } rest
  | arg :: rest =>
    match arg.toList with
    | '-' :: letter :: letters =>
      match readLetters o (letter :: letters), rest with
      | (o, true), script :: rest => readOptions { o with scripts := o.scripts ++ [script] } rest
      | (o, _), rest => readOptions o rest
    | _ => readOptions { o with files := o.files ++ [arg] } rest

/-- The edits of several scripts, or the complaint about the first with a fault. -/
def readScripts (extended : Bool) : Nat → List String → Except String (List Edit)
  | _, [] => .ok []
  | n, script :: rest =>
    match readEdits extended script with
    | .error (message, place) =>
      .error ("sed: -e expression #" ++ toString n ++ ", char " ++ toString place ++ ": " ++
        message)
    | .ok es => do
      let more ← readScripts extended (n + 1) rest
      pure (es ++ more)

/-- Edits a file where it stands. -/
def editInPlace (quiet : Bool) (es : List Edit) (acc : Status × Task) (file : String) :
    Status × Task :=
  let (status, t) := acc
  match t.readFile file with
  | .error .isDirectory =>
    (.exited 4, t.complain ("sed: couldn't edit " ++ file ++ ": not a regular file"))
  | .error e => (.exited 4, t.complain ("sed: can't read " ++ file ++ ": " ++ e.text))
  | .ok bytes =>
    match t.disk.write file (Text.encode (edit quiet es bytes).2) with
    | .ok disk => (status, { t with disk })
    | .error e => (.exited 4, t.complain ("sed: couldn't open file " ++ file ++ ": " ++ e.text))

/-- Adds the content of a file to what was read; a line feed that is missing between two
files is put in. -/
def gather (acc : Status × Task × List UInt8) (file : String) : Status × Task × List UInt8 :=
  let (status, t, bytes) := acc
  let joined := if bytes.isEmpty || bytes.getLast? = some 10 then bytes else bytes ++ [10]
  if file = "-" then
    let (more, t) := t.readInput
    (status, t, joined ++ more)
  else
    match t.readFile file with
    | .ok more => (status, t, if more.isEmpty then bytes else joined ++ more)
    | .error .isDirectory =>
      (.exited 2, t.complain ("sed: couldn't read " ++ file ++ ": Is a directory"), bytes)
    | .error e => (.exited 2, t.complain ("sed: can't read " ++ file ++ ": " ++ e.text), bytes)

def run : Program := fun args t =>
  let o := readOptions ⟨false, false, false, [], []⟩ args
  let (scripts, files) := match o.scripts, o.files with
    | [], script :: files => ([script], files)
    | scripts, files => (scripts, files)
  match readScripts o.extended 1 scripts with
  | .error complaint => (.exited 1, t.complain complaint)
  | .ok es =>
    if scripts.isEmpty then
      (.exited 1, t.complain
        "Usage: sed [OPTION]... \x7bscript-only-if-no-other-script\x7d [input-file]...")
    else if o.inPlace then files.foldl (editInPlace o.quiet es) (.exited 0, t)
    else
      let (status, t, bytes) :=
        (if files.isEmpty then ["-"] else files).foldl gather (.exited 0, t, [])
      let (code, text) := edit o.quiet es bytes
      (if code = 0 then status else .exited code, t.putText text)

end AgentWorkflow.Sed
