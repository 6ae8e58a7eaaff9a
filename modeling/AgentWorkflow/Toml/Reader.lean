/-
Reading TOML documents.

* `Toml.parse?` — the members of the table that a text spells, if it spells one.

Design notes: a reader takes a list of characters and answers what it read and what is
left.  Values are read with the length of the text as fuel, since each nested value
begins behind at least one character.
-/
import AgentWorkflow.Text.Basic
import AgentWorkflow.Toml.Scalar

namespace AgentWorkflow.Toml

/-! ### Blanks and comments -/

def isSpace (c : Char) : Bool := c = ' ' || c = '\t'

def skipSpaces (cs : List Char) : List Char := cs.dropWhile isSpace

/-- The characters that may not stand in a comment or between quotes. -/
def isForbidden (c : Char) : Bool := (c.toNat < 0x20 && c ≠ '\t') || c.toNat = 0x7F

/-- Takes the end of a line. -/
def lineEnd : List Char → Option (List Char)
  | '\n' :: rest => some rest
  | '\r' :: '\n' :: rest => some rest
  | _ => none

/-- The rest behind a comment, if there is one. -/
def skipComment : List Char → Option (List Char)
  | '#' :: rest =>
    let left := rest.dropWhile fun c => !isForbidden c
    match left with
    | [] => some []
    | _ => if (lineEnd left).isSome then some left else none
  | cs => some cs

/-- The rest behind blanks, comments and line ends. -/
def skipLines : Nat → List Char → Option (List Char)
  | 0, cs => some cs
  | fuel + 1, cs => do
    let cs ← skipComment (skipSpaces cs)
    match lineEnd cs with
    | some rest => skipLines fuel rest
    | none => some cs

/-- The rest behind all that may follow the last value of a line. -/
def finishLine (cs : List Char) : Option (List Char) := do
  match ← skipComment (skipSpaces cs) with
  | [] => some []
  | cs => lineEnd cs

/-! ### Quoted texts -/

def hexDigits? (count : Nat) (cs : List Char) : Option (Char × List Char) :=
  let ds := cs.take count
  if ds.length = count && ds.all (isDigitOf 16) then
    let n := numberOf 16 ds
    if n.isValidChar then some (Char.ofNat n, cs.drop count) else none
  else none

/-- The character of an escape, without the backslash. -/
def escaped : List Char → Option (Char × List Char)
  | 'b' :: rest => some ('\x08', rest)
  | 't' :: rest => some ('\t', rest)
  | 'n' :: rest => some ('\n', rest)
  | 'f' :: rest => some ('\x0c', rest)
  | 'r' :: rest => some ('\r', rest)
  | 'e' :: rest => some ('\x1b', rest)
  | '"' :: rest => some ('"', rest)
  | '\\' :: rest => some ('\\', rest)
  | 'x' :: rest => hexDigits? 2 rest
  | 'u' :: rest => hexDigits? 4 rest
  | 'U' :: rest => hexDigits? 8 rest
  | _ => none

/-- A text in single-line quotes; in those of an apostrophe nothing is escaped. -/
def lineText (quote : Char) : Nat → List Char → List Char → Option (String × List Char)
  | 0, _, _ => none
  | _ + 1, _, [] => none
  | fuel + 1, done, c :: rest =>
    if c = quote then some (String.ofList done.reverse, rest)
    else if c = '\\' && quote = '"' then
      match escaped rest with
      | some (e, rest) => lineText quote fuel (e :: done) rest
      | none => none
    else if isForbidden c then none
    else lineText quote fuel (c :: done) rest

/-- The rest behind a line end that is escaped, with the blanks around it. -/
def foldedRest (cs : List Char) : Option (List Char) :=
  (lineEnd (skipSpaces cs)).map fun rest =>
    rest.dropWhile fun c => isSpace c || c = '\n' || c = '\r'

/-- How many quotes the text begins with. -/
def countQuotes (quote : Char) (cs : List Char) : Nat := (cs.takeWhile (· = quote)).length

/-- A text in triple quotes.  Up to two quotes may stand right before the end. -/
def blockText (quote : Char) : Nat → List Char → List Char → Option (String × List Char)
  | 0, _, _ => none
  | _ + 1, _, [] => none
  | fuel + 1, done, c :: rest =>
    if c = quote then
      let count := countQuotes quote (c :: rest)
      if count < 3 then blockText quote fuel (c :: done) rest
      else if count ≤ 5 then
        some (String.ofList (List.replicate (count - 3) quote ++ done).reverse,
          (c :: rest).drop count)
      else none
    else if c = '\\' && quote = '"' then
      match escaped rest with
      | some (e, rest) => blockText quote fuel (e :: done) rest
      | none =>
        match foldedRest rest with
        | some rest => blockText quote fuel done rest
        | none => none
    else if c = '\n' then blockText quote fuel (c :: done) rest
    else if c = '\r' then
      match lineEnd (c :: rest) with
      | some rest => blockText quote fuel ('\n' :: '\r' :: done) rest
      | none => none
    else if isForbidden c then none
    else blockText quote fuel (c :: done) rest

/-- The text behind an opening quote. -/
def quotedText (quote : Char) (cs : List Char) : Option (String × List Char) :=
  match cs with
  | a :: b :: rest =>
    if a = quote && b = quote then
      let rest := (lineEnd rest).getD rest
      blockText quote (rest.length + 1) [] rest
    else lineText quote (cs.length + 1) [] cs
  | _ => lineText quote (cs.length + 1) [] cs

/-! ### Keys -/

def isBareKey (c : Char) : Bool := c.isAlphanum || c = '_' || c = '-'

/-- One step of a key. -/
def keyStep (cs : List Char) : Option (String × List Char) :=
  match cs with
  | '"' :: rest => lineText '"' (rest.length + 1) [] rest
  | '\'' :: rest => lineText '\'' (rest.length + 1) [] rest
  | _ =>
    let word := cs.takeWhile isBareKey
    if word.isEmpty then none else some (String.ofList word, cs.drop word.length)

/-- A key with the steps between its dots. -/
def key : Nat → List Char → Option (List String × List Char)
  | 0, _ => none
  | fuel + 1, cs => do
    let (step, cs) ← keyStep (skipSpaces cs)
    match skipSpaces cs with
    | '.' :: rest => do
      let (more, rest) ← key fuel rest
      some (step :: more, rest)
    | rest => some ([step], rest)

/-! ### Values -/

/-- The characters that a word without quotes cannot hold. -/
def endsWord (c : Char) : Bool :=
  isSpace c || isForbidden c || [',', ']', '[', '\x7b', '\x7d', '#', '=', '"', '\''].contains c

/-- A word without quotes; a date goes on behind one blank with a time. -/
def wordValue (cs : List Char) : Option (Toml × List Char) :=
  let word := cs.takeWhile fun c => !endsWord c
  let rest := cs.drop word.length
  match rest with
  | ' ' :: d :: more =>
    if isDate word && d.isDigit then
      let time := (d :: more).takeWhile fun c => !endsWord c
      (ofWord? (word ++ ' ' :: time)).map fun v => (v, (d :: more).drop time.length)
    else (ofWord? word).map fun v => (v, rest)
  | _ => (ofWord? word).map fun v => (v, rest)

/-- How deep values may be nested. -/
def depthLimit : Nat := 80

mutual

/-- A value; `depth` is how many more may be nested. -/
def value : Nat → Nat → List Char → Option (Toml × List Char)
  | 0, _, _ => none
  | fuel + 1, depth, cs =>
    match cs with
    | '"' :: rest => (quotedText '"' rest).map fun (s, rest) => (.text s, rest)
    | '\'' :: rest => (quotedText '\'' rest).map fun (s, rest) => (.text s, rest)
    | '[' :: rest =>
      match depth with
      | 0 => none
      | depth + 1 => (items fuel depth rest).map fun (vs, rest) => (.list vs, rest)
    | '\x7b' :: rest =>
      match depth with
      | 0 => none
      | depth + 1 => (pairs fuel depth [] rest).map fun (members, rest) =>
          (.table (Draft.finishMembers members), rest)
    | _ => wordValue cs

/-- The items of a list up to its end. -/
def items : Nat → Nat → List Char → Option (List Toml × List Char)
  | 0, _, _ => none
  | fuel + 1, depth, cs => do
    match ← skipLines cs.length cs with
    | ']' :: rest => some ([], rest)
    | cs => do
      let (v, cs) ← value fuel depth cs
      match ← skipLines cs.length cs with
      | ']' :: rest => some ([v], rest)
      | ',' :: rest => do
        let (more, rest) ← items fuel depth rest
        some (v :: more, rest)
      | _ => none

/-- The members of a table in braces up to its end. -/
def pairs : Nat → Nat → Draft.Members → List Char → Option (Draft.Members × List Char)
  | 0, _, _, _ => none
  | fuel + 1, depth, members, cs => do
    match ← skipLines cs.length cs with
    | '\x7d' :: rest => some (members, rest)
    | cs => do
      let (k, cs) ← key cs.length cs
      let cs ← expect (· = '=') cs
      let (v, cs) ← value fuel depth (skipSpaces cs)
      let members ← Draft.put v k [] members
      match ← skipLines cs.length cs with
      | '\x7d' :: rest => some (members, rest)
      | ',' :: rest => pairs fuel depth members rest
      | _ => none

end

/-! ### Documents -/

/-- The document so far: the path of the last header, and the members of the root. -/
structure Reading where
  path : List String
  members : Draft.Members

/-- A header in single or in double brackets, without the first bracket. -/
def header (r : Reading) (cs : List Char) : Option (Reading × List Char) :=
  match cs with
  | '[' :: rest => do
    let (path, rest) ← key rest.length rest
    match rest with
    | ']' :: ']' :: rest => do
      let members ← Draft.enter Draft.openTables path r.members
      some (⟨path, members⟩, rest)
    | _ => none
  | _ => do
    let (path, rest) ← key cs.length cs
    let rest ← expect (· = ']') rest
    let members ← Draft.enter Draft.openTable path r.members
    some (⟨path, members⟩, rest)

/-- A key with its value. -/
def pair (r : Reading) (cs : List Char) : Option (Reading × List Char) := do
  let (k, cs) ← key cs.length cs
  let cs ← expect (· = '=') cs
  let (v, cs) ← value (2 * cs.length + 2) depthLimit (skipSpaces cs)
  let members ← Draft.put v k r.path r.members
  some ({ r with members }, cs)

/-- The lines of a document. -/
def document : Nat → Reading → List Char → Option Reading
  | 0, _, _ => none
  | fuel + 1, r, cs => do
    match ← skipLines cs.length cs with
    | [] => some r
    | '[' :: rest => do
      let (r, rest) ← header r rest
      document fuel r (← finishLine rest)
    | cs => do
      let (r, rest) ← pair r cs
      document fuel r (← finishLine rest)

/-- Drops the mark that may stand before a text. -/
def dropMark : List Char → List Char
  | '\uFEFF' :: rest => rest
  | cs => cs

/-- The members of the table that a text spells. -/
def parse? (s : String) : Option (List (String × Toml)) :=
  let cs := dropMark s.toList
  (document (cs.length + 1) ⟨[], []⟩ cs).map fun r => Draft.finishMembers r.members

end AgentWorkflow.Toml
