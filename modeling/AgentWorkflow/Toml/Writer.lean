/-
Writing TOML documents.

* `Toml.quote` — a text in the plainest quotes that can hold it: double quotes, then
  apostrophes, then triple quotes, and escapes only where nothing else helps.
* `Toml.render` — the members of a table, the tables among them behind their headers.
-/
import AgentWorkflow.Text.Basic
import AgentWorkflow.Toml.Basic

namespace AgentWorkflow.Toml

/-- The longest row of a character. -/
def longestRow (c : Char) : Nat → Nat → List Char → Nat
  | longest, _, [] => longest
  | longest, row, d :: rest =>
    if d = c then longestRow c (max longest (row + 1)) (row + 1) rest
    else longestRow c longest 0 rest

/-- Whether a character can only be written by an escape. -/
def needsEscape (c : Char) : Bool :=
  (c.toNat < 0x20 && c ≠ '\t' && c ≠ '\n') || c.toNat = 0x7F

/-- A character in double quotes; in triple ones a line end stands for itself. -/
def escapeChar (isBlock : Bool) (c : Char) : List Char :=
  if c = '"' then ['\\', '"']
  else if c = '\\' then ['\\', '\\']
  else if c = '\n' then (if isBlock then ['\n'] else ['\\', 'n'])
  else if c = '\t' then ['\\', 't']
  else if c = '\r' then ['\\', 'r']
  else if c = '\x08' then ['\\', 'b']
  else if c = '\x0c' then ['\\', 'f']
  else if needsEscape c then '\\' :: 'u' :: ((Text.hex 4 c.toNat).toList.map Char.toUpper)
  else [c]

/-- A text in double quotes. -/
def basic (cs : List Char) : List Char := '"' :: cs.flatMap (escapeChar false) ++ ['"']

/-- A text in triple quotes, on lines of its own when it has several. -/
def block (quote : Char) (escape : Char → List Char) (cs : List Char) : List Char :=
  let marks := [quote, quote, quote]
  marks ++ (if cs.contains '\n' then ['\n'] else []) ++ cs.flatMap escape ++ marks

/-- A character in triple double quotes, where up to two quotes stand for
themselves. -/
def blockChar (keepQuotes : Bool) (c : Char) : List Char :=
  if c = '"' && keepQuotes then [c] else escapeChar true c

/-- A text in quotes. -/
def quoteChars (cs : List Char) : List Char :=
  let escapes := cs.any needsEscape
  let newline := cs.contains '\n'
  let backslash := cs.contains '\\'
  let doubles := longestRow '"' 0 0 cs
  let singles := longestRow '\u0027' 0 0 cs
  if !escapes && !backslash && doubles = 0 && !newline then basic cs
  else if !escapes && singles = 0 && !newline then '\u0027' :: cs ++ ['\u0027']
  else if !escapes && !backslash && doubles ≤ 2 then block '"' (blockChar true) cs
  else if !escapes && singles ≤ 2 then block '\u0027' (fun c => [c]) cs
  else if newline then block '"' (blockChar false) cs
  else basic cs

def quote (s : String) : String := String.ofList (quoteChars s.toList)

mutual

/-- A value behind its key; the items of a list stand on lines of their own. -/
def renderValue : Toml → String
  | .text s => quote s
  | .whole i => toString i
  | .fraction written => written
  | .bool true => "true"
  | .bool false => "false"
  | .moment written => written
  | .list [] => "[]"
  | .list (item :: rest) => "[\n" ++ renderItems (item :: rest) ++ "]"
  | .table [] => "\x7b\x7d"
  | .table (m :: rest) => "\x7b " ++ Text.join ", " (renderPairs (m :: rest)) ++ " \x7d"

def renderItems : List Toml → String
  | [] => ""
  | item :: rest => "    " ++ renderValue item ++ ",\n" ++ renderItems rest

def renderPairs : List (String × Toml) → List String
  | [] => []
  | (key, v) :: rest => (key ++ " = " ++ renderValue v) :: renderPairs rest

end

def isTable : Toml → Bool
  | .table _ => true
  | _ => false

/-- The members that are no tables, one to a line. -/
def renderLines (members : List (String × Toml)) : String :=
  String.join (members.filterMap fun m =>
    if isTable m.2 then none else some (m.1 ++ " = " ++ renderValue m.2 ++ "\n"))

/-- The members of a table, the tables among them behind their headers. -/
def render (members : List (String × Toml)) : String :=
  renderLines members ++ String.join (members.filterMap fun m =>
    match m.2 with
    | .table inner => some ("\n[" ++ m.1 ++ "]\n" ++ renderLines inner)
    | _ => none)

end AgentWorkflow.Toml
