/-
Operations on text, stated on lists of characters.

* `isBlank`, `trim` — the blank characters are those with the Unicode property
  White_Space; trimming drops them from both ends.
* `lines` — a text is cut after each line feed; the feed, and one carriage
  return right before it, are no part of the line.  A last line without a feed
  is kept as it stands.
* `replaceAll` — every occurrence of a pattern, found from left to right and
  without overlap, is replaced.
* `occurs` — whether a pattern occurs at all.

Design notes: the recursions are structural on the characters.  `replaceAll`
carries the number of characters that still belong to the occurrence just
replaced, so that no measure is needed.
-/

namespace AgentWorkflow.Text

/-- The characters with the property White_Space. -/
def isBlank (c : Char) : Bool :=
  let n := c.toNat
  (9 ≤ n && n ≤ 13) || n == 0x20 || n == 0x85 || n == 0xA0 || n == 0x1680 ||
    (0x2000 ≤ n && n ≤ 0x200A) || n == 0x2028 || n == 0x2029 || n == 0x202F ||
    n == 0x205F || n == 0x3000

/-- Drops the blank characters at the end. -/
def trimEndChars (cs : List Char) : List Char :=
  (cs.reverse.dropWhile isBlank).reverse

/-- Drops the blank characters at both ends. -/
def trimChars (cs : List Char) : List Char :=
  trimEndChars (cs.dropWhile isBlank)

def trim (s : String) : String :=
  String.ofList (trimChars s.toList)

def trimEnd (s : String) : String :=
  String.ofList (trimEndChars s.toList)

/-- A text is blank when it holds nothing but blank characters. -/
def allBlank (s : String) : Bool :=
  s.toList.all isBlank

/-- Cuts a text after each line feed.  The flag says whether a feed ended the
line; only the last line can lack it. -/
def cutLines : List Char → List (List Char × Bool)
  | [] => []
  | c :: rest =>
    if c = '\n' then ([], true) :: cutLines rest
    else
      match cutLines rest with
      | [] => [([c], false)]
      | (line, ended) :: more => (c :: line, ended) :: more

/-- Drops one carriage return at the end. -/
def dropReturn (cs : List Char) : List Char :=
  if cs.getLast? = some '\r' then cs.dropLast else cs

/-- The lines of a text, without their line ends. -/
def lineChars (cs : List Char) : List (List Char) :=
  (cutLines cs).map fun line => if line.2 then dropReturn line.1 else line.1

def lines (s : String) : List String :=
  (lineChars s.toList).map String.ofList

/-- Cuts a text at each occurrence of one character; there is always one more
piece than there are occurrences. -/
def cutAt (sep : Char) : List Char → List (List Char)
  | [] => [[]]
  | c :: rest =>
    if c = sep then [] :: cutAt sep rest
    else
      match cutAt sep rest with
      | [] => [[c]]
      | piece :: more => (c :: piece) :: more

def splitAt (sep : Char) (s : String) : List String :=
  (cutAt sep s.toList).map String.ofList

/-- Replaces `pattern`, found from left to right without overlap.  `skip`
counts the characters of the occurrence just replaced that are still ahead. -/
def replaceFrom (pattern replacement : List Char) : Nat → List Char → List Char
  | _, [] => []
  | 0, c :: rest =>
    if pattern.isPrefixOf (c :: rest) then
      replacement ++ replaceFrom pattern replacement (pattern.length - 1) rest
    else c :: replaceFrom pattern replacement 0 rest
  | skip + 1, _ :: rest => replaceFrom pattern replacement skip rest

/-- Replaces every occurrence of a non-empty pattern. -/
def replaceAll (pattern replacement s : String) : String :=
  String.ofList (replaceFrom pattern.toList replacement.toList 0 s.toList)

/-- Whether `pattern` begins at some position of the text. -/
def occursIn (pattern : List Char) : List Char → Bool
  | [] => pattern.isEmpty
  | c :: rest => pattern.isPrefixOf (c :: rest) || occursIn pattern rest

def occurs (pattern s : String) : Bool :=
  occursIn pattern.toList s.toList

/-- Whether the text begins with `head`. -/
def beginsWith (head s : String) : Bool :=
  head.toList.isPrefixOf s.toList

/-- Whether the text ends with `tail`. -/
def finishesWith (tail s : String) : Bool :=
  tail.toList.reverse.isPrefixOf s.toList.reverse

/-- The text after `head`, when it begins so. -/
def dropHead? (head s : String) : Option String :=
  if beginsWith head s then some (String.ofList (s.toList.drop head.length)) else none

/-- Lowers the letters A to Z and nothing else. -/
def lowerAscii (s : String) : String :=
  String.ofList (s.toList.map Char.toLower)

/-- The texts one after the other with `separator` between them. -/
def join (separator : String) (parts : List String) : String :=
  separator.intercalate parts

/-- The number written by decimal digits alone; `none` for an empty text or
any other character. -/
def digits? (cs : List Char) : Option Nat :=
  if cs.isEmpty || !cs.all Char.isDigit then none
  else some (cs.foldl (fun n c => n * 10 + (c.toNat - '0'.toNat)) 0)

/-- A non-negative number in decimal with an optional plus sign, at most
`limit`. -/
def natUpTo? (limit : Nat) (s : String) : Option Nat :=
  let body := match s.toList with
    | '+' :: rest => rest
    | cs => cs
  match digits? body with
  | some n => if n ≤ limit then some n else none
  | none => none

/-- Lower-case hexadecimal digits, at least `width` of them. -/
def hex (width n : Nat) : String :=
  let digits := (Nat.toDigits 16 n)
  String.ofList (List.replicate (width - digits.length) '0' ++ digits)

end AgentWorkflow.Text
