/-
JSON texts as they are written.

* `Source` — a value as it stands in a text: members in the order of writing,
  with repeated keys, and a fault at the place where reading had to stop.
* `Document.read` — the source tree of a text.
* `Source.toJson` — the value, or the first fault in the order of the text.
* `Json.parse` — both together.

Design notes: reading never fails.  A typed decoder can so walk the tree in the
order of the text and report whatever comes first there, a fault or a mismatch.
Lists and objects may be nested at most 127 deep.  The fuel of the readers is
four times the number of characters ahead: no character takes more than three
calls, so it never runs out.
-/
import AgentWorkflow.Json.Error
import AgentWorkflow.Text.Utf8

namespace AgentWorkflow.Json

/-- A value as it stands in a text, with the place of its first character. -/
inductive Source where
  | null (place : Position)
  | bool (place : Position) (value : Bool)
  | number (place : Position) (value : Number)
  | text (place : Position) (value : String)
  /-- The items, and the fault that ended them. -/
  | list (place : Position) (items : List Source) (ending : Option Fault)
  | object (place : Position) (members : List (String × Source)) (ending : Option Fault)
  /-- A value that could not be read; it has no place if nothing of it was
  there. -/
  | broken (place : Option Position) (fault : Fault)
  deriving Repr, Inhabited

/-- What is left to read, and the line and the column (in bytes) of the next
character. -/
structure Cursor where
  rest : List Char
  line : Nat
  column : Nat
  deriving Repr, Inhabited

namespace Cursor

def start (s : String) : Cursor := ⟨s.toList, 1, 0⟩

/-- Steps over the next character. -/
def next (c : Cursor) : Cursor :=
  match c.rest with
  | [] => c
  | '\n' :: rest => ⟨rest, c.line + 1, 0⟩
  | ch :: rest => ⟨rest, c.line, c.column + ch.utf8Size⟩

def skip : Nat → Cursor → Cursor
  | 0, c => c
  | n + 1, c => skip n c.next

/-- A fault just before the next character. -/
def fault (c : Cursor) (kind : FaultKind) : Fault := ⟨kind, ⟨c.line, c.column⟩⟩

/-- The place of the next character: its first byte counts as read. -/
def place (c : Cursor) : Position :=
  match c.rest with
  | [] => ⟨c.line, c.column⟩
  | '\n' :: _ => ⟨c.line + 1, 0⟩
  | _ => ⟨c.line, c.column + 1⟩

/-- A fault at the next character. -/
def faultAt (c : Cursor) (kind : FaultKind) : Fault := ⟨kind, c.place⟩

/-- A fault after the whole text. -/
def faultAtEnd (c : Cursor) (kind : FaultKind) : Fault :=
  (skip c.rest.length c).fault kind

def isSpace (ch : Char) : Bool :=
  ch = ' ' || ch = '\n' || ch = '\t' || ch = '\r'

/-- Steps over blanks. -/
def blanks (c : Cursor) : Cursor :=
  skip (c.rest.takeWhile isSpace).length c

end Cursor

/-! ### Texts -/

/-- The value of a hexadecimal digit. -/
def hexDigit? (c : Char) : Option Nat :=
  if '0' ≤ c ∧ c ≤ '9' then some (c.toNat - '0'.toNat)
  else if 'a' ≤ c ∧ c ≤ 'f' then some (c.toNat - 'a'.toNat + 10)
  else if 'A' ≤ c ∧ c ≤ 'F' then some (c.toNat - 'A'.toNat + 10)
  else none

/-- Where reading stands after some bytes. -/
def Cursor.afterBytes (c : Cursor) : List UInt8 → Cursor
  | [] => c
  | b :: rest =>
    Cursor.afterBytes (if b = 10 then { c with line := c.line + 1, column := 0 }
      else { c with column := c.column + 1 }) rest

/-- The number written by the next four hexadecimal digits.  The four are
counted in bytes, so that a longer character can be cut in two. -/
def hexEscape (c : Cursor) : Except Fault Nat × Cursor :=
  let four := (Text.encode (String.ofList (c.rest.take 4))).take 4
  if four.length < 4 then (.error (c.faultAtEnd .endInText), c)
  else
    match (c.rest.take 4).mapM hexDigit? with
    | some [a, b, d, e] => (.ok (((a * 16 + b) * 16 + d) * 16 + e), Cursor.skip 4 c)
    | _ => (.error ((c.afterBytes four).fault .badEscape), c)

/-- The character after `\u`, which may need a second escape. -/
def unicodeEscape (c : Cursor) : Except Fault Char × Cursor :=
  match hexEscape c with
  | (.error f, c) => (.error f, c)
  | (.ok n, c) =>
    if 0xDC00 ≤ n && n ≤ 0xDFFF then (.error (c.fault .loneSurrogate), c)
    else if n < 0xD800 || 0xDBFF < n then (.ok (Char.ofNat n), c)
    else
      match c.rest with
      | [] => (.error (c.fault .endInText), c)
      | '\\' :: _ =>
        let c := c.next
        match c.rest with
        | [] => (.error (c.fault .endInText), c)
        | 'u' :: _ =>
          match hexEscape c.next with
          | (.error f, c) => (.error f, c)
          | (.ok m, c) =>
            if m < 0xDC00 || 0xDFFF < m then (.error (c.fault .loneSurrogate), c)
            else (.ok (Char.ofNat ((n - 0xD800) * 1024 + (m - 0xDC00) + 0x10000)), c)
        | _ => (.error (c.faultAt .endOfEscape), c)
      | _ => (.error (c.faultAt .endOfEscape), c)

/-- The rest of a text after its opening quote.  `fuel` bounds the characters
read. -/
def readText : Nat → List Char → Cursor → Except Fault String × Cursor
  | 0, _, c => (.error (c.fault .endInText), c)
  | fuel + 1, acc, c =>
    match c.rest with
    | [] => (.error (c.fault .endInText), c)
    | '"' :: _ => (.ok (String.ofList acc.reverse), c.next)
    | '\\' :: _ =>
      let c := c.next
      match c.rest with
      | [] => (.error (c.fault .endInText), c)
      | '"' :: _ => readText fuel ('"' :: acc) c.next
      | '\\' :: _ => readText fuel ('\\' :: acc) c.next
      | '/' :: _ => readText fuel ('/' :: acc) c.next
      | 'b' :: _ => readText fuel ('\x08' :: acc) c.next
      | 'f' :: _ => readText fuel ('\x0c' :: acc) c.next
      | 'n' :: _ => readText fuel ('\n' :: acc) c.next
      | 'r' :: _ => readText fuel ('\r' :: acc) c.next
      | 't' :: _ => readText fuel ('\t' :: acc) c.next
      | 'u' :: _ =>
        match unicodeEscape c.next with
        | (.error f, c) => (.error f, c)
        | (.ok ch, c) => readText fuel (ch :: acc) c
      | _ => (.error (c.faultAt .badEscape), c)
    | ch :: _ =>
      if ch.toNat < 0x20 then (.error (c.faultAt .controlCharacter), c)
      else readText fuel (ch :: acc) c.next

/-! ### Numbers -/

/-- The largest significand that is kept exactly. -/
def significandLimit : Nat := Nat.pow 2 64 - 1

/-- Reads digits into a significand as long as it stays within the limit.
Answers the significand, the number of digits read, and the rest. -/
def takeDigits (significand count : Nat) : List Char → Nat × Nat × List Char
  | [] => (significand, count, [])
  | c :: rest =>
    if c.isDigit then
      let grown := significand * 10 + (c.toNat - '0'.toNat)
      if grown ≤ significandLimit then takeDigits grown (count + 1) rest
      else (significand, count, c :: rest)
    else (significand, count, c :: rest)

/-- The number of digits at the head. -/
def digitCount (cs : List Char) : Nat := (cs.takeWhile Char.isDigit).length

/-- The number `±significand · 10^exponent`. -/
def floatFrom (c : Cursor) (negative : Bool) (significand : Nat) (exponent : Int) :
    Except Fault Number × Cursor :=
  match Binary64.scale10 significand exponent with
  | some x => (.ok (.float (if negative then x.negate else x)), c)
  | none => (.error (c.fault .numberTooLarge), c)

/-- The largest exponent that is told apart from larger ones. -/
def exponentLimit : Nat := Nat.pow 2 31 - 1

/-- Clamps an exponent to 32 bits. -/
def clampExponent (e : Int) : Int :=
  if e > exponentLimit then exponentLimit
  else if e < -(Nat.pow 2 31 : Int) then -(Nat.pow 2 31 : Int)
  else e

/-- Reads the exponent digits while they stay within the limit.  Answers the
exponent, how many digits were read, and whether the limit was passed. -/
def takeExponent (value count : Nat) : List Char → Nat × Nat × Bool
  | [] => (value, count, false)
  | c :: rest =>
    if c.isDigit then
      let grown := value * 10 + (c.toNat - '0'.toNat)
      if grown ≤ exponentLimit then takeExponent grown (count + 1) rest
      else (value, count + 1, true)
    else (value, count, false)

/-- The rest of a number from its `e` on. -/
def exponentPart (c : Cursor) (negative : Bool) (significand : Nat) (start : Int) :
    Except Fault Number × Cursor :=
  let c := c.next
  let (down, c) := match c.rest with
    | '+' :: _ => (false, c.next)
    | '-' :: _ => (true, c.next)
    | _ => (false, c)
  match c.rest with
  | [] => (.error (c.fault .endInValue), c)
  | d :: _ =>
    if !d.isDigit then (.error (c.faultAt .badNumber), c)
    else
      let (value, count, exceeded) := takeExponent 0 0 c.rest
      let c := Cursor.skip count c
      if exceeded then
        if significand != 0 && !down then (.error (c.fault .numberTooLarge), c)
        else (.ok (.float (Binary64.zero negative)), Cursor.skip (digitCount c.rest) c)
      else
        floatFrom c negative significand
          (clampExponent (if down then start - value else start + value))

/-- The rest of a number from its point on. -/
def fractionPart (c : Cursor) (negative : Bool) (significand : Nat) (before : Int) :
    Except Fault Number × Cursor :=
  let c := c.next
  let (grown, count, rest) := takeDigits significand 0 c.rest
  let full := match rest with
    | d :: _ => d.isDigit
    | [] => false
  let after := Cursor.skip count c
  if count == 0 && !full then
    match after.rest with
    | [] => (.error (after.fault .endInValue), after)
    | _ => (.error (after.faultAt .badNumber), after)
  else
    let after := if full then Cursor.skip (digitCount rest) after else after
    let exponent := before - count
    match after.rest with
    | 'e' :: _ => exponentPart after negative grown exponent
    | 'E' :: _ => exponentPart after negative grown exponent
    | _ => floatFrom after negative grown exponent

/-- The rest of a number after its leading digits. -/
def numberTail (c : Cursor) (negative : Bool) (significand : Nat) (exponent : Nat) :
    Except Fault Number × Cursor :=
  match c.rest with
  | '.' :: _ => fractionPart c negative significand exponent
  | 'e' :: _ => exponentPart c negative significand exponent
  | 'E' :: _ => exponentPart c negative significand exponent
  | _ =>
    if exponent != 0 then floatFrom c negative significand exponent
    else if !negative then (.ok (.whole significand), c)
    else if significand == 0 || significand > Nat.pow 2 63 then floatFrom c true significand 0
    else (.ok (.whole (-significand)), c)

/-- A number, after its sign. -/
def readNumber (c : Cursor) (negative : Bool) : Except Fault Number × Cursor :=
  match c.rest with
  | [] => (.error (c.fault .endInValue), c)
  | '0' :: rest =>
    let after := c.next
    match rest with
    | d :: _ =>
      if d.isDigit then (.error (after.faultAt .badNumber), after)
      else numberTail after negative 0 0
    | [] => numberTail after negative 0 0
  | d :: _ =>
    if !d.isDigit then (.error (c.faultAt .badNumber), c)
    else
      let (significand, count, rest) := takeDigits 0 0 c.rest
      let after := Cursor.skip count c
      let more := digitCount rest
      numberTail (Cursor.skip more after) negative significand more

/-! ### Values -/

/-- The rest of a word such as `null`, after its first letter. -/
def readWord (start : Position) (value : Source) : List Char → Cursor → Source × Cursor × Bool
  | [], c => (value, c, true)
  | expected :: more, c =>
    match c.rest with
    | [] => (.broken (some start) (c.fault .endInValue), c, false)
    | ch :: _ =>
      if ch = expected then readWord start value more c.next
      else (.broken (some start) (c.faultAt .expectedWord), c, false)

/-- The deepest nesting is one less than this. -/
def depthLimit : Nat := 128

mutual

/-- One value.  The flag says whether reading can go on after it. -/
def readValue : Nat → Nat → Cursor → Source × Cursor × Bool
  | 0, _, c => (.broken none (c.fault .endInValue), c, false)
  | fuel + 1, depth, c =>
    let c := c.blanks
    let start := c.place
    match c.rest with
    | [] => (.broken none (c.fault .endInValue), c, false)
    | 'n' :: _ => readWord start (.null start) ['u', 'l', 'l'] c.next
    | 't' :: _ => readWord start (.bool start true) ['r', 'u', 'e'] c.next
    | 'f' :: _ => readWord start (.bool start false) ['a', 'l', 's', 'e'] c.next
    | '"' :: _ =>
      match readText fuel [] c.next with
      | (.ok s, c) => (.text start s, c, true)
      | (.error f, c) => (.broken (some start) f, c, false)
    | '-' :: _ =>
      match readNumber c.next true with
      | (.ok n, c) => (.number start n, c, true)
      | (.error f, c) => (.broken (some start) f, c, false)
    | '[' :: _ =>
      if depth + 1 ≥ depthLimit then (.broken (some start) (c.faultAt .tooDeep), c, false)
      else
        let (items, ending, c, whole) := readItems fuel (depth + 1) true c.next
        (.list start items ending, c, whole)
    | '\x7b' :: _ =>
      if depth + 1 ≥ depthLimit then (.broken (some start) (c.faultAt .tooDeep), c, false)
      else
        let (members, ending, c, whole) := readMembers fuel (depth + 1) true c.next
        (.object start members ending, c, whole)
    | d :: _ =>
      if d.isDigit then
        match readNumber c false with
        | (.ok n, c) => (.number start n, c, true)
        | (.error f, c) => (.broken (some start) f, c, false)
      else (.broken (some start) (c.faultAt .expectedValue), c, false)

/-- The items up to the closing bracket, the fault that ended them, and
whether reading can go on. -/
def readItems : Nat → Nat → Bool → Cursor → List Source × Option Fault × Cursor × Bool
  | 0, _, _, c => ([], some (c.fault .endInList), c, false)
  | fuel + 1, depth, first, c =>
    let c := c.blanks
    match c.rest with
    | [] => ([], some (c.fault .endInList), c, false)
    | ']' :: _ => ([], none, c.next, true)
    | ',' :: _ =>
      if first then readItem fuel depth c
      else
        let c := c.next.blanks
        match c.rest with
        | [] => ([], some (c.fault .endInValue), c, false)
        | ']' :: _ => ([], some (c.faultAt .trailingComma), c, false)
        | _ => readItem fuel depth c
    | _ =>
      if first then readItem fuel depth c
      else ([], some (c.faultAt .expectedListEnd), c, false)

/-- One item and those after it. -/
def readItem : Nat → Nat → Cursor → List Source × Option Fault × Cursor × Bool
  | 0, _, c => ([], some (c.fault .endInList), c, false)
  | fuel + 1, depth, c =>
    match readValue fuel depth c with
    | (item, c, true) =>
      let (items, ending, c, whole) := readItems fuel depth false c
      (item :: items, ending, c, whole)
    | (item, c, false) => ([item], none, c, false)

/-- The members up to the closing brace, the fault that ended them, and
whether reading can go on. -/
def readMembers :
    Nat → Nat → Bool → Cursor → List (String × Source) × Option Fault × Cursor × Bool
  | 0, _, _, c => ([], some (c.fault .endInObject), c, false)
  | fuel + 1, depth, first, c =>
    let c := c.blanks
    match c.rest with
    | [] => ([], some (c.fault .endInObject), c, false)
    | '\x7d' :: _ => ([], none, c.next, true)
    | '"' :: _ =>
      if first then readMember fuel depth c
      else ([], some (c.faultAt .expectedObjectEnd), c, false)
    | ',' :: _ =>
      if first then ([], some (c.faultAt .keyNotText), c, false)
      else
        let c := c.next.blanks
        match c.rest with
        | [] => ([], some (c.fault .endInValue), c, false)
        | '"' :: _ => readMember fuel depth c
        | '\x7d' :: _ => ([], some (c.faultAt .trailingComma), c, false)
        | _ => ([], some (c.faultAt .keyNotText), c, false)
    | _ => ([], some (c.faultAt (if first then .keyNotText else .expectedObjectEnd)), c, false)

/-- One member, whose opening quote is next, and those after it. -/
def readMember : Nat → Nat → Cursor → List (String × Source) × Option Fault × Cursor × Bool
  | 0, _, c => ([], some (c.fault .endInObject), c, false)
  | fuel + 1, depth, c =>
    match readText fuel [] c.next with
    | (.error f, c) => ([], some f, c, false)
    | (.ok key, c) =>
      let c := c.blanks
      match c.rest with
      | [] => ([(key, .broken none (c.fault .endInObject))], none, c, false)
      | ':' :: _ =>
        match readValue fuel depth c.next with
        | (value, c, true) =>
          let (members, ending, c, whole) := readMembers fuel depth false c
          ((key, value) :: members, ending, c, whole)
        | (value, c, false) => ([(key, value)], none, c, false)
      | _ => ([(key, .broken none (c.faultAt .expectedColon))], none, c, false)

end

/-- A text as one value, and the fault of what follows the value. -/
structure Document where
  root : Source
  trailing : Option Fault

/-- The source tree of a text. -/
def Document.read (s : String) : Document :=
  let c := Cursor.start s
  match readValue (4 * c.rest.length + 4) 0 c with
  | (root, c, true) =>
    let c := c.blanks
    ⟨root, if c.rest.isEmpty then none else some (c.faultAt .trailingCharacters)⟩
  | (root, _, false) => ⟨root, none⟩

mutual

/-- The value, or the first fault in the order of the text. -/
def Source.toJson : Source → Except Fault Json
  | .null _ => .ok .null
  | .bool _ b => .ok (.bool b)
  | .number _ n => .ok (.number n)
  | .text _ s => .ok (.text s)
  | .list _ items ending => do
    let values ← itemsToJson items
    match ending with
    | none => pure (.list values)
    | some f => .error f
  | .object _ members ending => do
    let values ← membersToJson members
    match ending with
    | none => pure (Json.ofMembers values)
    | some f => .error f
  | .broken _ f => .error f

def itemsToJson : List Source → Except Fault (List Json)
  | [] => .ok []
  | item :: rest => do
    let value ← item.toJson
    let values ← itemsToJson rest
    pure (value :: values)

def membersToJson : List (String × Source) → Except Fault (List (String × Json))
  | [] => .ok []
  | (key, member) :: rest => do
    let value ← member.toJson
    let values ← membersToJson rest
    pure ((key, value) :: values)

end

/-- The value that a text spells. -/
def parse (s : String) : Except Error Json :=
  let d := Document.read s
  match d.root.toJson with
  | .error f => .error (.fault f)
  | .ok value =>
    match d.trailing with
    | some f => .error (.fault f)
    | none => .ok value

end AgentWorkflow.Json
