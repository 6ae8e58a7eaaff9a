/-
TOML values that are written without quotes.

* `Toml.ofWord?` — a truth value, a whole number, a fraction or a moment.

Design notes: underscores may only stand between two digits.  Whole numbers may be
written in base 2, 8, 10 and 16, without a sign unless the base is 10.  A moment is a
date, a time, or both, and then perhaps with its distance from universal time.
-/
import AgentWorkflow.Decimal.Binary64
import AgentWorkflow.Text.Basic
import AgentWorkflow.Toml.Basic

namespace AgentWorkflow.Toml

/-- The digits of a base with single underscores between them. -/
def digitsOf (isDigit : Char → Bool) : List Char → Option (List Char)
  | [] => none
  | [c] => if isDigit c then some [c] else none
  | c :: '_' :: rest => if isDigit c then (digitsOf isDigit rest).map (c :: ·) else none
  | c :: rest => if isDigit c then (digitsOf isDigit rest).map (c :: ·) else none

def digitValue (c : Char) : Nat :=
  if c.isDigit then c.toNat - '0'.toNat
  else if c.isLower then c.toNat - 'a'.toNat + 10
  else c.toNat - 'A'.toNat + 10

def isDigitOf (base : Nat) (c : Char) : Bool :=
  (c.isDigit || ('a' ≤ c && c ≤ 'f') || ('A' ≤ c && c ≤ 'F')) && digitValue c < base

def numberOf (base : Nat) (digits : List Char) : Nat :=
  digits.foldl (fun n c => n * base + digitValue c) 0

/-- The least and the greatest whole number that can be kept. -/
def leastWhole : Int := -(Nat.pow 2 127 : Int)

def greatestWhole : Int := (Nat.pow 2 128 : Int) - 1

def wholeIn (i : Int) : Option Toml :=
  if leastWhole ≤ i && i ≤ greatestWhole then some (.whole i) else none

/-- Takes a sign off a number; the flag says whether it is a minus. -/
def takeSign : List Char → Bool × List Char
  | '-' :: rest => (true, rest)
  | '+' :: rest => (false, rest)
  | cs => (false, cs)

/-- Decimal digits that do not begin with a zero, unless there is only one. -/
def leadingDigits (cs : List Char) : Option (List Char) :=
  match digitsOf Char.isDigit cs with
  | some ('0' :: _ :: _) => none
  | other => other

/-- A whole number. -/
def ofWhole? (cs : List Char) : Option Toml :=
  match cs with
  | '0' :: 'x' :: rest => (digitsOf (isDigitOf 16) rest).bind fun ds => wholeIn (numberOf 16 ds)
  | '0' :: 'o' :: rest => (digitsOf (isDigitOf 8) rest).bind fun ds => wholeIn (numberOf 8 ds)
  | '0' :: 'b' :: rest => (digitsOf (isDigitOf 2) rest).bind fun ds => wholeIn (numberOf 2 ds)
  | _ =>
    let (minus, body) := takeSign cs
    (leadingDigits body).bind fun ds =>
      let n : Int := numberOf 10 ds
      wholeIn (if minus then -n else n)

/-- Cuts at the first character of a kind. -/
def cutWhere (p : Char → Bool) (cs : List Char) : List Char × List Char :=
  (cs.takeWhile fun c => !p c, cs.dropWhile fun c => !p c)

/-- Digits that may begin with zeros, and their number. -/
def fractionDigits (cs : List Char) : Option (List Char) := digitsOf Char.isDigit cs

/-- The exponent of a fraction, with its mark; none is written for none. -/
def exponentOf : List Char → Option Int
  | [] => some 0
  | _ :: rest =>
    let (minus, body) := takeSign rest
    (fractionDigits body).map fun ds =>
      let n : Int := numberOf 10 ds
      if minus then -n else n

/-- The digits behind the point; there is none, or at least one. -/
def decimalsOf : List Char → Option (List Char)
  | [] => some []
  | _ :: rest => fractionDigits rest

/-- Exponents beyond this have no effect but to make a number too great or zero. -/
def exponentLimit : Int := 100000

/-- Whether a number is not too great to be kept. -/
def isFinite (digits : List Char) (exponent : Int) : Bool :=
  let n := numberOf 10 digits
  let e := max (-exponentLimit) (min exponentLimit exponent)
  n == 0 || e < 0 && (digits.length : Int) + e < 300 || (Binary64.ofRatio false
    (n * Nat.pow 10 (min 400 e.toNat)) (Nat.pow 10 (min 100400 (-e).toNat))).isSome

def isSpecial (cs : List Char) : Bool := cs = ['i', 'n', 'f'] || cs = ['n', 'a', 'n']

/-- A number with a point, an exponent or both. -/
def ofFraction? (cs : List Char) : Option Toml :=
  let body := (takeSign cs).2
  let written := Toml.fraction (String.ofList cs)
  if isSpecial body then some written
  else
    let (before, exponent) := cutWhere (fun c => c = 'e' || c = 'E') body
    let (front, decimals) := cutWhere (· = '.') before
    if decimals.isEmpty && exponent.isEmpty then none
    else
      match leadingDigits front, decimalsOf decimals, exponentOf exponent with
      | some ds, some more, some e =>
        if isFinite (ds ++ more) (e - more.length) then some written else none
      | _, _, _ => none

/-! ### Moments -/

/-- The number that so many digits spell. -/
def fixedDigits (count : Nat) (cs : List Char) : Option (Nat × List Char) :=
  let ds := cs.take count
  if ds.length = count && ds.all Char.isDigit then some (numberOf 10 ds, cs.drop count) else none

/-- Takes one character. -/
def expect (p : Char → Bool) : List Char → Option (List Char)
  | c :: rest => if p c then some rest else none
  | [] => none

def isLeapYear (year : Nat) : Bool := year % 4 == 0 && (year % 100 != 0 || year % 400 == 0)

def daysIn (year month : Nat) : Nat :=
  if month = 2 then (if isLeapYear year then 29 else 28)
  else if [4, 6, 9, 11].contains month then 30
  else 31

/-- The rest after a date. -/
def dateRest (cs : List Char) : Option (List Char) := do
  let (year, cs) ← fixedDigits 4 cs
  let cs ← expect (· = '-') cs
  let (month, cs) ← fixedDigits 2 cs
  let cs ← expect (· = '-') cs
  let (day, cs) ← fixedDigits 2 cs
  if 1 ≤ month && month ≤ 12 && 1 ≤ day && day ≤ daysIn year month then some cs else none

/-- The rest after the parts of a second; there may be none. -/
def secondFractionRest : List Char → Option (List Char)
  | '.' :: rest =>
    if (rest.takeWhile Char.isDigit).isEmpty then none else some (rest.dropWhile Char.isDigit)
  | cs => some cs

/-- The rest after the seconds; there may be none. -/
def secondsRest : List Char → Option (List Char)
  | ':' :: rest => do
    let (second, rest) ← fixedDigits 2 rest
    if second ≤ 60 then secondFractionRest rest else none
  | cs => some cs

/-- The rest after a time of day. -/
def timeRest (cs : List Char) : Option (List Char) := do
  let (hour, cs) ← fixedDigits 2 cs
  let cs ← expect (· = ':') cs
  let (minute, cs) ← fixedDigits 2 cs
  if hour ≤ 23 && minute ≤ 59 then secondsRest cs else none

/-- The rest after the distance from universal time; there may be none. -/
def offsetRest : List Char → Option (List Char)
  | c :: rest =>
    if c = 'Z' || c = 'z' then some rest
    else if c = '+' || c = '-' then do
      let (hour, rest) ← fixedDigits 2 rest
      let rest ← expect (· = ':') rest
      let (minute, rest) ← fixedDigits 2 rest
      if hour ≤ 23 && minute ≤ 59 then some rest else none
    else none
  | [] => some []

def isMoment (cs : List Char) : Bool :=
  match dateRest cs with
  | some [] => true
  | some (c :: rest) =>
    (c = 'T' || c = 't' || c = ' ') && ((timeRest rest).bind offsetRest) == some []
  | none => timeRest cs == some []

/-- Whether a date is all that a word spells. -/
def isDate (cs : List Char) : Bool := dateRest cs == some []

/-- The value of a word without quotes. -/
def ofWord? (cs : List Char) : Option Toml :=
  if cs = "true".toList then some (.bool true)
  else if cs = "false".toList then some (.bool false)
  else if isMoment cs then some (.moment (String.ofList cs))
  else
    match ofWhole? cs with
    | some v => some v
    | none => ofFraction? cs

end AgentWorkflow.Toml
