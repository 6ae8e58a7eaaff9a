/-
Arithmetic expressions of scripts.

* `Arithmetic.evaluate` — the value of an expression in whole numbers of 64 bits, or what
  is wrong with it.

Design notes: operators are listed by how closely they bind, the loosest first; each level
reads its operands on the next one.  Fuel is the number of tokens times the number of
levels.
-/
import AgentWorkflow.Text.Basic

namespace AgentWorkflow.Arithmetic

/-- A part of an expression. -/
inductive Token where
  | number (value : Int64)
  | name (text : String)
  | sign (text : String)
  deriving Repr

/-- Why an expression has no value. -/
inductive Fault where
  | divisionByZero
  | expectingPrimary
  | expectingClose
  | expectingColon
  | expectingEnd
  | illegalNumber (text : String)

def Fault.message (expression : String) : Fault → String
  | .illegalNumber text => "Illegal number: " ++ text
  | f => "arithmetic expression: " ++ reason f ++ ": \"" ++ expression ++ "\""
where
  reason : Fault → String
    | .divisionByZero => "division by zero"
    | .expectingPrimary => "expecting primary"
    | .expectingClose => "expecting ')'"
    | .expectingColon => "expecting ':'"
    | .expectingEnd => "expecting EOF"
    | .illegalNumber text => text

/-! ### Tokens -/

def digitValue? (c : Char) : Option Nat :=
  if c.isDigit then some (c.toNat - '0'.toNat)
  else if 'a' ≤ c ∧ c ≤ 'f' then some (c.toNat - 'a'.toNat + 10)
  else if 'A' ≤ c ∧ c ≤ 'F' then some (c.toNat - 'A'.toNat + 10)
  else none

/-- The number that digits of a base spell. -/
def natOfDigits? (base : Nat) (cs : List Char) : Option Nat :=
  if cs.isEmpty then none
  else cs.foldlM (fun n c => (digitValue? c).bind fun d =>
    if d < base then some (n * base + d) else none) 0

/-- The number that a text spells: in hexadecimal after `0x`, in octal after `0`. -/
def nat? : List Char → Option Nat
  | '0' :: 'x' :: rest => natOfDigits? 16 rest
  | '0' :: 'X' :: rest => natOfDigits? 16 rest
  | '0' :: d :: rest => natOfDigits? 8 (d :: rest)
  | cs => natOfDigits? 10 cs

/-- The value of a variable, 0 where it is empty. -/
def valueOf (text : String) : Except Fault Int64 :=
  match (Text.trim text).toList with
  | [] => .ok 0
  | cs =>
    let (negative, digits) := match cs with
      | '-' :: rest => (true, rest)
      | '+' :: rest => (false, rest)
      | cs => (false, cs)
    match nat? digits with
    | some n => .ok (Int64.ofInt (if negative then -(n : Int) else n))
    | none => .error (.illegalNumber text)

/-- The operators, those that begin as others do after them. -/
def signs : List String :=
  ["||", "&&", "==", "!=", "<=", ">=", "<<", ">>", "|", "^", "&", "<", ">", "+", "-", "*", "/",
    "%", "!", "~", "(", ")", "?", ":"]

def tokens : Nat → List Char → Except Fault (List Token)
  | 0, _ => .ok []
  | _ + 1, [] => .ok []
  | fuel + 1, c :: rest =>
    if Text.isBlank c then tokens fuel rest
    else if c.isDigit then do
      let text := (c :: rest).takeWhile Char.isAlphanum
      let more ← tokens fuel ((c :: rest).drop text.length)
      match nat? text with
      | some n => pure (.number (Int64.ofNat n) :: more)
      | none => .error .expectingEnd
    else if c.isAlpha || c = '_' then do
      let text := (c :: rest).takeWhile fun c => c.isAlphanum || c = '_'
      let more ← tokens fuel ((c :: rest).drop text.length)
      pure (.name (String.ofList text) :: more)
    else
      match signs.find? fun s => s.toList.isPrefixOf (c :: rest) with
      | some s => do
        let more ← tokens fuel ((c :: rest).drop s.length)
        pure (.sign s :: more)
      | none => .error .expectingPrimary

/-! ### Values -/

def ofBool (b : Bool) : Int64 := if b then 1 else 0

/-- The operators between two operands by how closely they bind. -/
def levels : List (List String) :=
  [["||"], ["&&"], ["|"], ["^"], ["&"], ["==", "!="], ["<=", ">=", "<", ">"], ["<<", ">>"],
    ["+", "-"], ["*", "/", "%"]]

def apply (operator : String) (a b : Int64) : Except Fault Int64 :=
  match operator with
  | "||" => .ok (ofBool (a != 0 || b != 0))
  | "&&" => .ok (ofBool (a != 0 && b != 0))
  | "|" => .ok (a ||| b)
  | "^" => .ok (a ^^^ b)
  | "&" => .ok (a &&& b)
  | "==" => .ok (ofBool (a == b))
  | "!=" => .ok (ofBool (a != b))
  | "<=" => .ok (ofBool (a ≤ b))
  | ">=" => .ok (ofBool (b ≤ a))
  | "<" => .ok (ofBool (a < b))
  | ">" => .ok (ofBool (b < a))
  | "<<" => .ok (a <<< b)
  | ">>" => .ok (a >>> b)
  | "+" => .ok (a + b)
  | "-" => .ok (a - b)
  | "*" => .ok (a * b)
  | "/" => if b == 0 then .error .divisionByZero else .ok (a / b)
  | _ => if b == 0 then .error .divisionByZero else .ok (a % b)

mutual

/-- A choice by a condition, or an operand of the loosest level. -/
def choice (look : String → String) : Nat → List Token → Except Fault (Int64 × List Token)
  | 0, _ => .error .expectingPrimary
  | fuel + 1, ts => do
    let (test, rest) ← operand look fuel levels ts
    match rest with
    | .sign "?" :: rest => do
      let (yes, rest) ← choice look fuel rest
      match rest with
      | .sign ":" :: rest => do
        let (no, rest) ← choice look fuel rest
        pure (if test != 0 then yes else no, rest)
      | _ => .error .expectingColon
    | rest => pure (test, rest)

/-- An operand on a level. -/
def operand (look : String → String) :
    Nat → List (List String) → List Token → Except Fault (Int64 × List Token)
  | 0, _, _ => .error .expectingPrimary
  | fuel + 1, [], ts => primary look fuel ts
  | fuel + 1, level :: closer, ts => do
    let (first, rest) ← operand look fuel closer ts
    operandFrom look fuel level closer first rest

/-- The operators of a level from left to right. -/
def operandFrom (look : String → String) : Nat → List String → List (List String) → Int64 →
    List Token → Except Fault (Int64 × List Token)
  | 0, _, _, first, ts => .ok (first, ts)
  | fuel + 1, level, closer, first, ts =>
    match ts with
    | .sign s :: rest =>
      if level.contains s then do
        let (second, rest) ← operand look fuel closer rest
        let value ← apply s first second
        operandFrom look fuel level closer value rest
      else .ok (first, ts)
    | _ => .ok (first, ts)

/-- A number, a variable, an expression in brackets, or one with a sign before it. -/
def primary (look : String → String) : Nat → List Token → Except Fault (Int64 × List Token)
  | 0, _ => .error .expectingPrimary
  | fuel + 1, ts =>
    match ts with
    | .number n :: rest => .ok (n, rest)
    | .name s :: rest => (valueOf (look s)).map fun v => (v, rest)
    | .sign "(" :: rest => do
      let (value, rest) ← choice look fuel rest
      match rest with
      | .sign ")" :: rest => pure (value, rest)
      | _ => .error .expectingClose
    | .sign "-" :: rest => (primary look fuel rest).map fun r => (-r.1, r.2)
    | .sign "+" :: rest => primary look fuel rest
    | .sign "!" :: rest => (primary look fuel rest).map fun r => (ofBool (r.1 == 0), r.2)
    | .sign "~" :: rest => (primary look fuel rest).map fun r => (~~~r.1, r.2)
    | _ => .error .expectingPrimary

end

/-- The value of an expression; an empty one is 0. -/
def evaluate (look : String → String) (expression : String) : Except String Int :=
  let value : Except Fault Int64 := do
    let ts ← tokens (expression.length + 1) expression.toList
    if ts.isEmpty then pure 0
    else
      let (value, rest) ← choice look (16 * ts.length + 16) ts
      if rest.isEmpty then pure value else .error .expectingEnd
  match value with
  | .ok v => .ok v.toInt
  | .error f => .error (f.message expression)

end AgentWorkflow.Arithmetic
