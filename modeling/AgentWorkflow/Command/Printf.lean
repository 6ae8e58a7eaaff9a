/-
Formatted output.

* `Printf.escape` — what stands after a backslash.
* `Printf.run` — fills a format with arguments; while arguments are left the
  format is used again.
-/
import AgentWorkflow.Command.Task

namespace AgentWorkflow.Printf

def octalDigit? (c : Char) : Option Nat :=
  if '0' ≤ c ∧ c ≤ '7' then some (c.toNat - '0'.toNat) else none

/-- Reads at most `count` octal digits. -/
def octal : Nat → Nat → List Char → Nat × List Char
  | 0, value, cs => (value, cs)
  | _, value, [] => (value, [])
  | count + 1, value, c :: rest =>
    match octalDigit? c with
    | some d => octal count (value * 8 + d) rest
    | none => (value, c :: rest)

/-- What stands after a backslash: its bytes and the rest, or `none` when the
output ends here. -/
def escape : List Char → Option (List UInt8 × List Char)
  | [] => some ([92], [])
  | 'n' :: rest => some ([10], rest)
  | 't' :: rest => some ([9], rest)
  | 'r' :: rest => some ([13], rest)
  | 'a' :: rest => some ([7], rest)
  | 'b' :: rest => some ([8], rest)
  | 'f' :: rest => some ([12], rest)
  | 'v' :: rest => some ([11], rest)
  | '\\' :: rest => some ([92], rest)
  | '"' :: rest => some ([34], rest)
  | 'c' :: _ => none
  | c :: rest =>
    match octalDigit? c with
    | some d =>
      let (value, rest) := octal 2 d rest
      some ([UInt8.ofNat value], rest)
    | none => some (92 :: Text.encode c.toString, rest)

/-- Replaces the escapes of a text.  The flag says whether output goes on. -/
def unescape : Nat → List Char → List UInt8 × Bool
  | 0, _ => ([], true)
  | _ + 1, [] => ([], true)
  | fuel + 1, '\\' :: rest =>
    match escape rest with
    | none => ([], false)
    | some (bytes, rest) =>
      let (more, goes) := unescape fuel rest
      (bytes ++ more, goes)
  | fuel + 1, c :: rest =>
    let (more, goes) := unescape fuel rest
    (Text.encode c.toString ++ more, goes)

/-- How an argument is laid out. -/
structure Layout where
  left : Bool
  zero : Bool
  width : Nat
  precision : Option Nat

/-- Fills up to the width. -/
def pad (l : Layout) (body : List UInt8) : List UInt8 :=
  let fill := List.replicate (l.width - body.length) (if l.zero && !l.left then 48 else 32)
  if l.left then body ++ fill else fill ++ body

/-- The whole number that an argument spells, 0 if it spells none. -/
def wholeOf (s : String) : Int :=
  match s.toList with
  | '-' :: rest => -((Text.digits? rest).getD 0 : Int)
  | '+' :: rest => (Text.digits? rest).getD 0
  | cs => (Text.digits? cs).getD 0

/-- The digits of a number, at least as many as the precision says. -/
def digitsOf (l : Layout) (base : Nat) (i : Int) : List UInt8 :=
  let digits := Nat.toDigits base i.natAbs
  let digits := List.replicate (l.precision.getD 1 - digits.length) '0' ++ digits
  Text.encode ((if i < 0 then "-" else "") ++ String.ofList digits)

/-- One conversion.  The flag says whether output goes on. -/
def convert (l : Layout) (conversion : Char) (arg : String) : List UInt8 × Bool :=
  let cut (bytes : List UInt8) := match l.precision with
    | some n => bytes.take n
    | none => bytes
  match conversion with
  | 's' => (pad { l with zero := false } (cut (Text.encode arg)), true)
  | 'b' =>
    let (bytes, goes) := unescape (arg.length + 1) arg.toList
    (pad { l with zero := false } (cut bytes), goes)
  | 'c' => (pad { l with zero := false } ((Text.encode arg).take 1), true)
  | 'x' => (pad l (digitsOf l 16 (wholeOf arg)), true)
  | 'o' => (pad l (digitsOf l 8 (wholeOf arg)), true)
  | _ => (pad l (digitsOf l 10 (wholeOf arg)), true)

/-- Reads flags, width, precision and the letter of a conversion. -/
def readLayout (cs : List Char) : Layout × List Char :=
  let flags := cs.takeWhile fun c => ['-', '0', '+', ' ', '#'].contains c
  let rest := cs.drop flags.length
  let width := rest.takeWhile Char.isDigit
  let rest := rest.drop width.length
  let layout : Layout :=
    ⟨flags.contains '-', flags.contains '0', (Text.digits? width).getD 0, none⟩
  match rest with
  | '.' :: rest =>
    let precision := rest.takeWhile Char.isDigit
    ({ layout with precision := some ((Text.digits? precision).getD 0) },
      rest.drop precision.length)
  | rest => (layout, rest)

/-- Goes once through a format.  Answers the bytes, the arguments that are left,
and whether output goes on. -/
def fill : Nat → List Char → List String → List UInt8 × List String × Bool
  | 0, _, args => ([], args, true)
  | _ + 1, [], args => ([], args, true)
  | fuel + 1, '\\' :: rest, args =>
    match escape rest with
    | none => ([], args, false)
    | some (bytes, rest) =>
      let (more, args, goes) := fill fuel rest args
      (bytes ++ more, args, goes)
  | fuel + 1, '%' :: '%' :: rest, args =>
    let (more, args, goes) := fill fuel rest args
    (37 :: more, args, goes)
  | fuel + 1, '%' :: rest, args =>
    let (layout, rest) := readLayout rest
    match rest with
    | [] => ([], args, false)
    | conversion :: rest =>
      let (bytes, goes) := convert layout conversion (args.headD "")
      if goes then
        let (more, args, goes) := fill fuel rest args.tail
        (bytes ++ more, args, goes)
      else (bytes, args.tail, false)
  | fuel + 1, c :: rest, args =>
    let (more, args, goes) := fill fuel rest args
    (Text.encode c.toString ++ more, args, goes)

/-- Uses a format again while it takes arguments and some are left. -/
def fillAll (format : String) : Nat → List String → List UInt8
  | 0, _ => []
  | fuel + 1, args =>
    let (bytes, left, goes) := fill (format.length + 1) format.toList args
    if goes && !left.isEmpty && left.length < args.length then
      bytes ++ fillAll format fuel left
    else bytes

def run : Program
  | [], t => (.exited 2, t.complain "sh: 1: printf: usage: printf format [arg ...]")
  | format :: args, t => (.exited 0, t.put (fillAll format (args.length + 1) args))

end AgentWorkflow.Printf
