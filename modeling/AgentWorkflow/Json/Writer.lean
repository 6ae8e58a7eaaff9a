/-
The written form of JSON values: no blanks, members in the order of their keys.

* `Json.Number.render` — a floating-point number has the fewest digits that
  read back.  It is written positionally from 10^-5 up to below 10^16, always
  with a point, and otherwise with a signed exponent.
* `Json.render` — the written form of a value.
* `Json.quote` — a text between quotes; only quotes, backslashes and control
  characters are escaped.
-/
import AgentWorkflow.Json.Basic
import AgentWorkflow.Text.Basic

namespace AgentWorkflow.Json

/-- The written form of `0.d₁d₂… · 10^point` where `digits` are `d₁d₂…`. -/
def placePoint (digits : List Char) (point : Int) : String :=
  let count : Int := digits.length
  if -5 < point && point ≤ 16 then
    if point ≤ 0 then
      String.ofList ('0' :: '.' :: List.replicate (-point).toNat '0' ++ digits)
    else if count ≤ point then
      String.ofList (digits ++ List.replicate (point - count).toNat '0' ++ ['.', '0'])
    else
      String.ofList (digits.take point.toNat ++ '.' :: digits.drop point.toNat)
  else
    let exponent := point - 1
    let mark := if exponent < 0 then "e-" else "e+"
    let fraction := match digits with
      | [] => []
      | [d] => [d]
      | d :: rest => d :: '.' :: rest
    String.ofList fraction ++ mark ++ toString exponent.natAbs

/-- The written form of a floating-point number. -/
def renderFloat (x : Binary64) : String :=
  let body :=
    if x.isZero then "0.0"
    else
      let d := x.shortest
      let digits := (toString d.digits).toList
      placePoint digits (d.exponent + digits.length)
  if x.negative then "-" ++ body else body

def Number.render : Number → String
  | .whole i => toString i
  | .float x => renderFloat x

/-- A character inside quotes. -/
def escapeChar (c : Char) : List Char :=
  if c = '"' then ['\\', '"']
  else if c = '\\' then ['\\', '\\']
  else if c = '\n' then ['\\', 'n']
  else if c = '\r' then ['\\', 'r']
  else if c = '\t' then ['\\', 't']
  else if c = '\x08' then ['\\', 'b']
  else if c = '\x0c' then ['\\', 'f']
  else if c.toNat < 0x20 then '\\' :: 'u' :: (Text.hex 4 c.toNat).toList
  else [c]

/-- A text between quotes. -/
def quote (s : String) : String :=
  String.ofList ('"' :: s.toList.flatMap escapeChar ++ ['"'])

mutual

/-- The written form of a value. -/
def render : Json → String
  | .null => "null"
  | .bool true => "true"
  | .bool false => "false"
  | .number n => n.render
  | .text s => quote s
  | .list items => "[" ++ Text.join "," (renderItems items) ++ "]"
  | .object members => "\x7b" ++ Text.join "," (renderMembers members) ++ "\x7d"

def renderItems : List Json → List String
  | [] => []
  | item :: rest => render item :: renderItems rest

def renderMembers : List (String × Json) → List String
  | [] => []
  | (key, value) :: rest => (quote key ++ ":" ++ render value) :: renderMembers rest

end

end AgentWorkflow.Json
