/-
Reading JSON values loosely, as a list, a truth value, a text or a count.

* `toItems` — null is no item, a list its items, a text its lines that are not
  blank, anything else one item.
* `toBool` — words for yes and no are understood in any case and with blanks
  around them; all else goes by `isTruthy`.
* `display` — a text stands for itself, null for nothing, all else for its
  written form.
* `separator` — the two-character sequences `\n` and `\t` become a line feed
  and a tab.
* `count?` — a number without a fraction, or a text that spells one.
-/
import AgentWorkflow.Json.Writer

namespace AgentWorkflow.Json

/-- The greatest count. -/
def countLimit : Nat := Nat.pow 2 64 - 1

def toItems : Json → List Json
  | .null => []
  | .list items => items
  | .text s => ((Text.lines s).filter fun line => !Text.allBlank line).map .text
  | other => [other]

/-- Null, false, zero and whatever is empty are not truthy. -/
def isTruthy : Json → Bool
  | .null => false
  | .bool b => b
  | .number (.whole i) => i != 0
  | .number (.float x) => !x.isZero
  | .text s => !s.isEmpty
  | .list items => !items.isEmpty
  | .object members => !members.isEmpty

def toBool : Json → Bool
  | .bool b => b
  | .text s =>
    let word := Text.lowerAscii (Text.trim s)
    if ["true", "yes", "1"].contains word then true
    else if ["false", "no", "0", ""].contains word then false
    else isTruthy (.text s)
  | other => isTruthy other

/-- A value as it reads in a message. -/
def display : Json → String
  | .null => ""
  | .text s => s
  | other => render other

/-- A separator as it is typed in a document. -/
def unescapeSeparator (s : String) : String :=
  Text.replaceAll "\\t" "\t" (Text.replaceAll "\\n" "\n" s)

/-- The text to put between joined items. -/
def separator : Option Json → String
  | none => ""
  | some .null => ""
  | some (.text s) => unescapeSeparator s
  | some other => render other

/-- A count: a number that is not negative and has no fraction, or a text that
spells a whole one.  Larger counts than the greatest are taken for it. -/
def count? : Json → Option Nat
  | .number (.whole i) => if 0 ≤ i then some i.toNat else none
  | .number (.float x) => x.toNat?.map fun n => min n countLimit
  | .text s => Text.natUpTo? countLimit (Text.trim s)
  | _ => none

/-- The outputs of a step by name: an object as it is, anything else under the
name `result`. -/
def outputs : Json → Table Json
  | .object members => members
  | other => [("result", other)]

end AgentWorkflow.Json
