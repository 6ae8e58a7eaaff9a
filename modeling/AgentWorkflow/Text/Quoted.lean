/-
Texts shown between quotes in a message.

* `quoted` — quotes, backslashes and the usual control characters are escaped;
  a character that does not print, or that extends the one before it, is shown
  by its code point.
-/
import AgentWorkflow.Text.Basic
import AgentWorkflow.Text.Unicode.Property

namespace AgentWorkflow.Text

open Unicode (Category Property)

/-- The categories of characters that do not print; of the space separators
only the blank itself does. -/
def unprintable : List Category := [.cc, .cf, .cs, .co, .cn, .zl, .zp, .zs]

def isPrintable (c : Char) : Bool :=
  let n := c.toNat
  if n < 0x7F then 0x20 ≤ n
  else !(unprintable.any fun k => k.chars.contains c)

/-- Whether a character extends the one before it. -/
def isExtending (c : Char) : Bool :=
  0x300 ≤ c.toNat && (Property.charsNamed "graphemeextend").contains c

def quotedChar (c : Char) : String :=
  if c = '"' then "\\\""
  else if c = '\\' then "\\\\"
  else if c = '\n' then "\\n"
  else if c = '\r' then "\\r"
  else if c = '\t' then "\\t"
  else if c.toNat = 0 then "\\0"
  else if !isExtending c && isPrintable c then c.toString
  else "\\u\x7b" ++ hex 1 c.toNat ++ "\x7d"

def quoted (s : String) : String :=
  "\"" ++ String.join (s.toList.map quotedChar) ++ "\""

end AgentWorkflow.Text
