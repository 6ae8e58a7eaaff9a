/-
What can be wrong with a JSON text or with a value that is decoded.

* `Json.Fault` — a text that is not well-formed, with the place where reading
  stopped.
* `Json.Mismatch` — a value of another shape than asked for.
* `Json.Error.message` — the wording.  A fault names its line and its column,
  counted in bytes; a mismatch names what was found and what was expected.
-/
import AgentWorkflow.Json.Writer
import AgentWorkflow.Text.Quoted

namespace AgentWorkflow.Json

/-- Why a text is not well-formed. -/
inductive FaultKind where
  | endInList
  | endInObject
  | endInText
  | endInValue
  | expectedColon
  | expectedListEnd
  | expectedObjectEnd
  | expectedWord
  | expectedValue
  | badEscape
  | badNumber
  | numberTooLarge
  | controlCharacter
  | keyNotText
  | loneSurrogate
  | endOfEscape
  | trailingComma
  | trailingCharacters
  | tooDeep
  deriving DecidableEq, Repr

def FaultKind.message : FaultKind → String
  | .endInList => "EOF while parsing a list"
  | .endInObject => "EOF while parsing an object"
  | .endInText => "EOF while parsing a string"
  | .endInValue => "EOF while parsing a value"
  | .expectedColon => "expected `:`"
  | .expectedListEnd => "expected `,` or `]`"
  | .expectedObjectEnd => "expected `,` or `\x7d`"
  | .expectedWord => "expected ident"
  | .expectedValue => "expected value"
  | .badEscape => "invalid escape"
  | .badNumber => "invalid number"
  | .numberTooLarge => "number out of range"
  | .controlCharacter =>
    "control character (\\u0000-\\u001F) found while parsing a string"
  | .keyNotText => "key must be a string"
  | .loneSurrogate => "lone leading surrogate in hex escape"
  | .endOfEscape => "unexpected end of hex escape"
  | .trailingComma => "trailing comma"
  | .trailingCharacters => "trailing characters"
  | .tooDeep => "recursion limit exceeded"

/-- A place in a text.  The column is the number of bytes of the line up to the
place. -/
structure Position where
  line : Nat
  column : Nat
  deriving DecidableEq, Repr, Inhabited

/-- A fault and the place where reading stopped. -/
structure Fault where
  kind : FaultKind
  place : Position
  deriving DecidableEq, Repr

def Fault.message (f : Fault) : String :=
  f.kind.message ++ s!" at line {f.place.line} column {f.place.column}"

/-- Why a value cannot be decoded. -/
inductive Mismatch where
  /-- A value of another kind; `found` is its description. -/
  | wrongType (found expected : String)
  /-- A value of the right kind that is of no use. -/
  | wrongValue (found expected : String)
  | wrongLength (length : Nat) (expected : String)
  | missingField (name : String)
  | duplicateField (name : String)
  /-- A word that is none of the known ones. -/
  | unknownWord (word : String) (known : List String)
  /-- A word where the decoder knows of no words. -/
  | noWord (word : String)
  deriving DecidableEq, Repr

/-- The known words as a list in a sentence. -/
def oneOf (known : List String) : String :=
  match known with
  | [] => "there are no variants"
  | [a] => "expected `" ++ a ++ "`"
  | [a, b] => "expected `" ++ a ++ "` or `" ++ b ++ "`"
  | more => "expected one of " ++ Text.join ", " (more.map fun w => "`" ++ w ++ "`")

def Mismatch.message : Mismatch → String
  | .wrongType found expected => "invalid type: " ++ found ++ ", expected " ++ expected
  | .wrongValue found expected => "invalid value: " ++ found ++ ", expected " ++ expected
  | .wrongLength n expected => "invalid length " ++ toString n ++ ", expected " ++ expected
  | .missingField name => "missing field `" ++ name ++ "`"
  | .duplicateField name => "duplicate field `" ++ name ++ "`"
  | .unknownWord word known => "unknown variant `" ++ word ++ "`, " ++ oneOf known
  | .noWord word => "unknown variant `" ++ word ++ "`, there are no variants"

inductive Error where
  | fault (f : Fault)
  | mismatch (m : Mismatch)
  deriving DecidableEq, Repr

def Error.message : Error → String
  | .fault f => f.message
  | .mismatch m => m.message

/-- How a value is called in a mismatch. -/
def describe : Json → String
  | .null => "null"
  | .bool true => "boolean `true`"
  | .bool false => "boolean `false`"
  | .number (.whole i) => "integer `" ++ toString i ++ "`"
  | .number (.float x) => "floating point `" ++ renderFloat x ++ "`"
  | .text s => "string " ++ Text.quoted s
  | .list _ => "sequence"
  | .object _ => "map"

end AgentWorkflow.Json
