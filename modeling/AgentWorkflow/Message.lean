/-
The turns of a conversation with a chat model.

* `Role`, `ToolCall`, `Message` — who speaks, a request to call a tool, a turn.
* `Message.toJson`, `Message.decode` — the encoded form.  Empty tool calls and
  absent names are left out; the content is always written.
* `Message.listOf`, `Message.ofJson?` — a list of turns and a single turn, null
  standing for no turns.
-/
import AgentWorkflow.Failure
import AgentWorkflow.Json.Decode

namespace AgentWorkflow

/-- Who speaks. -/
inductive Role where
  | system
  | user
  | assistant
  | tool
  deriving DecidableEq, Repr

def Role.name : Role → String
  | .system => "system"
  | .user => "user"
  | .assistant => "assistant"
  | .tool => "tool"

def Role.all : List Role := [.system, .user, .assistant, .tool]

/-- A request of the model to call a tool.  The arguments are the text that the
model wrote. -/
structure ToolCall where
  id : String
  kind : String
  name : String
  arguments : String
  deriving DecidableEq, Repr, Inhabited

/-- The kind of a tool call where none is given. -/
def ToolCall.standardKind : String := "function"

def ToolCall.new (id name arguments : String) : ToolCall :=
  ⟨id, standardKind, name, arguments⟩

/-- One turn. -/
structure Message where
  role : Role
  content : Option String
  toolCalls : List ToolCall
  toolCallId : Option String
  name : Option String
  deriving DecidableEq, Repr

namespace Message

def plain (role : Role) (content : String) : Message := ⟨role, some content, [], none, none⟩

def system (content : String) : Message := plain .system content

def user (content : String) : Message := plain .user content

def assistant (content : String) : Message := plain .assistant content

/-- A turn that only requests tool calls. -/
def requesting (calls : List ToolCall) : Message := ⟨.assistant, none, calls, none, none⟩

/-- The turn that answers a tool call. -/
def toolResult (callId name content : String) : Message :=
  ⟨.tool, some content, [], some callId, some name⟩

def hasToolCalls (m : Message) : Bool := !m.toolCalls.isEmpty

/-- The content, empty when there is none. -/
def text (m : Message) : String := m.content.getD ""

end Message

/-! ### Encoding -/

/-- A member that is left out when there is no value. -/
def Json.memberIfSome (name : String) : Option String → List (String × Json)
  | none => []
  | some s => [(name, .text s)]

def ToolCall.toJson (c : ToolCall) : Json :=
  .object [
    ("function", .object [("arguments", .text c.arguments), ("name", .text c.name)]),
    ("id", .text c.id),
    ("type", .text c.kind)]

def Message.toJson (m : Message) : Json :=
  .object (
    [("content", Json.ofText? m.content)] ++
    Json.memberIfSome "name" m.name ++
    [("role", .text m.role.name)] ++
    Json.memberIfSome "tool_call_id" m.toolCallId ++
    (if m.toolCalls.isEmpty then [] else [("tool_calls", .list (m.toolCalls.map ToolCall.toJson))]))

def Message.listToJson (ms : List Message) : Json := .list (ms.map toJson)

/-! ### Decoding -/

open Json (Decoder Mismatch)
open Json.Decode

def Role.decode : Decoder Role := word (Role.all.map fun r => (r.name, r))

/-- The name and the arguments of a tool call. -/
def ToolCall.decodeFunction : Decoder (String × String)
  | .object m => do
    let arguments ← field? m "arguments" string
    let name ← field? m "name" string
    let name ← required "name" name
    pure (name, arguments.getD "")
  | .list js => do
    let name ← item js 0 "struct FunctionCall with 2 elements" string
    let arguments ← itemOr js 1 "" string
    atMost js 2
    pure (name, arguments)
  | other => Json.wrongType other "struct FunctionCall"

def ToolCall.decode : Decoder ToolCall
  | .object m => do
    let function ← field? m "function" decodeFunction
    let id ← field? m "id" string
    let kind ← field? m "type" string
    let id ← required "id" id
    let function ← required "function" function
    pure ⟨id, kind.getD standardKind, function.1, function.2⟩
  | .list js => do
    let id ← item js 0 "struct ToolCall with 3 elements" string
    let kind ← itemOr js 1 standardKind string
    let function ← item js 2 "struct ToolCall with 3 elements" decodeFunction
    atMost js 3
    pure ⟨id, kind, function.1, function.2⟩
  | other => Json.wrongType other "struct ToolCall"

/-- The tool calls of a turn; null stands for none. -/
def ToolCall.decodeList : Decoder (List ToolCall) :=
  fun j => (nullable (listOf ToolCall.decode) j).map fun calls => calls.getD []

def Message.decode : Decoder Message
  | .object m => do
    let content ← field? m "content" (nullable string)
    let name ← field? m "name" (nullable string)
    let role ← field? m "role" Role.decode
    let callId ← field? m "tool_call_id" (nullable string)
    let calls ← field? m "tool_calls" ToolCall.decodeList
    let role ← required "role" role
    pure ⟨role, content.join, calls.getD [], callId.join, name.join⟩
  | .list js => do
    let role ← item js 0 "struct ChatMessage with 5 elements" Role.decode
    let content ← itemOr js 1 none (nullable string)
    let calls ← itemOr js 2 [] ToolCall.decodeList
    let callId ← itemOr js 3 none (nullable string)
    let name ← itemOr js 4 none (nullable string)
    atMost js 5
    pure ⟨role, content, calls, callId, name⟩
  | other => Json.wrongType other "struct ChatMessage"

/-- Turns a mismatch into a failure of what was being decoded. -/
def Outcome.ofMismatch {α : Type} (frame : String) : Except Mismatch α → Outcome α
  | .ok a => .ok a
  | .error e => .error ⟨[frame], .json (.mismatch e)⟩

/-- A list of turns; null stands for none. -/
def Message.listOfJson : Json → Outcome (List Message)
  | .null => .ok []
  | other => Outcome.ofMismatch "decode message list" (listOf decode other)

/-- A turn, or none for null. -/
def Message.ofJson? : Json → Outcome (Option Message)
  | .null => .ok none
  | other => (Outcome.ofMismatch "decode message" (decode other)).map some

end AgentWorkflow
