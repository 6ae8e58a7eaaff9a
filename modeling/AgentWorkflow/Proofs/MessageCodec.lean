/-
Reading back the turns that were written.

* `Message.get?_members` — where the members of a written turn are found.
* `Message.decode_toJson`, `Message.listOfJson_listToJson`, `Message.ofJson?_toJson` — a
  turn, and a list of turns, are read back as they were.
* `Message.rewritten`, `Message.listOfJson_rewritten` — whatever a value looks like that
  holds turns, what is written of them holds the same turns.
-/
import AgentWorkflow.Message
import AgentWorkflow.Proofs.Decoding

namespace AgentWorkflow

open Json.Decode

theorem Json.get?_memberIfSome (name : String) (value : Option String) (key : String) :
    Table.get? (Json.memberIfSome name value) key =
      if key = name then value.map .text else none := by
  rcases value with _ | s
  · rw [Option.map_none, ite_self]
    rfl
  · rfl

theorem Role.decode_name (r : Role) : Role.decode (.text r.name) = .ok r := by
  cases r <;> rfl

theorem ToolCall.decode_toJson (c : ToolCall) : ToolCall.decode c.toJson = .ok c := rfl

theorem ToolCall.decodeList_map (calls : List ToolCall) :
    ToolCall.decodeList (.list (calls.map ToolCall.toJson)) = .ok calls := by
  unfold ToolCall.decodeList
  rw [show nullable (listOf ToolCall.decode) (.list (calls.map ToolCall.toJson)) =
    (items ToolCall.decode (calls.map ToolCall.toJson)).map some from rfl]
  rw [items_map ToolCall.decode_toJson]
  rfl

namespace Message

/-- The members of a written turn. -/
def members (m : Message) : Table Json :=
  [("content", Json.ofText? m.content)] ++
  Json.memberIfSome "name" m.name ++
  [("role", .text m.role.name)] ++
  Json.memberIfSome "tool_call_id" m.toolCallId ++
  (if m.toolCalls.isEmpty then [] else [("tool_calls", .list (m.toolCalls.map ToolCall.toJson))])

theorem toJson_eq (m : Message) : m.toJson = .object m.members := rfl

/-- The tool calls have a member only when there are some. -/
theorem get?_callsMember (calls : List ToolCall) (key : String) :
    Table.get? (if calls.isEmpty then []
        else [("tool_calls", Json.list (calls.map ToolCall.toJson))]) key =
      if key = "tool_calls" ∧ calls ≠ [] then some (.list (calls.map ToolCall.toJson))
      else none := by
  rcases calls with _ | ⟨call, calls⟩
  · simp
  · simp [Table.get?_cons]

theorem get?_members (m : Message) (key : String) :
    Table.get? m.members key =
      if key = "content" then some (Json.ofText? m.content)
      else if key = "name" then m.name.map .text
      else if key = "role" then some (.text m.role.name)
      else if key = "tool_call_id" then m.toolCallId.map .text
      else if key = "tool_calls" ∧ m.toolCalls ≠ [] then
        some (.list (m.toolCalls.map ToolCall.toJson))
      else none := by
  unfold members
  rw [Table.get?_append, Table.get?_append, Table.get?_append, Table.get?_append,
    Json.get?_memberIfSome, Json.get?_memberIfSome, get?_callsMember, Table.get?_cons,
    Table.get?_cons, Table.get?_nil]
  by_cases hcontent : key = "content"
  · simp [hcontent]
  by_cases hname : key = "name"
  · simp [hname]
  by_cases hrole : key = "role"
  · simp [hrole]
  by_cases hid : key = "tool_call_id"
  · simp [hid]
  simp [hcontent, hname, hrole, hid]

/-- A turn is read back as it was written. -/
theorem decode_toJson (m : Message) : decode m.toJson = .ok m := by
  have hcontent : field? m.members "content" (nullable string) = .ok (some m.content) := by
    unfold field?
    rw [get?_members]
    cases m.content <;> rfl
  have hname : field? m.members "name" (nullable string) = .ok (m.name.map some) := by
    unfold field?
    rw [get?_members]
    cases m.name <;> rfl
  have hrole : field? m.members "role" Role.decode = .ok (some m.role) := by
    unfold field?
    rw [get?_members]
    show (Role.decode (.text m.role.name)).map some = _
    rw [Role.decode_name]
    rfl
  have hid : field? m.members "tool_call_id" (nullable string) =
      .ok (m.toolCallId.map some) := by
    unfold field?
    rw [get?_members]
    cases m.toolCallId <;> rfl
  have hcalls : ∃ calls, field? m.members "tool_calls" ToolCall.decodeList = .ok calls ∧
      calls.getD [] = m.toolCalls := by
    unfold field?
    rw [get?_members]
    -- Without calls the member is left out, and a member that is left out means no calls.
    rcases m.toolCalls with _ | ⟨call, calls⟩
    · exact ⟨none, rfl, rfl⟩
    · refine ⟨some (call :: calls), ?_, rfl⟩
      show (ToolCall.decodeList (.list ((call :: calls).map ToolCall.toJson))).map some = _
      rw [ToolCall.decodeList_map]
      rfl
  obtain ⟨calls, hcalls, hgetD⟩ := hcalls
  have hjoin : ∀ value : Option String, (value.map some).join = value := by
    intro value
    cases value <;> rfl
  rw [toJson_eq]
  unfold decode
  dsimp only
  rw [hcontent, hname, hrole, hid, hcalls]
  show Except.ok (⟨m.role, m.content, calls.getD [], (m.toolCallId.map some).join,
    (m.name.map some).join⟩ : Message) = .ok m
  rw [hgetD, hjoin, hjoin]

/-- A list of turns is read back as it was written. -/
theorem listOfJson_listToJson (ms : List Message) : listOfJson (listToJson ms) = .ok ms := by
  show Outcome.ofMismatch _ (items decode (ms.map toJson)) = _
  rw [items_map decode_toJson]
  rfl

/-- What is written of the turns that a value holds. -/
def rewritten (j : Json) : Outcome Json := (listOfJson j).map listToJson

/-- Turns are read back as they were written.  What is written of the turns that a value holds
holds the same turns, and writing it once more changes nothing. -/
theorem listOfJson_rewritten :
    (∀ ms, listOfJson (listToJson ms) = .ok ms) ∧
    (∀ j ms, listOfJson j = .ok ms → ∃ j', rewritten j = .ok j' ∧ listOfJson j' = .ok ms) ∧
    ∀ j, (rewritten j >>= rewritten) = rewritten j := by
  have hback : ∀ ms, rewritten (listToJson ms) = .ok (listToJson ms) := by
    intro ms
    rw [rewritten, listOfJson_listToJson]
    rfl
  refine ⟨listOfJson_listToJson, fun j ms h => ⟨listToJson ms, ?_, ?_⟩, fun j => ?_⟩
  · rw [rewritten, h]
    rfl
  · exact listOfJson_listToJson ms
  · rcases h : listOfJson j with e | ms
    · rw [show rewritten j = .error e by rw [rewritten, h]; rfl]
      rfl
    · rw [show rewritten j = .ok (listToJson ms) by rw [rewritten, h]; rfl]
      exact hback ms

/-- Turns with null fields, with fields that are left out or unknown, and turns, calls and
functions that are lists of their fields. -/
theorem listOfJson_rewritten_spellings :
    let j : Json := .list [
      .object [
        ("content", .null),
        ("refusal", .null),
        ("role", .text "assistant"),
        ("tool_calls", .list [
          .object [
            ("function", .object [("name", .text "list_files")]),
            ("id", .text "a"),
            ("index", Json.nat 0)],
          .list [.text "b", .text "custom", .list [.text "read_file", .text "\x7b"]]])],
      .list [.object [("tool", .null)], .text "done", .null, .text "a"],
      .object [("role", .text "user"), ("tool_calls", .null)]]
    let ms : List Message := [
      .requesting [⟨"a", "function", "list_files", ""⟩, ⟨"b", "custom", "read_file", "\x7b"⟩],
      ⟨.tool, some "done", [], some "a", none⟩,
      ⟨.user, none, [], none, none⟩]
    listOfJson j = .ok ms ∧ ∃ j', rewritten j = .ok j' ∧ listOfJson j' = .ok ms := by
  intro j ms
  have hj : listOfJson j = .ok ms := rfl
  exact ⟨hj, listOfJson_rewritten.2.1 j ms hj⟩

theorem ofJson?_toJson (m : Message) : ofJson? m.toJson = .ok (some m) := by
  show (Outcome.ofMismatch _ (decode m.toJson)).map some = _
  rw [decode_toJson]
  rfl

end Message

end AgentWorkflow
