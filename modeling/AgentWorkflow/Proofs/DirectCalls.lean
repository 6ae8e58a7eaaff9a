/-
Tools that are called directly, beside tools that the model calls.

* `CallOutcome.content_ofResult_ok`, `CallOutcome.content_ofResult_error`, … — what the model is
  told of a tool's answer.
* `Session.run_callTool` — what a direct call does to a world.
* `Dispatch.decide_eq_callTool` — when nothing is to be asked, a call that the model makes is
  decided as a direct one: it leaves the same world, and what is told is what was answered.
* `Dispatch.run_likeCallTool` — so is a turn with that call: the same runs of the tool, and a
  content that the answer of the direct call determines.

Design notes: the two ways to a tool have gates of their own.  A direct call tells in its answer
that there is no such tool, or that it was left out; a dispatched one tells it as an outcome.
That both come to the same text is the point where the gates have to agree.
-/
import AgentWorkflow.Proofs.Dispatching
import AgentWorkflow.Rehearsal
import AgentWorkflow.Tool.Standard

namespace AgentWorkflow

open Dispatch (Spells ofResult showResult)

/-! ### What is told of an answer -/

namespace CallOutcome

variable (texts : Texts) (name : String)

theorem content_ofResult_ok (value : Json) :
    (ofResult texts name (.ok value)).content texts name = showResult texts name value := rfl

/-- A failure is told with everything that was being done. -/
theorem content_ofResult_error {f : Failure} (h : f.cause ≠ .panicked) :
    (ofResult texts name (.error f)).content texts name =
      texts.format "tool_error" [("name", name), ("error", f.message)] := by
  rcases f with ⟨frames, cause⟩
  cases cause
  case panicked => exact absurd rfl h
  all_goals rfl

/-- A tool that stopped without an answer has no failure to be told. -/
theorem content_ofResult_panicked {f : Failure} (h : f.cause = .panicked) :
    (ofResult texts name (.error f)).content texts name =
      texts.format "tool_error" [("name", name), ("error", "tool panicked")] := by
  rcases f with ⟨frames, cause⟩
  obtain rfl : cause = .panicked := h
  rfl

end CallOutcome

/-! ### Direct calls -/

namespace Session

/-- A tool is run under a name: there is one, and it is not left out. -/
def runs (s : Session) (name : String) : Bool :=
  Table.contains s.tools name && !s.withholds name

/-- The events of a call that nothing is asked about. -/
def callEvents (s : Session) (name : String) (x : Table Json) : List Event :=
  if s.runs name then [.invoked name x] else []

/-- A direct call runs its tool once or not at all. -/
theorem record_callTool (s : Session) (name : String) (x : Table Json) (w : World) :
    ((s.callTool name x).run w).2.record = w.record ++ s.callEvents name x := by
  unfold callTool callEvents runs Table.contains
  rcases Table.get? s.tools name with _ | tool
  · exact (List.append_nil _).symm
  · rcases hwithheld : s.withholds name with _ | _
    · rfl
    · exact (List.append_nil _).symm

end Session

namespace Dispatch

variable {s : Session} {call : ToolCall} {x : Table Json}

/-- When nothing is to be asked, a call whose arguments can be read is decided as a direct call
of the tool.  It leaves the world of the direct call, and what is told of it is what is told of
the answer. -/
theorem decide_eq_callTool (hyolo : s.flags.yolo = true) (hspells : Spells call.arguments x)
    (w : World) :
    let direct := (s.callTool call.name x).run w
    (decide s call.name call.arguments w).2 = direct.2 ∧
      (decide s call.name call.arguments w).1.content s.texts call.name =
        (ofResult s.texts call.name direct.1).content s.texts call.name := by
  have hconfirmed : confirmed s call.name x = pure true := if_pos hyolo
  unfold decide Session.callTool
  -- The gates in their order; the arguments are read between the first and the second one.
  rcases Table.get? s.tools call.name with _ | tool
  · exact ⟨rfl, rfl⟩
  · dsimp only
    rw [readArguments_eq_ok.mpr hspells]
    dsimp only
    rw [hconfirmed, Step.run_bind]
    rcases hwithheld : s.withholds call.name with _ | _
    · exact ⟨rfl, rfl⟩
    · exact ⟨rfl, rfl⟩

/-- A turn with a call of the model, where nothing is to be asked, beside a direct call of the
tool with the arguments that the text of the call spells.  What the model is told is the answer
of the direct call as results are shown, and of a failure the text for tool errors with
everything that was being done; of a tool that stopped without an answer nothing more is told
than that.  On both ways the tool is run with these arguments once if there is such a tool and
it is not left out, and else not at all; and no more than notes are left besides. -/
theorem run_likeCallTool (s : Session) (call : ToolCall) (x : Table Json) (w : World)
    (hyolo : s.flags.yolo = true) (hspells : Spells call.arguments x) :
    let direct := (s.callTool call.name x).run w
    let dispatched := run s [call] w
    ∃ turn, dispatched.1 = [turn] ∧ turn.Answers call ∧
      (∀ value, direct.1 = .ok value →
        turn.content = some (showResult s.texts call.name value)) ∧
      (∀ f, direct.1 = .error f → f.cause ≠ .panicked → turn.content =
        some (s.texts.format "tool_error" [("name", call.name),
          ("error", Text.join ": " (f.frames ++ [f.cause.message]))])) ∧
      (∀ f, direct.1 = .error f → f.cause = .panicked → turn.content =
        some (s.texts.format "tool_error" [("name", call.name), ("error", "tool panicked")])) ∧
      direct.2.record = w.record ++ s.callEvents call.name x ∧
      dispatched.2.record = w.record ++ s.callEvents call.name x ∧
      dispatched.2.store = direct.2.store ∧ direct.2.site.Noted dispatched.2.site := by
  intro direct dispatched
  obtain ⟨hworld, hcontent⟩ := decide_eq_callTool hyolo hspells w
  let outcome := (decide s call.name call.arguments w).1
  let turn := Message.toolResult call.id call.name (outcome.content s.texts call.name)
  have hturn : turn.content = some ((ofResult s.texts call.name direct.1).content s.texts
      call.name) := congrArg some hcontent
  have hcall : runCall s call w =
      (turn, { direct.2 with site := { direct.2.site with
        notes := direct.2.site.notes ++ (outcome.note? call.name).toList } }) := by
    unfold runCall
    rw [Step.run_bind, Step.run_bind, run_warn, hworld]
    rfl
  have hrun : dispatched = ([turn], (runCall s call w).2) := by
    unfold dispatched run
    rw [Step.run_bind, hcall]
    rfl
  have hrecord := s.record_callTool call.name x w
  refine ⟨turn, by rw [hrun], ⟨_, rfl⟩, fun value hvalue => ?_, fun f hf hcause => ?_,
    fun f hf hcause => ?_, hrecord, ?_, ?_, ?_⟩
  · rw [hturn, hvalue, CallOutcome.content_ofResult_ok]
  · rw [hturn, hf, CallOutcome.content_ofResult_error _ _ hcause]
    rfl
  · rw [hturn, hf, CallOutcome.content_ofResult_panicked _ _ hcause]
  · rw [hrun, hcall]
    exact hrecord
  · rw [hrun, hcall]
  · rw [hrun, hcall]
    exact ⟨_, rfl⟩

/-- A tool that fails: the model is told why, and the tool was run once. -/
theorem run_likeCallTool_failing :
    let s := Rehearsal.session ⟨false, true, false⟩ Tool.standardPolicy
      [("explode", .fails "disk full")]
    let x : Table Json := []
    let call := ToolCall.new "1" "explode" ""
    let w : World := ⟨Site.ofDisk default, Store.empty, []⟩
    s.flags.yolo = true ∧ Spells call.arguments x ∧
      (run s [call] w).1.map Message.content =
        [some "Error executing explode: disk full"] ∧
      (run s [call] w).2.record = [.invoked "explode" x] := by
  intro s x call w
  have hspells : Spells call.arguments x := .inl ⟨by decide +kernel, rfl⟩
  obtain ⟨turn, hanswers, -, -, hfailed, -, -, hrecord, -⟩ :=
    run_likeCallTool s call x w rfl hspells
  have hcontent := hfailed (Failure.stated "disk full") rfl nofun
  refine ⟨rfl, hspells, ?_, hrecord⟩
  rw [hanswers, List.map_singleton, hcontent]
  decide +kernel

end Dispatch

end AgentWorkflow
