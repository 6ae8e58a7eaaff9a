/-
What the plugins do that hold a conversation.

* `Plugin.run_aiRequest`, `Plugin.run_runToolCalls`, … — the run of each on inputs that
  spell turns, as an equation.
* `Plugin.madeOf_aiRequest`, `Plugin.madeOf_runToolCalls`, … — each does nothing but what the
  session does.
-/
import AgentWorkflow.Plugin.Conversation
import AgentWorkflow.Proofs.Collaborators
import AgentWorkflow.Proofs.MessageCodec

namespace AgentWorkflow

namespace Plugin

/-! ### What the plugins do -/

variable {s : Session} {inputs : Inputs} {messages : List Message}

theorem run_loadContext (s : Session) (inputs : Inputs) (w : World) :
    (loadContext s inputs).run w =
      match (Context.build s.texts s.roadmapPath s.forge).run w.site with
      | (.error f, site) => (.error f, { w with site })
      | (.ok context, site) =>
        (.ok (result "context" (.text context)), { w with site }) := by
  have hjob := Act.run_job (Context.build s.texts s.roadmapPath s.forge) w
  rcases hcontext : (Context.build s.texts s.roadmapPath s.forge).run w.site
    with ⟨f | context, site⟩
  · rw [hcontext] at hjob
    exact Act.run_bind_error hjob
  · rw [hcontext] at hjob
    exact Act.run_bind_ok hjob

theorem messagesOf_eq (h : input inputs "messages" = Message.listToJson messages) :
    messagesOf inputs = .ok messages := by
  unfold messagesOf
  rw [h, Message.listOfJson_listToJson]

theorem run_appendContext (h : input inputs "messages" = Message.listToJson messages)
    {context : String} (hcontext : input inputs "context" = .text context) (w : World) :
    (appendContext s inputs).run w = (.ok (result "messages" (Message.listToJson
      (messages ++ [Conversation.contextTurn s.texts context]))), w) := by
  unfold appendContext
  rw [messagesOf_eq h, hcontext]
  rfl

theorem run_appendInstruction (h : input inputs "messages" = Message.listToJson messages)
    (w : World) :
    (appendInstruction s inputs).run w = (.ok (result "messages" (Message.listToJson
      (messages ++ [Conversation.instructionTurn s.texts]))), w) := by
  unfold appendInstruction
  rw [messagesOf_eq h]
  rfl

/-- What the node that asks the model answers. -/
def requestResult (messages : List Message) (reply : Message) : Json :=
  .object [
    ("has_tool_calls", .bool reply.hasToolCalls),
    ("messages", Message.listToJson (messages ++ [reply])),
    ("response", reply.toJson),
    ("tool_calls_count", Json.nat reply.toolCalls.length)]

theorem run_aiRequest (h : input inputs "messages" = Message.listToJson messages) (w : World) :
    (aiRequest s inputs).run w =
      match s.pose ⟨s.model, messages, s.specs⟩ w with
      | (.error f, w') => (.error (f.within "request completion"), w')
      | (.ok reply, w') => (.ok (requestResult messages reply), w') := by
  have hrequest : (s.request messages).run w =
      (Outcome.within "request completion" (s.pose ⟨s.model, messages, s.specs⟩ w).1,
        (s.pose ⟨s.model, messages, s.specs⟩ w).2) := Act.run_within _ _ w
  unfold aiRequest
  rw [messagesOf_eq h, Act.run_bind_ok (Act.run_ofOutcome _ w)]
  rcases hpose : s.pose ⟨s.model, messages, s.specs⟩ w with ⟨f | reply, w'⟩
  · rw [hpose] at hrequest
    exact Act.run_bind_error hrequest
  · rw [hpose] at hrequest
    exact Act.run_bind_ok hrequest

theorem run_runToolCalls {reply : Message} (h : input inputs "response" = reply.toJson)
    (w : World) :
    (runToolCalls s inputs).run w =
      if reply.hasToolCalls then
        (.ok (toolResults (Dispatch.run s reply.toolCalls w).1 false),
          (Dispatch.run s reply.toolCalls w).2)
      else (.ok (toolResults [] true), (Conversation.announce s reply w).2) := by
  unfold runToolCalls
  rw [h, Message.ofJson?_toJson, Act.run_bind_ok (Act.run_ofOutcome _ w)]
  dsimp only
  by_cases hcalls : reply.hasToolCalls = true
  · rw [if_pos hcalls, if_pos hcalls]
    exact Act.run_bind_ok (Act.run_lift _ w)
  · rw [if_neg hcalls, if_neg hcalls]
    exact Act.run_bind_ok (Act.run_lift _ w)

theorem run_appendToolResults (h : input inputs "messages" = Message.listToJson messages)
    {results : List Message}
    (hresults : input inputs "tool_results" = Message.listToJson results) (w : World) :
    (appendToolResults s inputs).run w =
      (.ok (.object [
          ("messages", Message.listToJson (messages ++ results)),
          ("mvp_reached", .bool (Conversation.stopAtMilestone s w).1)]),
        (Conversation.stopAtMilestone s w).2) := by
  unfold appendToolResults
  rw [messagesOf_eq h, hresults, Message.listOfJson_listToJson,
    Act.run_bind_ok (Act.run_ofOutcome _ w), Act.run_bind_ok (Act.run_ofOutcome _ w)]
  exact Act.run_bind_ok (Act.run_lift _ w)

/-! ### What the plugins are made of -/

section Parts

variable {P : Event → Prop} {writes stores : Prop}

theorem madeOf_seedMessages : MadeOf (s.Acts P writes stores) (seedMessages s inputs).run :=
  .run_pure _

theorem madeOf_loadContext : MadeOf (s.Acts P writes stores) (loadContext s inputs).run :=
  .run_bind (Context.madeOf_job s) fun _ => .run_pure _

theorem madeOf_appendContext : MadeOf (s.Acts P writes stores) (appendContext s inputs).run :=
  .run_bind (Act.madeOf_ofOutcome _) fun _ => .run_pure _

theorem madeOf_appendInstruction :
    MadeOf (s.Acts P writes stores) (appendInstruction s inputs).run :=
  .run_bind (Act.madeOf_ofOutcome _) fun _ => .run_pure _

theorem madeOf_aiRequest (hq : ∀ r, P (.requested r)) (hr : ∀ o, P (.replied o)) :
    MadeOf (s.Acts P writes stores) (aiRequest s inputs).run := by
  refine .run_bind (Act.madeOf_ofOutcome _) fun messages => ?_
  exact .run_bind (Session.madeOf_request hq hr s messages) fun _ => .run_pure _

theorem madeOf_runToolCalls (hd : ∀ c m, P (.delivered c m)) (ha : ∀ n x, P (.asked n x))
    (hi : ∀ n x, s.withholds n = false → P (.invoked n x)) :
    MadeOf (s.Acts P writes stores) (runToolCalls s inputs).run := by
  refine .run_bind (Act.madeOf_ofOutcome _) fun reply? => ?_
  rcases reply? with _ | reply
  · exact .run_pure _
  · dsimp only
    split
    · exact .run_bind (.run_lift (Dispatch.madeOf_run s ha hi _)) fun _ => .run_pure _
    · exact .run_bind (.run_lift (Conversation.madeOf_announce hd s _)) fun _ => .run_pure _

theorem madeOf_appendToolResults (hd : ∀ c m, P (.delivered c m)) :
    MadeOf (s.Acts P writes stores) (appendToolResults s inputs).run := by
  refine .run_bind (Act.madeOf_ofOutcome _) fun messages => ?_
  refine .run_bind (Act.madeOf_ofOutcome _) fun results => ?_
  exact .run_bind (.run_lift (Conversation.madeOf_stopAtMilestone hd s)) fun _ => .run_pure _

end Parts

end Plugin

end AgentWorkflow
