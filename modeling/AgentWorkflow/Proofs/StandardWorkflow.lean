/-
The standard workflow holds the conversation that is held without a workflow.

* `Workflow.Holds` — the turns of the conversation are in the store.
* `Workflow.requestNode_ok`, `Workflow.callsNode_ok`, … — each node does what the
  conversation does at its place, in any world that is alike (`World.AlikeIn`).
* `Workflow.round_refused`, `Workflow.round_completed`, `Workflow.round_answered` — a
  round of the workflow for each way a pass can go on.
* `Workflow.ofJson_standard` — the document of the workflow is read as the workflow.
* `Workflow.EndsAlike` — the same exchanges, and the same end.
* `Workflow.closing`, `Workflow.EndsAlikeIn` — the same for any choice of events, with the
  last look for the milestone, which the workflow alone makes.
* `Workflow.standard_endsAlike` — so it is for the whole conversation and the whole
  workflow.

Design notes: the invariant between rounds is that the two worlds are alike in a choice of
events without the calls of plugins (`World.AlikeIn`) and that the store holds the turns so
far.  After a reply without calls the workflow still looks for the milestone and may send a
notice.  Nothing is asked after that, so the exchanges are the same.
-/
import AgentWorkflow.Proofs.ConversationPlugins
import AgentWorkflow.Proofs.Dialogue
import AgentWorkflow.Proofs.Interpreter
import AgentWorkflow.Proofs.PluginNode
import AgentWorkflow.Rehearsal

namespace AgentWorkflow.Workflow

open Conversation (passes announce stopAtMilestone)

variable {s : Session} {registry : Registry} {w w' v v' : World} {messages : List Message}
  {p : Event → Bool} [Event.HidesCalls p]

/-! ### The nodes of a round -/

/-- The turns of the conversation are in the store. -/
def Holds (v : World) (messages : List Message) : Prop :=
  v.store.get? "messages" = some (Message.listToJson messages)

/-- What a node is given that reads the turns alone. -/
theorem input_messages (h : Holds v messages) :
    Plugin.input (v.store.resolveInputs [("messages", .text "$messages")]) "messages" =
      Message.listToJson messages :=
  Store.input_resolveInputs rfl rfl h

theorem requestNode_ok (h : w.AlikeIn p v) (hmessages : Holds v messages) {reply : Message}
    (hpose : s.pose ⟨s.model, messages, s.specs⟩ w = (.ok reply, w')) (report : Report) :
    ∃ v', (runNode s Registry.builtin requestNode report).run v = (.ok report.execute, v') ∧
      w'.AlikeIn p v' ∧ Holds v' (messages ++ [reply]) ∧
      v'.store.get? "llm_response" = some reply.toJson := by
  have hrun := Plugin.run_aiRequest (s := s) (input_messages hmessages) w
  rw [hpose] at hrun
  obtain ⟨v', hnode, halike, hstore⟩ :=
    pluginNode_ok Registry.builtin requestNode rfl rfl rfl
      (Plugin.madeOf_aiRequest (fun _ => trivial) fun _ => trivial).framed h hrun report
  refine ⟨v', hnode, halike, ?_, ?_⟩
  · unfold Holds
    rw [hstore, Store.get?_written]
    rfl
  · rw [hstore, Store.get?_written]
    rfl

theorem requestNode_error (h : w.AlikeIn p v) (hmessages : Holds v messages) {f : Failure}
    (hpose : s.pose ⟨s.model, messages, s.specs⟩ w = (.error f, w')) (report : Report) :
    ∃ v', (runNode s Registry.builtin requestNode report).run v =
        (.error ((f.within "request completion").within
          (nodeFrame "ai_request" "core.ai_request")), v') ∧ w'.AlikeIn p v' := by
  have hrun := Plugin.run_aiRequest (s := s) (input_messages hmessages) w
  rw [hpose] at hrun
  exact pluginNode_error Registry.builtin requestNode rfl rfl rfl
    (Plugin.madeOf_aiRequest (fun _ => trivial) fun _ => trivial).framed h hrun report

/-- The node that runs the calls of a reply.  Without calls it announces the end. -/
theorem callsNode_ok (h : w.AlikeIn p v) (hmessages : Holds v messages) {reply : Message}
    (hreply : v.store.get? "llm_response" = some reply.toJson) {results : List Message}
    {none : Bool} (hrun : ∀ inputs, Plugin.input inputs "response" = reply.toJson →
      (Plugin.runToolCalls s inputs).run w = (.ok (Plugin.toolResults results none), w'))
    (report : Report) :
    ∃ v', (runNode s Registry.builtin callsNode report).run v = (.ok report.execute, v') ∧
      w'.AlikeIn p v' ∧ Holds v' messages ∧
      v'.store.get? "tool_results" = some (Message.listToJson results) ∧
      v'.store.get? "no_tool_calls" = some (.bool none) := by
  obtain ⟨v', hnode, halike, hstore⟩ :=
    pluginNode_ok Registry.builtin callsNode rfl rfl rfl
      (Plugin.madeOf_runToolCalls (fun _ _ => trivial) (fun _ _ => trivial)
        fun _ _ _ => trivial).framed h (hrun _ (Store.input_resolveInputs rfl rfl hreply)) report
  refine ⟨v', hnode, halike, ?_, ?_, ?_⟩
  · unfold Holds at hmessages ⊢
    rw [hstore, Store.get?_written]
    exact hmessages
  · rw [hstore, Store.get?_written]
    rfl
  · rw [hstore, Store.get?_written]
    rfl

/-- The node that puts the answers behind the conversation and looks for the milestone. -/
theorem answersNode_ok (h : w.AlikeIn p v) (hmessages : Holds v messages)
    {results : List Message} {none : Bool}
    (hresults : v.store.get? "tool_results" = some (Message.listToJson results))
    (hnone : v.store.get? "no_tool_calls" = some (.bool none)) (report : Report) :
    ∃ v', (runNode s Registry.builtin answersNode report).run v = (.ok report.execute, v') ∧
      (stopAtMilestone s w).2.AlikeIn p v' ∧ Holds v' (messages ++ results) ∧
      v'.store.get? "mvp_reached" = some (.bool (stopAtMilestone s w).1) ∧
      v'.store.get? "no_tool_calls" = some (.bool none) := by
  have hmessages' : Plugin.input (v.store.resolveInputs [("messages", .text "$messages"),
      ("tool_results", .text "$tool_results")]) "messages" = Message.listToJson messages :=
    Store.input_resolveInputs rfl rfl hmessages
  have hrun := Plugin.run_appendToolResults (s := s) hmessages'
    (Store.input_resolveInputs rfl rfl hresults) w
  obtain ⟨v', hnode, halike, hstore⟩ :=
    pluginNode_ok Registry.builtin answersNode rfl rfl rfl
      (Plugin.madeOf_appendToolResults fun _ _ => trivial).framed h hrun report
  refine ⟨v', hnode, halike, ?_, ?_, ?_⟩
  · unfold Holds
    rw [hstore, Store.get?_written]
    rfl
  · rw [hstore, Store.get?_written]
    rfl
  · rw [hstore, Store.get?_written]
    exact hnone

/-- The node that decides whether the loop ends. -/
theorem stopNode_ok (h : w.AlikeIn p v) (hmessages : Holds v messages) {reached none : Bool}
    (hreached : v.store.get? "mvp_reached" = some (.bool reached))
    (hnone : v.store.get? "no_tool_calls" = some (.bool none)) (report : Report) :
    ∃ v', (runNode s Registry.builtin stopNode report).run v = (.ok report.execute, v') ∧
      w.AlikeIn p v' ∧ Holds v' messages ∧
      v'.store.get? "should_stop" = some (.bool (reached || none)) := by
  have hrun : (Plugin.ofFunction Plugin.anyOf s (v.store.resolveInputs
      [("mvp_reached", .text "$mvp_reached"), ("no_tool_calls", .text "$no_tool_calls")])).run w =
      (.ok (Plugin.result "result" (.bool (reached || none))), w) := by
    show (Act.ofOutcome (Plugin.anyOf [("mvp_reached", (v.store.get? "mvp_reached").getD .null),
      ("no_tool_calls", (v.store.get? "no_tool_calls").getD .null)])).run w = _
    rw [hreached, hnone, ← Bool.or_false (reached || none), Bool.or_assoc]
    rfl
  have hframed : Step.Framed (fun _ => True) (Plugin.ofFunction Plugin.anyOf s
      (v.store.resolveInputs [("mvp_reached", .text "$mvp_reached"),
        ("no_tool_calls", .text "$no_tool_calls")])).run := (Act.madeOf_ofOutcome (s := s) _).framed
  obtain ⟨v', hnode, halike, hstore⟩ :=
    pluginNode_ok Registry.builtin stopNode rfl rfl rfl hframed h hrun report
  refine ⟨v', hnode, halike, ?_, ?_⟩
  · unfold Holds at hmessages ⊢
    rw [hstore, Store.get?_written]
    exact hmessages
  · rw [hstore, Store.get?_written]
    rfl

/-! ### A round -/

/-- The report after a round. -/
def afterRound (report : Report) : Report := report.execute.execute.execute.execute

/-- What is left of a round when the calls of the reply are run: the answers are put behind
the conversation, and it is decided whether the loop ends. -/
theorem closeRound (h : w.AlikeIn p v) (hmessages : Holds v messages) {results : List Message}
    {none : Bool} (hresults : v.store.get? "tool_results" = some (Message.listToJson results))
    (hnone : v.store.get? "no_tool_calls" = some (.bool none)) (report : Report) :
    ∃ v', (runNodes s Registry.builtin [answersNode, stopNode] report).run v =
        (.ok report.execute.execute, v') ∧
      (stopAtMilestone s w).2.AlikeIn p v' ∧ Holds v' (messages ++ results) ∧
      v'.store.get? "should_stop" = some (.bool ((stopAtMilestone s w).1 || none)) := by
  obtain ⟨v₁, hrun₁, halike₁, hmessages₁, hreached, hnone₁⟩ :=
    answersNode_ok h hmessages hresults hnone report
  obtain ⟨v₂, hrun₂, halike₂, hmessages₂, hstop⟩ :=
    stopNode_ok halike₁ hmessages₁ hreached hnone₁ report.execute
  refine ⟨v₂, ?_, halike₂, hmessages₂, hstop⟩
  rw [run_runNodes_ok hrun₁, run_runNodes_ok hrun₂]
  rfl

/-- A round that the model refuses fails with the cause of the refusal. -/
theorem round_refused (h : w.AlikeIn p v) (hmessages : Holds v messages) {f : Failure}
    (hpose : s.pose ⟨s.model, messages, s.specs⟩ w = (.error f, w')) (report : Report) :
    ∃ v', (runNodes s Registry.builtin standardRound report).run v =
        (.error ((f.within "request completion").within
          (nodeFrame "ai_request" "core.ai_request")), v') ∧ w'.AlikeIn p v' := by
  obtain ⟨v', hrun, halike⟩ := requestNode_error h hmessages hpose report
  exact ⟨v', run_runNodes_error hrun, halike⟩

/-- A round with a reply without calls announces the end and ends the loop. -/
theorem round_completed (h : w.AlikeIn p v) (hmessages : Holds v messages) {reply : Message}
    (hpose : s.pose ⟨s.model, messages, s.specs⟩ w = (.ok reply, w'))
    (hcalls : reply.hasToolCalls = false) (report : Report) :
    ∃ v', (runNodes s Registry.builtin standardRound report).run v =
        (.ok (afterRound report), v') ∧
      (stopAtMilestone s (announce s reply w').2).2.AlikeIn p v' ∧
      Holds v' (messages ++ [reply]) ∧ v'.store.get? "should_stop" = some (.bool true) := by
  obtain ⟨v₁, hrun₁, halike₁, hmessages₁, hreply⟩ := requestNode_ok h hmessages hpose report
  have hrun : ∀ inputs, Plugin.input inputs "response" = reply.toJson →
      (Plugin.runToolCalls s inputs).run w' =
        (.ok (Plugin.toolResults [] true), (announce s reply w').2) := by
    intro inputs hinput
    rw [Plugin.run_runToolCalls hinput, if_neg (by rw [hcalls]; exact Bool.false_ne_true)]
  obtain ⟨v₂, hrun₂, halike₂, hmessages₂, hresults, hnone⟩ :=
    callsNode_ok halike₁ hmessages₁ hreply hrun report.execute
  obtain ⟨v₃, hrun₃, halike₃, hmessages₃, hstop⟩ :=
    closeRound halike₂ hmessages₂ hresults hnone report.execute.execute
  rw [List.append_nil] at hmessages₃
  rw [Bool.or_true] at hstop
  refine ⟨v₃, ?_, halike₃, hmessages₃, hstop⟩
  exact (run_runNodes_ok hrun₁).trans ((run_runNodes_ok hrun₂).trans hrun₃)

/-- A round with a reply with calls runs them, and ends the loop when the milestone is
reached. -/
theorem round_answered (h : w.AlikeIn p v) (hmessages : Holds v messages) {reply : Message}
    (hpose : s.pose ⟨s.model, messages, s.specs⟩ w = (.ok reply, w'))
    (hcalls : reply.hasToolCalls = true) (report : Report) :
    let answered := Dispatch.run s reply.toolCalls w'
    let stopped := stopAtMilestone s answered.2
    ∃ v', (runNodes s Registry.builtin standardRound report).run v =
        (.ok (afterRound report), v') ∧
      stopped.2.AlikeIn p v' ∧ Holds v' (messages ++ [reply] ++ answered.1) ∧
      v'.store.get? "should_stop" = some (.bool stopped.1) := by
  intro answered stopped
  obtain ⟨v₁, hrun₁, halike₁, hmessages₁, hreply⟩ := requestNode_ok h hmessages hpose report
  have hrun : ∀ inputs, Plugin.input inputs "response" = reply.toJson →
      (Plugin.runToolCalls s inputs).run w' =
        (.ok (Plugin.toolResults answered.1 false), answered.2) := by
    intro inputs hinput
    rw [Plugin.run_runToolCalls hinput, if_pos hcalls]
  obtain ⟨v₂, hrun₂, halike₂, hmessages₂, hresults, hnone⟩ :=
    callsNode_ok halike₁ hmessages₁ hreply hrun report.execute
  obtain ⟨v₃, hrun₃, halike₃, hmessages₃, hstop⟩ :=
    closeRound halike₂ hmessages₂ hresults hnone report.execute.execute
  rw [Bool.or_false] at hstop
  refine ⟨v₃, ?_, halike₃, hmessages₃, hstop⟩
  exact (run_runNodes_ok hrun₁).trans ((run_runNodes_ok hrun₂).trans hrun₃)

/-! ### The loop -/

/-- A conversation and its workflow end alike: with the same exchanges, and both with a
failure of the same cause or both with the turns of the conversation, the workflow having
them in the store.  `P` relates what they tell besides. -/
structure EndsAlike {α : Type} (P : Transcript → α → Prop)
    (direct : Outcome Transcript × World) (steps : Outcome α × World) : Prop where
  exchanges : direct.2.exchanges = steps.2.exchanges
  outcomes : match direct.1, steps.1 with
    | .ok t, .ok a => Holds steps.2 t.messages ∧ P t a
    | .error f, .error g => ∃ frame, g = f.within frame
    | _, _ => False

/-- The loop of the standard workflow stops on the key that the last node of a round
writes. -/
theorem stopsHere_loopHead {store : Store} {stop : Bool}
    (h : store.get? "should_stop" = some (.bool stop)) : stopsHere loopHead true store = stop := by
  show (((store.get? "should_stop").getD .null).toBool == true) = stop
  rw [h]
  exact beq_true stop

/-- What a conversation leaves when the workflow holds it.  After a reply without calls the
workflow still looks for the milestone. -/
def closing (s : Session) : Outcome Transcript × World → World
  | (.ok t, w) => if t.stop = .completed then (stopAtMilestone s w).2 else w
  | (.error _, w) => w

/-- A conversation and its workflow end as `EndsAlike` says, with the same events of a
choice but for those of the last look for the milestone. -/
structure EndsAlikeIn (p : Event → Bool) (s : Session) {α : Type} (P : Transcript → α → Prop)
    (direct : Outcome Transcript × World) (steps : Outcome α × World) : Prop where
  seen : (closing s direct).seen p = steps.2.seen p
  outcomes : match direct.1, steps.1 with
    | .ok t, .ok a => Holds steps.2 t.messages ∧ P t a
    | .error f, .error g => ∃ frame, g = f.within frame
    | _, _ => False

/-- What the loop tells of a conversation. -/
def LoopTells (t : Transcript) (a : Bool × Report) : Prop :=
  (t.stop = .limit ↔ a.1 = false) ∧ a.2.exhaustedLoops = 0

/-- From alike worlds, the passes that are left of a conversation and the passes that are
left of the loop end alike. -/
theorem loop_endsAlikeIn (honce : s.flags.once = false) (limit left done : Nat)
    (h : w.AlikeIn p v) (hmessages : Holds v messages) (report : Report)
    (hreport : report.exhaustedLoops = 0) :
    EndsAlikeIn p s LoopTells ((passes s limit left done messages).run w)
      ((repeatPasses (runNodes s Registry.builtin standardRound) (stopsHere loopHead true)
        (left + 1) report).run v) := by
  induction left using Nat.strongRecOn generalizing done messages w v report with
  | ind left ih =>
  rw [Conversation.run_passes]
  rcases hpose : s.pose ⟨s.model, messages, s.specs⟩ w with ⟨f | reply, w₁⟩
  · obtain ⟨v₁, hround, halike⟩ := round_refused h hmessages hpose report.pass
    rw [run_repeatPasses_error hround]
    exact ⟨halike.2, _, rfl⟩
  dsimp only
  by_cases hcalls : reply.hasToolCalls = false
  · -- Both end here, the workflow after it looked for the milestone.
    obtain ⟨v₁, hround, halike, hmessages₁, hstop⟩ :=
      round_completed h hmessages hpose hcalls report.pass
    rw [if_pos hcalls, run_repeatPasses_ok hround, if_pos (stopsHere_loopHead hstop)]
    refine ⟨?_, hmessages₁, ?_, hreport⟩
    · rw [← halike.2]
      rfl
    · simp
  rw [if_neg hcalls, if_neg (by rw [honce]; simp)]
  obtain ⟨v₁, hround, halike, hmessages₁, hstop⟩ :=
    round_answered h hmessages hpose (Bool.not_eq_false _ ▸ hcalls) report.pass
  rw [run_repeatPasses_ok hround, stopsHere_loopHead hstop]
  by_cases hreached : (stopAtMilestone s (Dispatch.run s reply.toolCalls w₁).2).1 = true
  · rw [if_pos hreached, if_pos hreached]
    refine ⟨halike.2, hmessages₁, ?_, hreport⟩
    simp
  rw [if_neg hreached, if_neg hreached]
  rcases left with _ | left
  · -- The last pass is the last round, and neither found a reason to stop.
    refine ⟨halike.2, hmessages₁, ?_, hreport⟩
    simp
  · exact ih left (Nat.lt_succ_self left) (done + 1) halike hmessages₁ _ hreport

/-- The loop node of the standard workflow, when loops are not cut short. -/
theorem run_loopNode (honce : s.flags.once = false) (report : Report) (v : World) :
    (runNode s Registry.builtin (.mk loopHead standardRound [] []) report).run v =
      (repeatPasses (runNodes s Registry.builtin standardRound) (stopsHere loopHead true)
        standardLimit report.execute >>= fun a =>
          finishLoop s loopHead standardLimit a.1 a.2).run v := by
  unfold runNode
  rw [if_neg (by simp [loopHead]), Act.run_bind_ok (Act.run_store v),
    if_neg (by simp [loopHead, admits])]
  rw [show loopHead.kind = .loop from rfl]
  dsimp only
  unfold runLoop
  rw [Act.run_bind_ok (Act.run_store v)]
  rw [show loopLimit loopHead v.store = pure standardLimit from rfl]
  rw [honce]
  rfl

/-- A loop that ran out of passes is counted, and no other. -/
theorem run_finishLoop_loopHead (honce : s.flags.once = false) (met : Bool) (report : Report)
    (v : World) :
    ((finishLoop s loopHead standardLimit met report).run v).2.record = v.record ∧
    ((finishLoop s loopHead standardLimit met report).run v).2.store = v.store ∧
    ((finishLoop s loopHead standardLimit met report).run v).1 =
      .ok (if met then report else report.exhaust) := by
  unfold finishLoop
  rw [honce]
  rcases met
  · exact ⟨rfl, rfl, rfl⟩
  · exact ⟨rfl, rfl, rfl⟩

/-- A conversation and a workflow of which nothing but the loop is left end alike. -/
theorem loopNode_endsAlikeIn (honce : s.flags.once = false) (limit : Nat) (h : w.AlikeIn p v)
    (hmessages : Holds v messages) (report : Report) (hreport : report.exhaustedLoops = 0) :
    EndsAlikeIn p s (fun t report => t.stop = .limit ↔ 0 < report.exhaustedLoops)
      ((passes s limit (standardLimit - 1) 0 messages).run w)
      ((runNodes s Registry.builtin [.mk loopHead standardRound [] []] report).run v) := by
  obtain ⟨hseen, houtcomes⟩ :=
    loop_endsAlikeIn honce limit (standardLimit - 1) 0 h hmessages report.execute hreport
  have hnode := run_loopNode honce report v
  rcases hpasses : (passes s limit (standardLimit - 1) 0 messages).run w with ⟨direct, w'⟩
  rcases hloop : (repeatPasses (runNodes s Registry.builtin standardRound)
    (stopsHere loopHead true) standardLimit report.execute).run v with ⟨g | ⟨met, report'⟩, v'⟩
  · rw [Act.run_bind_error hloop] at hnode
    rw [hpasses, show standardLimit - 1 + 1 = standardLimit from rfl, hloop] at hseen houtcomes
    rw [run_runNodes_error hnode]
    rcases direct with f | t
    · exact ⟨hseen, houtcomes⟩
    · exact houtcomes.elim
  · rw [Act.run_bind_ok hloop] at hnode
    rw [hpasses, show standardLimit - 1 + 1 = standardLimit from rfl, hloop] at hseen houtcomes
    obtain ⟨hrecord, hstore, hanswer⟩ := run_finishLoop_loopHead honce met report' v'
    rcases hfinish : (finishLoop s loopHead standardLimit met report').run v' with ⟨o, v''⟩
    rw [hfinish] at hrecord hstore hanswer hnode
    dsimp only at hanswer
    subst hanswer
    rw [run_runNodes_ok hnode]
    rcases direct with f | t
    · exact houtcomes.elim
    · obtain ⟨hheld, hstop, hcount⟩ := houtcomes
      refine ⟨hseen.trans (congrArg (List.filter p) hrecord.symm), ?_, ?_⟩
      · unfold Holds at hheld ⊢
        rw [← hheld]
        exact congrArg (·.get? "messages") hstore
      · rw [hstop]
        rcases met
        · exact ⟨fun _ => Nat.succ_pos _, fun _ => rfl⟩
        · exact ⟨fun hmet => absurd hmet (by simp), fun hpos => absurd hcount (Nat.ne_of_gt hpos)⟩

/-- The last look for the milestone is no exchange. -/
theorem exchanges_closing (s : Session) (direct : Outcome Transcript × World) :
    (closing s direct).exchanges = direct.2.exchanges := by
  have hlook : Step.Leaves (fun e => e.isExchange = false) (stopAtMilestone s) :=
    (Conversation.madeOf_stopAtMilestone (fun _ _ => rfl) s).leaves
  rcases direct with ⟨f | t, w⟩
  · rfl
  · by_cases hstop : t.stop = .completed
    · rw [show closing s (.ok t, w) = (stopAtMilestone s w).2 from if_pos hstop]
      exact hlook.seen w
    · rw [show closing s (.ok t, w) = w from if_neg hstop]

/-- A conversation and a workflow of which nothing but the loop is left end alike, the
exchanges being what they have in common. -/
theorem loopNode_endsAlike (honce : s.flags.once = false) (limit : Nat) (h : w.Alike v)
    (hmessages : Holds v messages) (report : Report) (hreport : report.exhaustedLoops = 0) :
    EndsAlike (fun t report => t.stop = .limit ↔ 0 < report.exhaustedLoops)
      ((passes s limit (standardLimit - 1) 0 messages).run w)
      ((runNodes s Registry.builtin [.mk loopHead standardRound [] []] report).run v) := by
  obtain ⟨hseen, houtcomes⟩ :=
    loopNode_endsAlikeIn (p := Event.isExchange) honce limit h hmessages report hreport
  exact ⟨(exchanges_closing s _).symm.trans hseen, houtcomes⟩

/-! ### The opening -/

theorem contextNode_ok {context : String} {site : Site}
    (hcontext : (Context.build s.texts s.roadmapPath s.forge).run w.site = (.ok context, site))
    (h : w.AlikeIn p v) (report : Report) :
    ∃ v', (runNode s Registry.builtin contextNode report).run v = (.ok report.execute, v') ∧
      World.AlikeIn p { w with site } v' ∧
      v'.store.get? "sdlc_context" = some (.text context) := by
  have hrun := Plugin.run_loadContext s (v.store.resolveInputs []) w
  rw [hcontext] at hrun
  obtain ⟨v', hnode, halike, hstore⟩ :=
    pluginNode_ok Registry.builtin contextNode rfl rfl rfl Plugin.madeOf_loadContext.framed h
      hrun report
  refine ⟨v', hnode, halike, ?_⟩
  rw [hstore, Store.get?_written]
  rfl

theorem contextNode_error {f : Failure} {site : Site}
    (hcontext : (Context.build s.texts s.roadmapPath s.forge).run w.site = (.error f, site))
    (h : w.AlikeIn p v) (report : Report) :
    ∃ v', (runNode s Registry.builtin contextNode report).run v =
        (.error (f.within (nodeFrame "load_context" "core.load_context")), v') ∧
      World.AlikeIn p { w with site } v' := by
  have hrun := Plugin.run_loadContext s (v.store.resolveInputs []) w
  rw [hcontext] at hrun
  exact pluginNode_error Registry.builtin contextNode rfl rfl rfl Plugin.madeOf_loadContext.framed h
    hrun report

theorem seedNode_ok (h : w.AlikeIn p v) {context : Json}
    (hcontext : v.store.get? "sdlc_context" = some context) (report : Report) :
    ∃ v', (runNode s Registry.builtin seedNode report).run v = (.ok report.execute, v') ∧
      w.AlikeIn p v' ∧ Holds v' s.prompt ∧ v'.store.get? "sdlc_context" = some context := by
  have hrun : (Plugin.seedMessages s (v.store.resolveInputs [])).run w =
      (.ok (Plugin.result "messages" (Message.listToJson s.prompt)), w) := rfl
  obtain ⟨v', hnode, halike, hstore⟩ :=
    pluginNode_ok Registry.builtin seedNode rfl rfl rfl Plugin.madeOf_seedMessages.framed h
      hrun report
  refine ⟨v', hnode, halike, ?_, ?_⟩
  · unfold Holds
    rw [hstore, Store.get?_written]
    rfl
  · rw [hstore, Store.get?_written]
    exact hcontext

theorem contextTurnNode_ok (h : w.AlikeIn p v) (hmessages : Holds v messages) {context : String}
    (hcontext : v.store.get? "sdlc_context" = some (.text context)) (report : Report) :
    ∃ v', (runNode s Registry.builtin contextTurnNode report).run v = (.ok report.execute, v') ∧
      w.AlikeIn p v' ∧ Holds v' (messages ++ [Conversation.contextTurn s.texts context]) := by
  have hmessages' : Plugin.input (v.store.resolveInputs [("context", .text "$sdlc_context"),
      ("messages", .text "$messages")]) "messages" = Message.listToJson messages :=
    Store.input_resolveInputs rfl rfl hmessages
  have hrun := Plugin.run_appendContext (s := s) hmessages'
    (Store.input_resolveInputs rfl rfl hcontext) w
  obtain ⟨v', hnode, halike, hstore⟩ :=
    pluginNode_ok Registry.builtin contextTurnNode rfl rfl rfl Plugin.madeOf_appendContext.framed h
      hrun report
  refine ⟨v', hnode, halike, ?_⟩
  unfold Holds
  rw [hstore, Store.get?_written]
  rfl

theorem instructionNode_ok (h : w.AlikeIn p v) (hmessages : Holds v messages) (report : Report) :
    ∃ v', (runNode s Registry.builtin instructionNode report).run v = (.ok report.execute, v') ∧
      w.AlikeIn p v' ∧ Holds v' (messages ++ [Conversation.instructionTurn s.texts]) := by
  have hrun := Plugin.run_appendInstruction (s := s) (input_messages hmessages) w
  obtain ⟨v', hnode, halike, hstore⟩ :=
    pluginNode_ok Registry.builtin instructionNode rfl rfl rfl
      Plugin.madeOf_appendInstruction.framed h hrun report
  refine ⟨v', hnode, halike, ?_⟩
  unfold Holds
  rw [hstore, Store.get?_written]
  rfl

/-- The nodes before the loop put the opening of the conversation into the store. -/
theorem opening_ok {context : String} {site : Site}
    (hcontext : (Context.build s.texts s.roadmapPath s.forge).run w.site = (.ok context, site))
    (h : w.AlikeIn p v) (rest : List Node) (report : Report) :
    ∃ v', (runNodes s Registry.builtin
        (contextNode :: seedNode :: contextTurnNode :: instructionNode :: rest) report).run v =
        (runNodes s Registry.builtin rest (afterRound report)).run v' ∧
      World.AlikeIn p { w with site } v' ∧ Holds v' (Conversation.opening s context) := by
  obtain ⟨v₁, hrun₁, halike₁, hcontext₁⟩ := contextNode_ok hcontext h report
  obtain ⟨v₂, hrun₂, halike₂, hmessages₂, hcontext₂⟩ :=
    seedNode_ok (s := s) halike₁ hcontext₁ report.execute
  obtain ⟨v₃, hrun₃, halike₃, hmessages₃⟩ :=
    contextTurnNode_ok (s := s) halike₂ hmessages₂ hcontext₂ report.execute.execute
  obtain ⟨v₄, hrun₄, halike₄, hmessages₄⟩ :=
    instructionNode_ok (s := s) halike₃ hmessages₃ report.execute.execute.execute
  rw [List.append_assoc] at hmessages₄
  refine ⟨v₄, ?_, halike₄, hmessages₄⟩
  rw [run_runNodes_ok hrun₁, run_runNodes_ok hrun₂, run_runNodes_ok hrun₃, run_runNodes_ok hrun₄]
  rfl

/-! ### The whole workflow -/

/-- The document of the standard workflow is read as the workflow that it was written from. -/
theorem ofJson_standard : ofJson standard.toJson = .ok standard := rfl

/-- The document of the standard workflow is run as its nodes, from an empty store. -/
theorem run_standardDocument (s : Session) (w : World) :
    (runDocument s Registry.builtin standard.toJson).run w =
      (runNodes s Registry.builtin standard.nodes Report.start).run
        { w with store := Store.empty } := by
  have hdocument : (Act.ofOutcome (ofJson standard.toJson)).run w = (.ok standard, w) := by
    rw [ofJson_standard, Act.run_ofOutcome]
  have hissues : noteIssues Registry.builtin standard = pure () := rfl
  unfold runDocument
  rw [Act.run_bind_ok hdocument]
  unfold run
  rw [hissues]
  rfl

/-- The standard workflow holds the conversation of at most ten passes: the same requests,
questions and calls of tools in the same order, the same turns at the end, and a failure of
the same cause.  The limit of passes is what ends the conversation exactly when a loop of the
workflow is exhausted. -/
theorem standard_endsAlike (s : Session) (honce : s.flags.once = false) (w : World) :
    EndsAlike (fun t report => t.stop = .limit ↔ 0 < report.exhaustedLoops)
      ((Conversation.run s 10).run w)
      ((runDocument s Registry.builtin standard.toJson).run w) := by
  have halike : w.Alike { w with store := Store.empty } := (World.Alike.refl w).stored _
  have hjob := Act.run_job (Context.build s.texts s.roadmapPath s.forge) w
  rw [run_standardDocument]
  unfold Conversation.run
  rcases hcontext : (Context.build s.texts s.roadmapPath s.forge).run w.site
    with ⟨f | context, site⟩
  · rw [hcontext] at hjob
    obtain ⟨v', hrun, halike'⟩ := contextNode_error hcontext halike Report.start
    rw [Act.run_bind_error hjob]
    rw [show standard.nodes = contextNode :: _ from rfl, run_runNodes_error hrun]
    exact ⟨halike'.2, _, rfl⟩
  · rw [hcontext] at hjob
    obtain ⟨v', hrun, halike', hmessages⟩ := opening_ok hcontext halike
      [.mk loopHead standardRound [] []] Report.start
    rw [Act.run_bind_ok hjob]
    rw [show standard.nodes = contextNode :: _ from rfl, hrun]
    exact loopNode_endsAlike honce 10 halike' hmessages _ rfl

/-- A conversation of two passes, the first of which calls a tool. -/
theorem standard_endsAlike_rehearsal :
    let s := Rehearsal.session ⟨false, true, false⟩ ⟨[]⟩ [("echo", .echoes)]
    let replies := [
      Reply.message (Message.requesting [ToolCall.new "1" "echo" ""]),
      Reply.message (Message.assistant "done")]
    let w : World := ⟨{ (default : Site) with rehearsal := ⟨replies, [], 0⟩ }, Store.empty, []⟩
    EndsAlike (fun t report => t.stop = .limit ↔ 0 < report.exhaustedLoops)
      ((Conversation.run s 10).run w)
      ((runDocument s Registry.builtin standard.toJson).run w) :=
  standard_endsAlike _ rfl _

end AgentWorkflow.Workflow
