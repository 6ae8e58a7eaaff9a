/-
Runs that hold a conversation go through its stages.

* `Follows` — a run leaves what the stages of a course leave, but for calls of plugins and notes.
* `Conversation.run_follows` — every conversation does, whatever its limit of passes.
* `Workflow.repeatPasses_follows` — the loop of the standard workflow does, and
  `Workflow.standard_follows`, the whole workflow.

Design notes: the workflow holds the conversation round by round, so the lemmas about its rounds
give the stages of each one, and the induction is on the passes that the loop has left.  A loop
that is cut down to one pass is one with a smaller limit, so nothing is assumed of the flags.
-/
import AgentWorkflow.Proofs.LoopPasses
import AgentWorkflow.Proofs.Stages

namespace AgentWorkflow

open Stage (after)

/-- A run has gone through the stages of a course.  It leaves the same events, but for the calls of
plugins, and the same site, but for notes at the end. -/
structure Follows (s : Session) (w : World) (stages : List Stage) (w' : World) : Prop where
  course : Course s w stages
  seen : w'.seen Event.isOutward = (after s stages w).seen Event.isOutward
  noted : (after s stages w).site.Noted w'.site

namespace Follows

variable {s : Session} {w v v' : World} {stages : List Stage} {messages : List Message}
  {reply : Message}

theorem of_alike (hcourse : Course s w stages)
    (halike : (after s stages w).AlikeIn Event.isOutward v) : Follows s w stages v where
  course := hcourse
  seen := halike.2.symm
  noted := halike.1 ▸ .refl _

/-- The end of the stages themselves. -/
theorem refl (hcourse : Course s w stages) : Follows s w stages (after s stages w) :=
  of_alike hcourse (World.AlikeIn.refl _ _)

/-- Notes may be taken at the end. -/
theorem note (h : Follows s w stages v) (hrecord : v'.record = v.record)
    (hnoted : v.site.Noted v'.site) : Follows s w stages v' where
  course := h.course
  seen := (congrArg (List.filter Event.isOutward) hrecord).trans h.seen
  noted := h.noted.trans hnoted

theorem context (h : Follows s (Stage.context.run s w) stages v) :
    Follows s w (.context :: stages) v where
  course := .context h.course
  seen := h.seen
  noted := h.noted

/-- A reply with calls, whose look does not find the milestone, goes before the rest. -/
theorem answered (hreply : (s.pose ⟨s.model, messages, s.specs⟩ w).1 = .ok reply)
    (hcalls : reply.hasToolCalls = true)
    (hdue : ¬s.milestoneDue (after s [.request messages, .dispatch reply.toolCalls] w).site = true)
    (h : Follows s (after s [.request messages, .dispatch reply.toolCalls, .look] w) stages v) :
    Follows s w (.request messages :: .dispatch reply.toolCalls :: .look :: stages) v where
  course := .answered hreply hcalls (fun hdue' => absurd hdue' hdue) h.course
  seen := h.seen
  noted := h.noted

/-- Such a run sends the notices of the course. -/
theorem sends (h : Follows s w stages v) :
    ∃ completion milestone, Sends s w stages v completion milestone := by
  obtain ⟨completion, milestone, hsent⟩ := h.course.sends
  have hdelivered : ∀ channel message, Event.isOutward (.delivered channel message) = true :=
    fun _ _ => rfl
  have hdeliveries : v.deliveries = (after s stages w).deliveries := by
    rw [World.deliveries_eq_seen hdelivered, World.deliveries_eq_seen hdelivered, h.seen]
  refine ⟨completion, milestone, hdeliveries.trans hsent.deliveries, hsent.completion, ?_⟩
  rw [h.seen]
  exact hsent.milestone

end Follows

/-! ### The conversation -/

namespace Conversation

theorem passes_follows (s : Session) (limit left done : Nat) (messages : List Message)
    (w : World) :
    ∃ stages, Follows s w stages ((passes s limit left done messages).run w).2 := by
  induction left using Nat.strongRecOn generalizing done messages w with
  | ind left ih =>
  rw [run_passes]
  rcases hpose : s.pose ⟨s.model, messages, s.specs⟩ w with ⟨f | reply, w₁⟩
  · obtain rfl : (Stage.request messages).run s w = w₁ := congrArg Prod.snd hpose
    exact ⟨_, .refl (.asked w messages)⟩
  obtain rfl : (Stage.request messages).run s w = w₁ := congrArg Prod.snd hpose
  have hreply : (s.pose ⟨s.model, messages, s.specs⟩ w).1 = .ok reply := congrArg Prod.fst hpose
  dsimp only
  by_cases hcalls : reply.hasToolCalls = false
  · rw [if_pos hcalls]
    exact ⟨_, .refl (.completed hreply hcalls (.inl rfl))⟩
  rw [if_neg hcalls]
  have hcalls : reply.hasToolCalls = true := Bool.not_eq_false _ ▸ hcalls
  by_cases honce : (s.flags.once && decide (2 ≤ done + 1)) = true
  · -- More is not made of the reply.
    rw [if_pos honce]
    exact ⟨_, .refl (.asked w messages)⟩
  rw [if_neg honce, Session.fst_stopAtMilestone]
  split
  · exact ⟨_, .refl (.answered hreply hcalls (fun _ => rfl) (.done _))⟩
  · next hdue =>
    rcases left with _ | left
    · have hrefl := Follows.refl (.answered hreply hcalls (fun _ => rfl) (.done _))
      exact ⟨_, hrefl.note rfl ⟨_, rfl⟩⟩
    · obtain ⟨stages, hstages⟩ := ih left (Nat.lt_succ_self left) (done + 1) _ _
      exact ⟨_, hstages.answered hreply hcalls hdue⟩

/-- A conversation goes through the stages of a course. -/
theorem run_follows (s : Session) (limit : Nat) (w : World) :
    ∃ stages, Follows s w stages ((run s limit).run w).2 := by
  have hjob := Act.run_job (Context.build s.texts s.roadmapPath s.forge) w
  unfold run
  rcases hcontext : ((Context.build s.texts s.roadmapPath s.forge).run w.site).1 with f | context
  · rw [hcontext] at hjob
    rw [Act.run_bind_error hjob]
    exact ⟨_, .refl (.context (.done _))⟩
  · rw [hcontext] at hjob
    rw [Act.run_bind_ok hjob]
    obtain ⟨stages, hstages⟩ := passes_follows s limit (limit - 1) 0 (opening s context) _
    exact ⟨_, hstages.context⟩

end Conversation

/-! ### The standard workflow -/

namespace Workflow

open Conversation (stopAtMilestone)

variable {s : Session} {w v : World} {messages : List Message}

/-- The passes of the loop, in any world that is alike. -/
theorem repeatPasses_follows (limit : Nat) (h : w.AlikeIn Event.isOutward v)
    (hmessages : Holds v messages) (report : Report) :
    ∃ stages, Follows s w stages
      ((repeatPasses (runNodes s Registry.builtin standardRound) (stopsHere loopHead true)
        limit report).run v).2 := by
  induction limit generalizing w v messages report with
  | zero => exact ⟨[], .of_alike (.done w) h⟩
  | succ limit ih =>
    rcases hpose : s.pose ⟨s.model, messages, s.specs⟩ w with ⟨f | reply, w₁⟩
    · obtain ⟨v₁, hround, halike⟩ := round_refused h hmessages hpose report.pass
      obtain rfl : (Stage.request messages).run s w = w₁ := congrArg Prod.snd hpose
      rw [run_repeatPasses_error hround]
      exact ⟨_, .of_alike (.asked w messages) halike⟩
    have hreply : (s.pose ⟨s.model, messages, s.specs⟩ w).1 = .ok reply := congrArg Prod.fst hpose
    by_cases hcalls : reply.hasToolCalls = false
    · -- The round goes on to the node that looks for the milestone.
      obtain ⟨v₁, hround, halike, -, hstop⟩ :=
        round_completed h hmessages hpose hcalls report.pass
      obtain rfl : (Stage.request messages).run s w = w₁ := congrArg Prod.snd hpose
      rw [run_repeatPasses_ok hround, if_pos (stopsHere_loopHead hstop)]
      exact ⟨_, .of_alike (.completed hreply hcalls (.inr rfl)) halike⟩
    have hcalls : reply.hasToolCalls = true := Bool.not_eq_false _ ▸ hcalls
    obtain ⟨v₁, hround, halike, hmessages₁, hstop⟩ :=
      round_answered h hmessages hpose hcalls report.pass
    obtain rfl : (Stage.request messages).run s w = w₁ := congrArg Prod.snd hpose
    rw [run_repeatPasses_ok hround, stopsHere_loopHead hstop, Session.fst_stopAtMilestone]
    split
    · exact ⟨_, .of_alike (.answered hreply hcalls (fun _ => rfl) (.done _)) halike⟩
    · next hdue =>
      obtain ⟨stages, hstages⟩ := ih halike hmessages₁ _
      exact ⟨_, hstages.answered hreply hcalls hdue⟩

/-- The loop node: its passes, and a note at most when they ran out. -/
theorem loopNode_follows (h : w.AlikeIn Event.isOutward v) (hmessages : Holds v messages)
    (report : Report) :
    ∃ stages, Follows s w stages
      ((runNodes s Registry.builtin [.mk loopHead standardRound [] []] report).run v).2 := by
  have hnode : (runNode s Registry.builtin (.mk loopHead standardRound [] []) report).run v = _ :=
    run_loopNode_admitted report rfl ⟨rfl, rfl⟩ rfl
  obtain ⟨stages, hstages⟩ := repeatPasses_follows (s := s) (Machine.capped s standardLimit) h
    hmessages report.execute
  refine ⟨stages, ?_⟩
  rcases hpasses : (repeatPasses (runNodes s Registry.builtin standardRound)
    (stopsHere loopHead true) (Machine.capped s standardLimit) report.execute).run v
    with ⟨f | ⟨met, report'⟩, v₁⟩
  · rw [hpasses] at hstages
    rw [run_runNodes_error (hnode.trans (Act.run_bind_error hpasses))]
    exact hstages
  · rw [hpasses] at hstages
    obtain ⟨report'', site, hfinish, -, hnoted⟩ :=
      run_finishLoop s loopHead (Machine.capped s standardLimit) met report' v₁
    rw [run_runNodes_ok (hnode.trans ((Act.run_bind_ok hpasses).trans hfinish))]
    exact hstages.note rfl hnoted

/-- The standard workflow goes through the stages of a course. -/
theorem standard_follows (s : Session) (w : World) :
    ∃ stages, Follows s w stages ((runDocument s Registry.builtin standard.toJson).run w).2 := by
  have halike : w.AlikeIn Event.isOutward { w with store := Store.empty } :=
    (World.AlikeIn.refl _ w).stored _
  rw [run_standardDocument, show standard.nodes = contextNode :: _ from rfl]
  rcases hcontext : (Context.build s.texts s.roadmapPath s.forge).run w.site
    with ⟨f | context, site⟩
  · obtain ⟨v', hrun, halike'⟩ := contextNode_error hcontext halike Report.start
    obtain rfl := congrArg Prod.snd hcontext
    rw [run_runNodes_error hrun]
    exact ⟨_, .of_alike (.context (.done _)) halike'⟩
  · obtain ⟨v', hrun, halike', hmessages⟩ := opening_ok hcontext halike
      [.mk loopHead standardRound [] []] Report.start
    obtain rfl := congrArg Prod.snd hcontext
    rw [hrun]
    obtain ⟨stages, hstages⟩ := loopNode_follows halike' hmessages (afterRound Report.start)
    exact ⟨_, hstages.context⟩

end Workflow

end AgentWorkflow
