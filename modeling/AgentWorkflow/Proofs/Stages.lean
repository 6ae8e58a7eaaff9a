/-
A conversation in stages.

* `Event.isOutward` — an event that reaches beyond the run: any but the call of a plugin.
* `Stage` — what a conversation does next, and `Stage.run`, what that does to a world.
* `Stage.notices` — the notices that a stage sends; `Stage.deliveries_run` — it sends no others.
* `Stage.Begins` — where in a row a stage begins: in which world, and what follows it.
* `Course` — the rows of stages that there can be: a reply decides what follows it.
* `Sends` — notices of the end, and then of the milestone, each kind once to every channel or not
  at all, and what they were sent for; `Course.sends` — a course sends such notices.

Design notes: two notices may read the same, so the record does not tell of which kind a delivery
is, and notices are told apart by the stages that send them.  What the site is like when a stage
begins is computed from the stages before it, so that a law can speak of the roadmap as it is at
that moment, whatever tools and channels have made of it.
-/
import AgentWorkflow.Proofs.Notices

namespace AgentWorkflow

open Step (Leaves)

/-! ### What reaches beyond a run -/

namespace Event

/-- An event reaches beyond the run: it is not the call of a plugin. -/
def isOutward : Event → Bool
  | .called _ _ => false
  | .requested _ | .replied _ | .asked _ _ | .invoked _ _ | .delivered _ _ => true

instance hidesCalls_isOutward : HidesCalls isOutward := ⟨fun _ _ => rfl⟩

end Event

namespace World

/-- Deliveries that are put at the end of the record are the last events that reach beyond
the run. -/
theorem outward_of_record {w w' : World} {notices : List (String × String)}
    (h : w'.record = w.record ++ notices.map Event.ofNotice) :
    w'.seen Event.isOutward = w.seen Event.isOutward ++ notices.map Event.ofNotice := by
  have hnotices : (notices.map Event.ofNotice).filter Event.isOutward =
      notices.map Event.ofNotice := by
    rw [List.filter_eq_self, List.forall_mem_map]
    exact fun _ _ => rfl
  unfold seen
  rw [h, List.filter_append, hnotices]

end World

/-! ### Stages -/

/-- What a conversation does next. -/
inductive Stage where
  /-- To collect the context. -/
  | context
  /-- To ask the model for the turn after these. -/
  | request (messages : List Message)
  /-- To run the calls of a reply. -/
  | dispatch (calls : List ToolCall)
  /-- To announce the end of the work. -/
  | announce (reply : Message)
  /-- To look for the milestone of the roadmap. -/
  | look

/-- The notices that the work is done, with the beginning of the reply. -/
def Session.completionNotices (s : Session) (reply : Message) : List (String × String) :=
  s.channels.map fun c => (c.name, Conversation.completionNotice s.texts reply.text)

namespace Stage

/-- What a stage does to a world. -/
def run (s : Session) (w : World) : Stage → World
  | context => { w with site := ((Context.build s.texts s.roadmapPath s.forge).run w.site).2 }
  | request messages => (s.pose ⟨s.model, messages, s.specs⟩ w).2
  | dispatch calls => (Dispatch.run s calls w).2
  | announce reply => (Conversation.announce s reply w).2
  | look => (Conversation.stopAtMilestone s w).2

/-- What stages in a row do to a world. -/
def after (s : Session) (stages : List Stage) (w : World) : World := stages.foldl (run s) w

/-- The notices that a stage sends. -/
def notices (s : Session) (w : World) : Stage → List (String × String)
  | announce reply => if reply.text.isEmpty then [] else s.completionNotices reply
  | look => if s.milestoneDue w.site then s.milestoneNotices else []
  | context | request _ | dispatch _ => []

/-- In a row of stages from a world, a stage begins in another world, and others follow it. -/
inductive Begins (s : Session) : World → List Stage → World → Stage → List Stage → Prop
  | here (w : World) (stage : Stage) (rest : List Stage) : Begins s w (stage :: rest) w stage rest
  | there {w v : World} {first stage : Stage} {rest later : List Stage}
      (h : Begins s (first.run s w) rest v stage later) :
    Begins s w (first :: rest) v stage later

@[simp] theorem after_nil (s : Session) (w : World) : after s [] w = w := rfl

@[simp] theorem after_cons (s : Session) (stage : Stage) (rest : List Stage) (w : World) :
    after s (stage :: rest) w = after s rest (stage.run s w) := rfl

theorem deliveries_of_leaves {α : Type} {st : Step α}
    (h : Leaves (fun e => e.isDelivery = false) st) (w : World) :
    (st w).2.deliveries = w.deliveries := by
  rw [World.deliveries_eq, World.deliveries_eq, h.seen w]

theorem deliveries_announce (s : Session) (reply : Message) (w : World) :
    (Conversation.announce s reply w).2.deliveries =
      w.deliveries ++ if reply.text.isEmpty then [] else s.completionNotices reply := by
  unfold Conversation.announce
  by_cases hempty : reply.text.isEmpty = true
  · rw [if_pos hempty, if_pos hempty]
    exact (List.append_nil _).symm
  · rw [if_neg hempty, if_neg hempty]
    exact World.deliveries_of_record (Session.record_notifyEach _ s.channels w)

/-- A stage sends its notices and no others. -/
theorem deliveries_run (s : Session) (w : World) (stage : Stage) :
    (stage.run s w).deliveries = w.deliveries ++ stage.notices s w := by
  cases stage with
  | context => exact (List.append_nil _).symm
  | request messages =>
    have hquiet := (Session.madeOf_pose (P := fun e => e.isDelivery = false) (fun _ => rfl)
      (fun _ => rfl) s ⟨s.model, messages, s.specs⟩).leaves
    exact (deliveries_of_leaves hquiet w).trans (List.append_nil _).symm
  | dispatch calls =>
    have hquiet := (Dispatch.madeOf_run (P := fun e => e.isDelivery = false) s (fun _ _ => rfl)
      (fun _ _ _ => rfl) calls).leaves
    exact (deliveries_of_leaves hquiet w).trans (List.append_nil _).symm
  | announce reply => exact deliveries_announce s reply w
  | look => exact Session.deliveries_stopAtMilestone s w

end Stage

/-! ### Courses -/

open Stage (after)

/-- The rows of stages that a conversation can go through from a world. -/
inductive Course (s : Session) : World → List Stage → Prop
  | done (w : World) : Course s w []
  | context {w : World} {rest : List Stage} (hrest : Course s (Stage.context.run s w) rest) :
    Course s w (.context :: rest)
  /-- The model refuses, or no more is made of its reply. -/
  | asked (w : World) (messages : List Message) : Course s w [.request messages]
  /-- A reply without calls is announced.  A look may follow. -/
  | completed {w : World} {messages : List Message} {reply : Message} {rest : List Stage}
      (hreply : (s.pose ⟨s.model, messages, s.specs⟩ w).1 = .ok reply)
      (hcalls : reply.hasToolCalls = false) (hrest : rest = [] ∨ rest = [.look]) :
    Course s w (.request messages :: .announce reply :: rest)
  /-- The calls of a reply are run, and a look follows.  Nothing follows one that finds the
  milestone. -/
  | answered {w : World} {messages : List Message} {reply : Message} {rest : List Stage}
      (hreply : (s.pose ⟨s.model, messages, s.specs⟩ w).1 = .ok reply)
      (hcalls : reply.hasToolCalls = true)
      (hdue : s.milestoneDue (after s [.request messages, .dispatch reply.toolCalls] w).site =
        true → rest = [])
      (hrest : Course s (after s [.request messages, .dispatch reply.toolCalls, .look] w) rest) :
    Course s w (.request messages :: .dispatch reply.toolCalls :: .look :: rest)

/-! ### Notices -/

/-- The notices that a run sent from one world to another one, in the course of stages: those of the
end, and those of the milestone after them.  Either kind was sent once to every channel, or it was
not sent. -/
structure Sends (s : Session) (w : World) (stages : List Stage) (w' : World)
    (completion milestone : List (String × String)) : Prop where
  deliveries : w'.deliveries = w.deliveries ++ completion ++ milestone
  /-- A reply to a request called no tool, and there was something in it. -/
  completion : completion = [] ∨ ∃ v messages reply later,
    Stage.Begins s w stages v (.request messages) (.announce reply :: later) ∧
      (s.pose ⟨s.model, messages, s.specs⟩ v).1 = .ok reply ∧
      reply.hasToolCalls = false ∧ reply.text.isEmpty = false ∧
      completion = s.completionNotices reply
  /-- A look, the last stage, found the milestone, and nothing was to be asked.  The notices are the
  last that reached beyond the run. -/
  milestone : milestone = [] ∨ ∃ v,
    Stage.Begins s w stages v .look [] ∧ s.flags.yolo = true ∧
      (Roadmap.milestoneReached s.roadmapPath v.site).1 = true ∧
      milestone = s.milestoneNotices ∧
      w'.seen Event.isOutward = v.seen Event.isOutward ++ milestone.map Event.ofNotice

namespace Sends

variable {s : Session} {w w' : World} {rest : List Stage}
  {completion milestone : List (String × String)}

theorem nil (s : Session) (w : World) : Sends s w [] w [] [] where
  deliveries := by simp
  completion := .inl rfl
  milestone := .inl rfl

/-- A stage before them that sends nothing. -/
theorem cons {stage : Stage} (hquiet : stage.notices s w = [])
    (h : Sends s (stage.run s w) rest w' completion milestone) :
    Sends s w (stage :: rest) w' completion milestone where
  deliveries := by rw [h.deliveries, Stage.deliveries_run, hquiet, List.append_nil]
  completion := h.completion.imp_right fun ⟨v, messages, reply, later, hrequest, hsent⟩ =>
    ⟨v, messages, reply, later, .there hrequest, hsent⟩
  milestone := h.milestone.imp_right fun ⟨v, hlook, hsent⟩ => ⟨v, .there hlook, hsent⟩

/-- A look that nothing follows. -/
theorem look (s : Session) (w : World) :
    Sends s w [.look] (Stage.look.run s w) [] (Stage.look.notices s w) where
  deliveries := by rw [Stage.deliveries_run, List.append_nil]
  completion := .inl rfl
  milestone := by
    by_cases hdue : s.milestoneDue w.site = true
    · have hflags : s.flags.yolo = true ∧
          (Roadmap.milestoneReached s.roadmapPath w.site).1 = true := by
        simpa [Session.milestoneDue] using hdue
      exact .inr ⟨w, .here _ _ _, hflags.1, hflags.2, if_pos hdue,
        World.outward_of_record (Session.record_stopAtMilestone s w)⟩
    · exact .inl (if_neg hdue)

/-- A reply without calls is announced, and nothing or a look follows. -/
theorem completed {messages : List Message} {reply : Message}
    (hreply : (s.pose ⟨s.model, messages, s.specs⟩ w).1 = .ok reply)
    (hcalls : reply.hasToolCalls = false) (hrest : rest = [] ∨ rest = [.look]) :
    ∃ completion milestone, Sends s w (.request messages :: .announce reply :: rest)
      (after s (.request messages :: .announce reply :: rest) w) completion milestone := by
  have hlater : ∃ milestone, Sends s (after s [.request messages, .announce reply] w) rest
      (after s (.request messages :: .announce reply :: rest) w) [] milestone := by
    rcases hrest with rfl | rfl
    · exact ⟨[], nil s _⟩
    · exact ⟨_, look s _⟩
  obtain ⟨milestone, hmilestone⟩ := hlater
  have hrequested : ((Stage.request messages).run s w).deliveries = w.deliveries :=
    (Stage.deliveries_run s w (.request messages)).trans (List.append_nil _)
  have hannounced := Stage.deliveries_run s ((Stage.request messages).run s w) (.announce reply)
  refine ⟨(Stage.announce reply).notices s ((Stage.request messages).run s w), milestone,
    ?_, ?_, ?_⟩
  · rw [hmilestone.deliveries, Stage.after_cons, Stage.after_cons, Stage.after_nil, hannounced,
      hrequested, List.append_nil]
  · by_cases hempty : reply.text.isEmpty = true
    · exact .inl (if_pos hempty)
    · exact .inr ⟨w, messages, reply, rest, .here _ _ _, hreply, hcalls,
        Bool.eq_false_iff.mpr hempty, if_neg hempty⟩
  · exact hmilestone.milestone.imp_right fun ⟨v, hlook, hsent⟩ =>
      ⟨v, .there (.there hlook), hsent⟩

end Sends

/-- The notices of a course. -/
theorem Course.sends {s : Session} {w : World} {stages : List Stage} (h : Course s w stages) :
    ∃ completion milestone, Sends s w stages (after s stages w) completion milestone := by
  induction h with
  | done => exact ⟨[], [], Sends.nil s _⟩
  | context _ ih =>
    obtain ⟨completion, milestone, hsent⟩ := ih
    exact ⟨completion, milestone, hsent.cons rfl⟩
  | asked => exact ⟨[], [], (Sends.nil s _).cons rfl⟩
  | completed hreply hcalls hrest => exact Sends.completed hreply hcalls hrest
  | @answered w messages reply rest _ _ hnext _ ih =>
    by_cases hdue : s.milestoneDue
        (after s [.request messages, .dispatch reply.toolCalls] w).site = true
    · obtain rfl : rest = [] := hnext hdue
      exact ⟨[], _, ((Sends.look s _).cons rfl).cons rfl⟩
    · obtain ⟨completion, milestone, hsent⟩ := ih
      have hquiet : Stage.look.notices s (after s [.request messages,
          .dispatch reply.toolCalls] w) = [] := if_neg hdue
      exact ⟨completion, milestone, ((hsent.cons hquiet).cons rfl).cons rfl⟩

end AgentWorkflow
