/-
Notices are sent once, whatever becomes of them.

* `Channel.forgiving`, `Session.forgiving` — a channel that does not fail in place of one that may,
  and a session with such channels.
* `Conversation.run_forgiving` — with them a conversation ends in the same way and leaves the same
  world.
* `Workflow.run_forgiving` — so does every workflow that does not ask how many channels delivered
  its message.
* `sends_once` — what a conversation and the standard workflow send, when, and how often.

Design notes: a run that sends a message goes on in the same way whatever the channel answers, but
it takes a note when the message could not be delivered.  A channel that takes the note itself is
therefore as good as one that fails, and the runs are the same to the letter.
-/
import AgentWorkflow.Proofs.Courses
import AgentWorkflow.Proofs.StoreContents

namespace AgentWorkflow

/-! ### Channels -/

namespace Channel

/-- A channel that takes the note itself on a message that could not be delivered. -/
def forgiving (c : Channel) : Channel where
  name := c.name
  send message := (c.send message).tryCatch fun f => liftM (Deed.note (c.failureNote f))

theorem run_forgiving (c : Channel) (message : String) (site : Site) :
    (c.forgiving.send message).run site =
      match (c.send message).run site with
      | (.ok _, site') => (.ok (), site')
      | (.error f, site') => (.ok (), (Deed.note (c.failureNote f) site').2) := by
  unfold forgiving
  rw [run_tryCatch]
  rcases (c.send message).run site with ⟨f | _, site'⟩
  · rfl
  · rfl

end Channel

namespace Session

/-- The session with channels that do not fail. -/
def forgiving (s : Session) : Session := { s with channels := s.channels.map Channel.forgiving }

/-- The channels of such a session do not fail. -/
theorem forgiving_delivers (s : Session) :
    ∀ c ∈ s.forgiving.channels, ∀ message site, ((c.send message).run site).1 = .ok () := by
  intro c hc message site
  obtain ⟨c', -, rfl⟩ := List.mem_map.mp hc
  rw [Channel.run_forgiving]
  rcases (c'.send message).run site with ⟨f | _, site'⟩
  · rfl
  · rfl

theorem notify_forgiving (message : String) (c : Channel) (w : World) :
    (notify message c.forgiving w).2 = (notify message c w).2 := by
  rw [run_notify, run_notify, Channel.run_forgiving]
  rcases (c.send message).run w.site with ⟨f | _, site⟩
  · rfl
  · rfl

/-- Whether channels fail is seen from the count alone. -/
theorem notifyEach_forgiving (message : String) (channels : List Channel) (w : World) :
    (notifyEach message (channels.map Channel.forgiving) w).2 =
      (notifyEach message channels w).2 := by
  induction channels generalizing w with
  | nil => rfl
  | cons c rest ih =>
    show (notifyEach message (rest.map Channel.forgiving) (notify message c.forgiving w).2).2 =
      (notifyEach message rest (notify message c w).2).2
    rw [notify_forgiving, ih]

end Session

/-! ### Conversations -/

namespace Conversation

theorem announce_forgiving (s : Session) : announce s.forgiving = announce s := by
  funext reply w
  unfold announce
  split
  · rfl
  · exact congrArg (Prod.mk ()) (Session.notifyEach_forgiving _ s.channels w)

theorem stopAtMilestone_forgiving (s : Session) :
    stopAtMilestone s.forgiving = stopAtMilestone s := by
  funext w
  unfold stopAtMilestone
  rw [show s.forgiving.flags = s.flags from rfl]
  split
  · rfl
  · rw [Step.run_bind, Step.run_bind,
      show milestoneReached s.forgiving = milestoneReached s from rfl]
    split
    · exact congrArg (Prod.mk true) (Session.notifyEach_forgiving _ s.channels _)
    · rfl

theorem run_forgiving (s : Session) (limit : Nat) : run s.forgiving limit = run s limit := by
  have hdispatch : Dispatch.run s.forgiving = Dispatch.run s := Dispatch.run_congr s _ rfl rfl
  unfold run
  rw [passes_congr s s.forgiving rfl rfl rfl (announce_forgiving s) hdispatch
    (stopAtMilestone_forgiving s)]
  rfl

end Conversation

/-! ### Workflows -/

namespace Plugin

/-- The name of the plugin that answers how many channels delivered a message. -/
def notifyName : String := "notifications.all"

theorem runToolCalls_forgiving (s : Session) : runToolCalls s.forgiving = runToolCalls s := by
  have hdispatch : Dispatch.run s.forgiving = Dispatch.run s := Dispatch.run_congr s _ rfl rfl
  unfold runToolCalls
  rw [hdispatch, Conversation.announce_forgiving]

theorem appendToolResults_forgiving (s : Session) :
    appendToolResults s.forgiving = appendToolResults s := by
  unfold appendToolResults
  rw [Conversation.stopAtMilestone_forgiving]

/-- Two plugins send notices and do not say what came of them, one says it, and the others do
not look at the channels. -/
theorem forgiving_of_mem_builtin (s : Session) :
    ∀ entry ∈ builtin, entry.1 ≠ notifyName → entry.2 s.forgiving = entry.2 s := by
  unfold builtin
  simp only [List.forall_mem_append, List.forall_mem_cons, List.forall_mem_map]
  refine ⟨⟨⟨fun _ => rfl, fun _ => rfl, fun _ => appendToolResults_forgiving s, fun _ => rfl,
      fun _ => rfl, fun _ => runToolCalls_forgiving s, fun _ => rfl, fun h => absurd rfl h, ?_⟩,
    fun _ _ _ => rfl⟩,
    fun _ => rfl, fun _ => rfl, fun _ => rfl, fun _ => rfl, fun _ => rfl, fun _ => rfl,
    fun _ => rfl, fun _ => rfl, fun _ => rfl, fun _ => rfl, fun _ => rfl, fun _ => rfl, ?_⟩
  · exact fun _ hmem => absurd hmem List.not_mem_nil
  · exact fun _ hmem => absurd hmem List.not_mem_nil

end Plugin

namespace Workflow

/-- Channels that fail change nothing in the run of a workflow that does not ask for the
count. -/
theorem run_forgiving (s : Session) {w : Workflow} (hnodes : ¬w.Uses [Plugin.notifyName]) :
    run s.forgiving Registry.builtin w = run s Registry.builtin w := by
  refine run_congr s s.forgiving rfl rfl fun entry hentry type plugin hkind hget => ?_
  refine Plugin.forgiving_of_mem_builtin s _ (Table.mem_of_get? hget) fun htype => ?_
  refine hnodes ⟨entry, hentry, List.mem_singleton.mpr ?_⟩
  rw [NodeHead.type_of_kind hkind]
  exact htype

theorem standard_forgiving (s : Session) :
    runDocument s.forgiving Registry.builtin standard.toJson =
      runDocument s Registry.builtin standard.toJson := by
  have hrun : run s.forgiving Registry.builtin standard = run s Registry.builtin standard :=
    run_forgiving s (by decide)
  unfold runDocument
  rw [ofJson_standard, Act.ofOutcome, pure_bind, pure_bind, hrun]

end Workflow

/-! ### Notices -/

/-- In a conversation of any number of passes and in every run of the standard workflow, whatever
the model replies and whatever the tools and channels make of the roadmap, a notice of the milestone
is sent once to every channel or not at all: when nothing is to be asked, by a look that finds the
milestone reached, and then nothing that reaches beyond the run comes after it.  A notice of the end
is sent once to every channel or not at all, for a reply without calls that has something in it.
With channels that do not fail the run has the same outcome, and leaves the same world. -/
theorem sends_once (s : Session) (w : World) :
    (∀ limit,
      let conversation := (Conversation.run s limit).run w
      (∃ stages completion milestone, Follows s w stages conversation.2 ∧
        Sends s w stages conversation.2 completion milestone) ∧
      (Conversation.run s.forgiving limit).run w = conversation) ∧
    (let steps := (Workflow.runDocument s Registry.builtin Workflow.standard.toJson).run w
     (∃ stages completion milestone, Follows s w stages steps.2 ∧
        Sends s w stages steps.2 completion milestone) ∧
      (Workflow.runDocument s.forgiving Registry.builtin Workflow.standard.toJson).run w = steps) ∧
    ∀ c ∈ s.forgiving.channels, ∀ message site, ((c.send message).run site).1 = .ok () := by
  refine ⟨fun limit => ⟨?_, ?_⟩, ⟨?_, ?_⟩, s.forgiving_delivers⟩
  · obtain ⟨stages, hfollows⟩ := Conversation.run_follows s limit w
    obtain ⟨completion, milestone, hsent⟩ := hfollows.sends
    exact ⟨stages, completion, milestone, hfollows, hsent⟩
  · rw [Conversation.run_forgiving]
  · obtain ⟨stages, hfollows⟩ := Workflow.standard_follows s w
    obtain ⟨completion, milestone, hsent⟩ := hfollows.sends
    exact ⟨stages, completion, milestone, hfollows, hsent⟩
  · rw [Workflow.standard_forgiving]

end AgentWorkflow
