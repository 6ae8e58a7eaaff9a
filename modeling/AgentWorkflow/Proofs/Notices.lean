/-
The notices that a run sends.

* `World.deliveries` — the messages so far that were to be delivered, each with its channel.
* `Session.run_notify` — what becomes of a message to one channel.
* `Session.milestoneDue`, `Session.milestoneNotices` — when a look for the milestone sends
  notices, and which ones.
* `Workflow.seen_standard` — the standard workflow leaves the events of the conversation
  and those of a last look for the milestone, whatever choice of events is made.
* `Workflow.lateNotices` — the notices of that last look.
* `Workflow.deliveries_standard` — the notices of the standard workflow are those of the
  conversation and the late ones, and when there are late ones.

Design notes: a delivery is recorded before the channel is asked, so one that the channel
refuses counts.  Both forms look for the milestone after the tools of a reply were run; after
a reply without calls the workflow alone looks for it, for its round goes on to the node that
looks.
-/
import AgentWorkflow.Proofs.StandardWorkflow

namespace AgentWorkflow

namespace Event

/-- The channel and the message of a delivery. -/
def delivery? : Event → Option (String × String)
  | .delivered channel message => some (channel, message)
  | _ => none

def isDelivery (e : Event) : Bool := e.delivery?.isSome

/-- The delivery of a message to a channel. -/
def ofNotice (notice : String × String) : Event := .delivered notice.1 notice.2

instance hidesCalls_isDelivery : HidesCalls isDelivery := ⟨fun _ _ => rfl⟩

end Event

namespace World

/-- The messages so far that were to be delivered, the first one first. -/
def deliveries (w : World) : List (String × String) := w.record.filterMap Event.delivery?

/-- Deliveries that are put at the end of the record are the last ones. -/
theorem deliveries_of_record {w w' : World} {notices : List (String × String)}
    (h : w'.record = w.record ++ notices.map Event.ofNotice) :
    w'.deliveries = w.deliveries ++ notices := by
  have hnotices : (notices.map Event.ofNotice).filterMap Event.delivery? = notices := by
    rw [List.filterMap_map]
    exact List.filterMap_some
  unfold deliveries
  rw [h, List.filterMap_append, hnotices]

/-- The deliveries are seen among the events of a choice that shows them all. -/
theorem deliveries_eq_seen {p : Event → Bool}
    (hp : ∀ channel message, p (.delivered channel message) = true) (w : World) :
    w.deliveries = (w.seen p).filterMap Event.delivery? := by
  unfold deliveries seen
  rw [List.filterMap_filter]
  refine List.filterMap_congr fun e _ => ?_
  cases e with
  | delivered channel message => rw [if_pos (hp channel message)]
  | requested | replied | asked | invoked | called => simp [Event.delivery?]

theorem deliveries_eq (w : World) :
    w.deliveries = (w.seen Event.isDelivery).filterMap Event.delivery? :=
  deliveries_eq_seen (fun _ _ => rfl) w

end World

/-- The note on a message that a channel failed to deliver. -/
def Channel.failureNote (c : Channel) (f : Failure) : Note :=
  .warning "notification failed" [("channel", c.name), ("err", f.message)]

namespace Session

/-- Sending a message to a channel: the delivery is recorded whatever the channel answers, and a
note is taken of a failure. -/
theorem run_notify (message : String) (c : Channel) (w : World) :
    notify message c w =
      match (c.send message).run w.site with
      | (.ok _, site) => (true, ⟨site, w.store, w.record ++ [.delivered c.name message]⟩)
      | (.error f, site) => (false, ⟨(Deed.note (c.failureNote f) site).2, w.store,
          w.record ++ [.delivered c.name message]⟩) := by
  have hattempt : Step.attempt (c.send message) (Step.happen (.delivered c.name message) w).2 =
      (((c.send message).run w.site).1, ⟨((c.send message).run w.site).2, w.store,
        w.record ++ [.delivered c.name message]⟩) := rfl
  unfold notify
  rw [Step.run_bind, Step.run_bind, hattempt]
  rcases (c.send message).run w.site with ⟨f | _, site⟩
  · rfl
  · rfl

theorem record_notify (message : String) (c : Channel) (w : World) :
    (notify message c w).2.record = w.record ++ [.delivered c.name message] := by
  rw [run_notify]
  rcases (c.send message).run w.site with ⟨f | _, site⟩
  · rfl
  · rfl

/-- Sending a message to channels leaves one delivery for each, in their order. -/
theorem record_notifyEach (message : String) (channels : List Channel) (w : World) :
    (notifyEach message channels w).2.record =
      w.record ++ (channels.map fun c => (c.name, message)).map Event.ofNotice := by
  induction channels generalizing w with
  | nil => exact (List.append_nil _).symm
  | cons c rest ih =>
    unfold notifyEach
    show (notifyEach message rest (notify message c w).2).2.record = _
    rw [ih, record_notify, List.append_assoc]
    rfl

/-- Whether a look for the milestone sends notices: nothing is asked, and the milestone is
reached. -/
def milestoneDue (s : Session) (site : Site) : Bool :=
  s.flags.yolo && (Roadmap.milestoneReached s.roadmapPath site).1

/-- The notices that the milestone is reached. -/
def milestoneNotices (s : Session) : List (String × String) :=
  s.channels.map fun c => (c.name, s.texts.get "mvp_reached_notice")

/-- A look finds the milestone when it is due. -/
theorem fst_stopAtMilestone (s : Session) (w : World) :
    (Conversation.stopAtMilestone s w).1 = s.milestoneDue w.site := by
  unfold Conversation.stopAtMilestone milestoneDue
  rcases hyolo : s.flags.yolo with _ | _
  · rfl
  · show ((if (Roadmap.milestoneReached s.roadmapPath w.site).1 then _ else _ : Step Bool)
      (Conversation.milestoneReached s w).2).1 = _
    rw [Bool.true_and]
    rcases (Roadmap.milestoneReached s.roadmapPath w.site).1 with _ | _
    · rfl
    · rfl

theorem record_stopAtMilestone (s : Session) (w : World) :
    (Conversation.stopAtMilestone s w).2.record =
      w.record ++ (if s.milestoneDue w.site then s.milestoneNotices else []).map
        Event.ofNotice := by
  have hlook : (Conversation.milestoneReached s w).2.record = w.record := rfl
  unfold Conversation.stopAtMilestone milestoneDue
  rcases hyolo : s.flags.yolo with _ | _
  · exact (List.append_nil _).symm
  · show ((if (Roadmap.milestoneReached s.roadmapPath w.site).1 then _ else _ : Step Bool)
      (Conversation.milestoneReached s w).2).2.record = _
    rw [Bool.true_and]
    by_cases hreached : (Roadmap.milestoneReached s.roadmapPath w.site).1 = true
    · rw [if_pos hreached, if_pos hreached, ← hlook]
      exact record_notifyEach _ _ _
    · rw [if_neg hreached, if_neg hreached, List.map_nil, List.append_nil]
      exact hlook

theorem deliveries_stopAtMilestone (s : Session) (w : World) :
    (Conversation.stopAtMilestone s w).2.deliveries =
      w.deliveries ++ if s.milestoneDue w.site then s.milestoneNotices else [] :=
  World.deliveries_of_record (record_stopAtMilestone s w)

end Session

namespace Workflow

open Conversation (stopAtMilestone)

/-- Of any choice of events without the calls of plugins, the standard workflow leaves those
of the conversation and of a last look for the milestone. -/
theorem seen_standard (p : Event → Bool) [Event.HidesCalls p] (s : Session)
    (honce : s.flags.once = false) (w : World) :
    ((runDocument s Registry.builtin standard.toJson).run w).2.seen p =
      (closing s ((Conversation.run s 10).run w)).seen p := by
  have halike : w.AlikeIn p { w with store := Store.empty } := (World.AlikeIn.refl p w).stored _
  have hjob := Act.run_job (Context.build s.texts s.roadmapPath s.forge) w
  rw [run_standardDocument, show standard.nodes = contextNode :: _ from rfl]
  unfold Conversation.run
  rcases hcontext : (Context.build s.texts s.roadmapPath s.forge).run w.site
    with ⟨f | context, site⟩
  · -- Without a context both forms end at once.
    obtain ⟨v', hrun, halike'⟩ := contextNode_error hcontext halike Report.start
    rw [hcontext] at hjob
    rw [Act.run_bind_error hjob, run_runNodes_error hrun]
    exact halike'.2.symm
  · obtain ⟨v', hrun, halike', hmessages⟩ := opening_ok hcontext halike
      [.mk loopHead standardRound [] []] Report.start
    rw [hcontext] at hjob
    rw [Act.run_bind_ok hjob, hrun]
    exact (loopNode_endsAlikeIn honce 10 halike' hmessages _ rfl).seen.symm

/-- The notices that the standard workflow sends when the conversation is over: after a reply
without calls, those of the milestone if it is reached by then. -/
def lateNotices (s : Session) : Outcome Transcript × World → List (String × String)
  | (.ok t, w) => if t.stop = .completed ∧ s.milestoneDue w.site then s.milestoneNotices else []
  | (.error _, _) => []

theorem deliveries_closing (s : Session) (direct : Outcome Transcript × World) :
    (closing s direct).deliveries = direct.2.deliveries ++ lateNotices s direct := by
  rcases direct with ⟨f | t, w⟩
  · exact (List.append_nil _).symm
  · by_cases hstop : t.stop = .completed
    · rw [show closing s (.ok t, w) = (stopAtMilestone s w).2 from if_pos hstop,
        Session.deliveries_stopAtMilestone]
      simp only [lateNotices, hstop, true_and]
    · rw [show closing s (.ok t, w) = w from if_neg hstop]
      simp only [lateNotices, hstop, false_and, if_false, List.append_nil]

/-- There are late notices when the last reply calls no tool, nothing is asked, the milestone
is reached and somebody is to be told. -/
theorem lateNotices_ne_nil_iff (s : Session) (direct : Outcome Transcript × World) :
    lateNotices s direct ≠ [] ↔
      (∃ t, direct.1 = .ok t ∧ t.stop = .completed) ∧ s.flags.yolo = true ∧
        (Roadmap.milestoneReached s.roadmapPath direct.2.site).1 = true ∧ s.channels ≠ [] := by
  rcases direct with ⟨f | t, w⟩
  · simp [lateNotices]
  · simp [lateNotices, Session.milestoneDue, Session.milestoneNotices]

/-- The standard workflow attempts the notices of the conversation of at most ten passes: the
same messages to the same channels in the same order, and after them the late notices.  So
the two attempt the same notices unless the last reply calls no tool, nothing is asked, the
milestone is reached at that time and there are channels. -/
theorem deliveries_standard (s : Session) (honce : s.flags.once = false) (w : World) :
    let direct := (Conversation.run s 10).run w
    let steps := (runDocument s Registry.builtin standard.toJson).run w
    steps.2.deliveries = direct.2.deliveries ++ lateNotices s direct ∧
      (steps.2.deliveries = direct.2.deliveries ↔
        ¬ ((∃ t, direct.1 = .ok t ∧ t.stop = .completed) ∧ s.flags.yolo = true ∧
          (Roadmap.milestoneReached s.roadmapPath direct.2.site).1 = true ∧
          s.channels ≠ [])) := by
  intro direct steps
  have hsteps : steps.2.deliveries = direct.2.deliveries ++ lateNotices s direct := by
    rw [← deliveries_closing, World.deliveries_eq, World.deliveries_eq,
      seen_standard Event.isDelivery s honce w]
  refine ⟨hsteps, ?_⟩
  rw [hsteps, List.append_right_eq_self, ← lateNotices_ne_nil_iff, ne_eq, not_not]

/-- A conversation that a milestone ends: both forms send its notice once. -/
theorem deliveries_standard_milestone :
    let s : Session := { Rehearsal.session ⟨false, true, false⟩ ⟨[]⟩ [("echo", .echoes)] with
      channels := [Rehearsal.channel "team"] }
    let replies := [Reply.message (Message.requesting [ToolCall.new "1" "echo" ""])]
    let disk : Disk := ⟨[], [(["ROADMAP.md"], .file (Text.encode "## Launch (MVP)\n- [x] ship\n"))]⟩
    let w : World := ⟨{ Site.ofDisk disk with rehearsal := ⟨replies, [], 0⟩ }, Store.empty, []⟩
    let direct := (Conversation.run s 10).run w
    let steps := (runDocument s Registry.builtin standard.toJson).run w
    direct.2.deliveries = [("team", s.texts.get "mvp_reached_notice")] ∧
      steps.2.deliveries = direct.2.deliveries := by
  intro s replies disk w direct steps
  -- The conversation is ended by the milestone, and late notices follow a completed one alone.
  refine ⟨by decide +kernel, ((deliveries_standard s rfl w).2).mpr fun h => ?_⟩
  obtain ⟨⟨t, ht, hstop⟩, -⟩ := h
  have hmilestone : direct.1.toOption.map (·.stop) = some .milestone := by decide +kernel
  rw [ht] at hmilestone
  cases hstop.symm.trans (Option.some.inj hmilestone)

/-- A reply without calls at a milestone that is reached: the conversation announces the end,
and the workflow sends the notice of the milestone besides. -/
theorem deliveries_standard_ne :
    let s : Session := { Rehearsal.session ⟨false, true, false⟩ ⟨[]⟩ [] with
      channels := [Rehearsal.channel "team"] }
    let replies := [Reply.message (Message.assistant "done")]
    let disk : Disk := ⟨[], [(["ROADMAP.md"], .file (Text.encode "## Launch (MVP)\n- [x] ship\n"))]⟩
    let w : World := ⟨{ Site.ofDisk disk with rehearsal := ⟨replies, [], 0⟩ }, Store.empty, []⟩
    let direct := (Conversation.run s 10).run w
    let steps := (runDocument s Registry.builtin standard.toJson).run w
    s.flags.once = false ∧
      direct.2.deliveries = [("team", Conversation.completionNotice s.texts "done")] ∧
      steps.2.deliveries = [("team", Conversation.completionNotice s.texts "done"),
        ("team", s.texts.get "mvp_reached_notice")] := by
  decide +kernel

end Workflow

end AgentWorkflow
