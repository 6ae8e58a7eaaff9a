/-
What a conversation puts to the model, request by request.

* `Event.requestsOf`, `Event.repliesOf` — the requests and the replies of a record.
* `Round` — a reply and the turns that answer its tool calls; `Round.Complete` — one
  answer for each call, in the order of the calls.
* `Conversation.run_passes` — what a pass does, with every way it can end.
* `Conversation.Dialogue` — the events of the passes of a conversation.
* `Conversation.Orderly` — each request carries the opening and the complete rounds of
  the replies before it; `Conversation.run_orderly` shows it of every conversation.

Design notes: `Dialogue` has one constructor for each way a pass ends, and knows the
turns that the next request will carry.  What holds of whole conversations is shown by
induction on it, with the turns so far as the base; `Orderly` fixes the base.
-/
import AgentWorkflow.Proofs.Collaborators

namespace AgentWorkflow

namespace Event

def request? : Event → Option Request
  | requested r => some r
  | _ => none

def reply? : Event → Option (Outcome Message)
  | replied o => some o
  | _ => none

/-- The requests among events, the first one first. -/
def requestsOf (events : List Event) : List Request := events.filterMap request?

/-- What came of the requests among events, the first one first. -/
def repliesOf (events : List Event) : List (Outcome Message) := events.filterMap reply?

/-- Whether an event belongs to the dialogue with the model. -/
def isDialogue (e : Event) : Bool := e.request?.isSome || e.reply?.isSome

theorem not_isDialogue_iff {e : Event} :
    e.isDialogue = false ↔ e.request? = none ∧ e.reply? = none := by
  unfold isDialogue
  rw [Bool.or_eq_false_iff, Option.isSome_eq_false_iff, Option.isSome_eq_false_iff,
    Option.isNone_iff_eq_none, Option.isNone_iff_eq_none]

theorem requestsOf_append (es es' : List Event) :
    requestsOf (es ++ es') = requestsOf es ++ requestsOf es' := List.filterMap_append

theorem repliesOf_append (es es' : List Event) :
    repliesOf (es ++ es') = repliesOf es ++ repliesOf es' := List.filterMap_append

variable {es : List Event}

theorem requestsOf_eq_nil (h : ∀ e ∈ es, e.isDialogue = false) : requestsOf es = [] :=
  List.filterMap_eq_nil_iff.mpr fun e he => (not_isDialogue_iff.mp (h e he)).1

theorem repliesOf_eq_nil (h : ∀ e ∈ es, e.isDialogue = false) : repliesOf es = [] :=
  List.filterMap_eq_nil_iff.mpr fun e he => (not_isDialogue_iff.mp (h e he)).2

/-- Where a request stands among events: behind a beginning without requests, it stands
among the rest. -/
theorem split_request {quiet rest before after : List Event} {r : Request}
    (hquiet : requestsOf quiet = [])
    (h : quiet ++ rest = before ++ requested r :: after) :
    ∃ before', before = quiet ++ before' ∧ rest = before' ++ requested r :: after := by
  rcases List.append_eq_append_iff.mp h with ⟨before', hbefore, hrest⟩ | ⟨quiet', hq, hafter⟩
  · exact ⟨before', hbefore, hrest⟩
  · -- The request cannot stand in the beginning, so nothing of the beginning is left.
    rcases quiet' with _ | ⟨e, quiet'⟩
    · refine ⟨[], ?_, ?_⟩
      · rw [hq, List.append_nil, List.append_nil]
      · exact hafter.symm
    · rw [List.cons_append, List.cons.injEq] at hafter
      obtain ⟨rfl, -⟩ := hafter
      rw [hq, requestsOf_append] at hquiet
      exact absurd (List.append_eq_nil_iff.mp hquiet).2 (List.cons_ne_nil _ _)

/-- The events of a pass are a request, its reply and no other part of the dialogue. -/
theorem requestsOf_pass {r : Request} {reply : Outcome Message} {quiet : List Event}
    (hquiet : ∀ e ∈ quiet, isDialogue e = false) (rest : List Event) :
    requestsOf (.requested r :: .replied reply :: (quiet ++ rest)) = r :: requestsOf rest := by
  show r :: requestsOf (quiet ++ rest) = _
  rw [requestsOf_append, requestsOf_eq_nil hquiet, List.nil_append]

theorem repliesOf_pass {r : Request} {reply : Outcome Message} {quiet : List Event}
    (hquiet : ∀ e ∈ quiet, isDialogue e = false) (rest : List Event) :
    repliesOf (.requested r :: .replied reply :: (quiet ++ rest)) = reply :: repliesOf rest := by
  show reply :: repliesOf (quiet ++ rest) = _
  rw [repliesOf_append, repliesOf_eq_nil hquiet, List.nil_append]

/-- A request among the events of a pass and of what follows it is that of the pass, or it
is among what follows. -/
theorem split_pass {r r' : Request} {reply : Outcome Message}
    {quiet rest before after : List Event}
    (hquiet : ∀ e ∈ quiet, isDialogue e = false)
    (h : .requested r :: .replied reply :: (quiet ++ rest) = before ++ .requested r' :: after) :
    (before = [] ∧ r' = r) ∨
      ∃ before', before = .requested r :: .replied reply :: (quiet ++ before') ∧
        rest = before' ++ .requested r' :: after := by
  rcases before with _ | ⟨e, before⟩
  · left
    rw [List.nil_append, List.cons.injEq, requested.injEq] at h
    exact ⟨rfl, h.1.symm⟩
  · right
    rw [List.cons_append, List.cons.injEq] at h
    obtain ⟨rfl, h⟩ := h
    have hreply : requestsOf (.replied reply :: quiet) = [] := by
      show requestsOf quiet = []
      exact requestsOf_eq_nil hquiet
    obtain ⟨before', rfl, hrest⟩ := split_request hreply h
    exact ⟨before', rfl, hrest⟩

end Event

open Event (requestsOf repliesOf)

/-- A reply of the model and the turns that answer its tool calls. -/
structure Round where
  reply : Message
  answers : List Message

namespace Round

/-- The turns that a round adds to a conversation. -/
def turns (r : Round) : List Message := r.reply :: r.answers

/-- Each call of the reply is answered by one turn, in the order of the calls. -/
def Complete (r : Round) : Prop := List.Forall₂ Message.Answers r.answers r.reply.toolCalls

/-- In complete rounds a call id is answered as often as it is called. -/
theorem count_answers {rounds : List Round} (h : ∀ r ∈ rounds, r.Complete) (id : String) :
    (rounds.flatMap answers).countP (fun m => m.toolCallId = some id) =
      (rounds.flatMap (·.reply.toolCalls)).countP (fun c => c.id = id) := by
  have hround : ∀ {answers : List Message} {calls : List ToolCall},
      List.Forall₂ Message.Answers answers calls →
      answers.countP (fun m => m.toolCallId = some id) =
        calls.countP (fun c => c.id = id) := by
    intro answers calls h
    induction h with
    | nil => rfl
    | cons hanswers _ ih =>
      obtain ⟨content, rfl⟩ := hanswers
      rw [List.countP_cons, List.countP_cons, ih]
      simp [Message.toolResult]
  induction rounds with
  | nil => rfl
  | cons r rounds ih =>
    rw [List.flatMap_cons, List.flatMap_cons, List.countP_append, List.countP_append]
    rw [hround (h r List.mem_cons_self), ih fun r' hr' => h r' (List.mem_cons_of_mem r hr')]

end Round

/-- The rounds of the events before a request. -/
structure Rounds (before : List Event) (rounds : List Round) : Prop where
  /-- They are the rounds of the replies, in order. -/
  replies : repliesOf before = rounds.map fun r => .ok r.reply
  /-- Every request before has its reply. -/
  requests : (requestsOf before).length = rounds.length
  complete : ∀ r ∈ rounds, r.Complete
  /-- No call is left open or answered twice. -/
  settled : ∀ id : String,
    (rounds.flatMap Round.answers).countP (fun m => m.toolCallId = some id) =
      (rounds.flatMap (·.reply.toolCalls)).countP (fun c => c.id = id)

namespace Rounds

theorem nil : Rounds [] [] := ⟨rfl, rfl, fun _ h => absurd h List.not_mem_nil, fun _ => rfl⟩

theorem cons {before : List Event} {rounds : List Round} {r : Round} {quiet : List Event}
    {request : Request} (h : Rounds before rounds) (hr : r.Complete)
    (hquiet : ∀ e ∈ quiet, Event.isDialogue e = false) :
    Rounds (.requested request :: .replied (.ok r.reply) :: (quiet ++ before)) (r :: rounds) := by
  have hcomplete : ∀ r' ∈ r :: rounds, r'.Complete := List.forall_mem_cons.mpr ⟨hr, h.complete⟩
  refine ⟨?_, ?_, hcomplete, Round.count_answers hcomplete⟩
  · rw [Event.repliesOf_pass hquiet, h.replies]
    rfl
  · rw [Event.requestsOf_pass hquiet, List.length_cons, List.length_cons, h.requests]

end Rounds

namespace Conversation

/-! ### A pass -/

/-- A pass: the model is asked, and what it replies decides how things go on. -/
theorem run_passes (s : Session) (limit left done : Nat) (messages : List Message) (w : World) :
    (passes s limit left done messages).run w =
      match s.pose ⟨s.model, messages, s.specs⟩ w with
      | (.error f, w') => (.error (f.within "request completion"), w')
      | (.ok reply, w') =>
        if reply.hasToolCalls = false then
          (.ok ⟨done + 1, .completed, messages ++ [reply]⟩, (announce s reply w').2)
        else if s.flags.once && 2 ≤ done + 1 then
          (.ok ⟨done + 1, .once, messages ++ [reply]⟩, w')
        else
          let answered := Dispatch.run s reply.toolCalls w'
          let stopped := stopAtMilestone s answered.2
          let messages := messages ++ [reply] ++ answered.1
          if stopped.1 then (.ok ⟨done + 1, .milestone, messages⟩, stopped.2)
          else
            match left with
            | 0 =>
              (.ok ⟨done + 1, .limit, messages⟩,
                (Step.note (.warning (limitNotice s.texts limit) []) stopped.2).2)
            | left + 1 => (passes s limit left (done + 1) messages).run stopped.2 := by
  have hrequest : (s.request messages).run w =
      (Outcome.within "request completion" (s.pose ⟨s.model, messages, s.specs⟩ w).1,
        (s.pose ⟨s.model, messages, s.specs⟩ w).2) := Act.run_within _ _ w
  rw [passes_eq]
  rcases hpose : s.pose ⟨s.model, messages, s.specs⟩ w with ⟨f | reply, w'⟩
  · rw [hpose] at hrequest
    exact Act.run_bind_error hrequest
  · rw [hpose] at hrequest
    refine (Act.run_bind_ok hrequest).trans ?_
    dsimp only
    by_cases hcalls : reply.hasToolCalls = false
    · simp only [hcalls, Bool.not_false, if_true]
      rfl
    · rw [if_neg hcalls, if_neg (by simpa using hcalls)]
      by_cases honce : (s.flags.once && decide (2 ≤ done + 1)) = true
      · rw [if_pos honce, if_pos honce]
        rfl
      · rw [if_neg honce, if_neg honce]
        rw [Act.run_bind_ok (Act.run_lift _ w')]
        rw [Act.run_bind_ok (Act.run_lift _ _)]
        by_cases hstop : (stopAtMilestone s (Dispatch.run s reply.toolCalls w').2).1 = true
        · rw [if_pos hstop, if_pos hstop]
          rfl
        · rw [if_neg hstop, if_neg hstop]
          cases left <;> rfl

/-! ### The events of the passes -/

/-- The events of passes that start from some turns, and what comes of the passes.
`done` passes were made before. -/
inductive Dialogue (s : Session) :
    List Message → Nat → List Event → Outcome Transcript → Prop
  /-- The model gives no reply. -/
  | refused {messages done f g} :
    Dialogue s messages done
      [.requested ⟨s.model, messages, s.specs⟩, .replied (.error f)] (.error g)
  /-- No other pass follows. -/
  | last {messages done reply quiet t} (hquiet : ∀ e ∈ quiet, Event.isDialogue e = false)
      (hpasses : t.passes = done + 1) :
    Dialogue s messages done
      (.requested ⟨s.model, messages, s.specs⟩ :: .replied (.ok reply) :: quiet) (.ok t)
  /-- The calls of the reply are answered, and another pass follows. -/
  | next {messages done outcome quiet rest} (r : Round) (hr : r.Complete)
      (hquiet : ∀ e ∈ quiet, Event.isDialogue e = false)
      (hrest : Dialogue s (messages ++ r.turns) (done + 1) rest outcome) :
    Dialogue s messages done
      (.requested ⟨s.model, messages, s.specs⟩ :: .replied (.ok r.reply) :: (quiet ++ rest))
      outcome

/-- Putting a request leaves the request and what came of it. -/
theorem record_pose (s : Session) (r : Request) (w : World) :
    (s.pose r w).2.record = w.record ++ [.requested r, .replied (s.pose r w).1] := by
  show (w.record ++ [_]) ++ [_] = _
  rw [List.append_assoc]
  rfl

theorem quiet_announce (s : Session) (reply : Message) :
    Step.Leaves (fun e => e.isDialogue = false) (announce s reply) :=
  (madeOf_announce (fun _ _ => rfl) s reply).leaves

theorem quiet_dispatch (s : Session) (calls : List ToolCall) :
    Step.Leaves (fun e => e.isDialogue = false) (Dispatch.run s calls) :=
  (Dispatch.madeOf_run s (fun _ _ => rfl) (fun _ _ _ => rfl) calls).leaves

theorem quiet_stopAtMilestone (s : Session) :
    Step.Leaves (fun e => e.isDialogue = false) (stopAtMilestone s) :=
  (madeOf_stopAtMilestone (fun _ _ => rfl) s).leaves

/-- Whatever ends a pass, its events and those of the passes after it are a dialogue. -/
theorem passes_dialogue (s : Session) (limit left done : Nat) (messages : List Message)
    (w : World) :
    ∃ events, ((passes s limit left done messages).run w).2.record = w.record ++ events ∧
      Dialogue s messages done events ((passes s limit left done messages).run w).1 := by
  induction left using Nat.strongRecOn generalizing done messages w with
  | ind left ih =>
  rw [run_passes]
  have hrecord := record_pose s ⟨s.model, messages, s.specs⟩ w
  rcases hpose : s.pose ⟨s.model, messages, s.specs⟩ w with ⟨f | reply, w'⟩
  · rw [hpose] at hrecord
    exact ⟨_, hrecord, .refused⟩
  rw [hpose] at hrecord
  dsimp only at hrecord ⊢
  by_cases hcalls : reply.hasToolCalls = false
  · obtain ⟨quiet, hes, hquiet⟩ := quiet_announce s reply w'
    have hw : (announce s reply w').2.record = w.record ++
        (.requested ⟨s.model, messages, s.specs⟩ :: .replied (.ok reply) :: quiet) := by
      rw [hes, hrecord, List.append_assoc]
      rfl
    rw [if_pos hcalls]
    exact ⟨_, hw, .last hquiet rfl⟩
  by_cases honce : (s.flags.once && decide (2 ≤ done + 1)) = true
  · rw [if_neg hcalls, if_pos honce]
    exact ⟨_, hrecord, .last (fun e he => absurd he List.not_mem_nil) rfl⟩
  rw [if_neg hcalls, if_neg honce]
  -- The answers to the calls, and the notice of a milestone.
  obtain ⟨quiet₁, hes₁, hquiet₁⟩ := quiet_dispatch s reply.toolCalls w'
  have hanswers := Dispatch.run_answers s reply.toolCalls w'
  rcases hrun : Dispatch.run s reply.toolCalls w' with ⟨answers, w₁⟩
  obtain ⟨quiet₂, hes₂, hquiet₂⟩ := quiet_stopAtMilestone s w₁
  rcases hstopped : stopAtMilestone s w₁ with ⟨stop, w₂⟩
  rw [hrun] at hes₁ hanswers
  rw [hstopped] at hes₂
  dsimp only at hes₁ hes₂ ⊢
  have hquiet : ∀ e ∈ quiet₁ ++ quiet₂, Event.isDialogue e = false := by
    intro e he
    rcases List.mem_append.mp he with he | he
    · exact hquiet₁ e he
    · exact hquiet₂ e he
  have hw₂ : w₂.record = w.record ++ (.requested ⟨s.model, messages, s.specs⟩ ::
      .replied (.ok reply) :: (quiet₁ ++ quiet₂)) := by
    rw [hes₂, hes₁, hrecord, List.append_assoc, List.append_assoc]
    rfl
  by_cases hstop : stop = true
  · rw [if_pos hstop]
    exact ⟨_, hw₂, .last hquiet rfl⟩
  rw [if_neg hstop]
  rcases left with _ | left
  · exact ⟨_, hw₂, .last hquiet rfl⟩
  · obtain ⟨rest, hrest, hd⟩ :=
      ih left (Nat.lt_succ_self left) (done + 1) (messages ++ [reply] ++ answers) w₂
    rw [List.append_assoc] at hrest hd ⊢
    refine ⟨_, ?_, .next ⟨reply, answers⟩ hanswers hquiet hd⟩
    rw [hrest, hw₂, List.append_assoc]
    rfl

/-! ### What the requests carry -/

/-- The requests among the events of a run are in order.  `base` are the turns that the
first one carries. -/
structure Orderly (s : Session) (base : List Message) (events : List Event)
    (outcome : Outcome Transcript) : Prop where
  /-- A request carries the base and the rounds of the replies before it. -/
  carries : ∀ before r after, events = before ++ .requested r :: after →
    ∃ rounds, Rounds before rounds ∧
      r = ⟨s.model, base ++ rounds.flatMap Round.turns, s.specs⟩
  /-- A request carries all that an earlier one does, at its beginning. -/
  grows : (requestsOf events).Pairwise fun r r' => r.messages <+: r'.messages
  /-- A conversation that comes to an end tells how many requests were put. -/
  counts : ∀ t, outcome = .ok t → t.passes = (requestsOf events).length

namespace Dialogue

variable {s : Session} {messages : List Message} {done : Nat} {events : List Event}
  {outcome : Outcome Transcript}

theorem carries (h : Dialogue s messages done events outcome) :
    ∀ before r after, events = before ++ .requested r :: after →
      ∃ rounds, Rounds before rounds ∧
        r = ⟨s.model, messages ++ rounds.flatMap Round.turns, s.specs⟩ := by
  have hfirst : ∀ messages, (⟨s.model, messages, s.specs⟩ : Request) =
      ⟨s.model, messages ++ List.flatMap Round.turns [], s.specs⟩ := by
    intro messages
    rw [List.flatMap_nil, List.append_nil]
  -- Behind the last pass there is no other request.
  have hlast : ∀ {messages reply quiet}, (∀ e ∈ quiet, Event.isDialogue e = false) →
      ∀ before r after, .requested ⟨s.model, messages, s.specs⟩ :: .replied reply :: quiet =
        before ++ .requested r :: after →
      ∃ rounds, Rounds before rounds ∧
        r = ⟨s.model, messages ++ rounds.flatMap Round.turns, s.specs⟩ := by
    intro messages reply quiet hquiet before r after heq
    rw [← List.append_nil quiet] at heq
    rcases Event.split_pass hquiet heq with ⟨rfl, rfl⟩ | ⟨before', -, hnil⟩
    · exact ⟨[], .nil, hfirst messages⟩
    · exact absurd hnil.symm (by simp)
  induction h with
  | refused => exact hlast fun _ h => absurd h List.not_mem_nil
  | last hquiet _ => exact hlast hquiet
  | @next messages done outcome quiet rest round hround hquiet _ ih =>
    intro before r after heq
    rcases Event.split_pass hquiet heq with ⟨rfl, rfl⟩ | ⟨before', rfl, hrest⟩
    · exact ⟨[], .nil, hfirst messages⟩
    · obtain ⟨rounds, hrounds, hr⟩ := ih before' r after hrest
      refine ⟨round :: rounds, hrounds.cons hround hquiet, ?_⟩
      rw [hr, List.flatMap_cons, List.append_assoc]

/-- Every request of a dialogue carries the turns that it starts from. -/
theorem prefix_of_mem (h : Dialogue s messages done events outcome) :
    ∀ r ∈ requestsOf events, messages <+: r.messages := by
  intro r hr
  obtain ⟨e, he, hreq⟩ := List.mem_filterMap.mp hr
  have hreq : e = .requested r := by
    cases e <;> simp [Event.request?] at hreq ⊢
    exact hreq
  obtain ⟨before, after, rfl⟩ := List.append_of_mem he
  subst hreq
  obtain ⟨rounds, -, rfl⟩ := h.carries before r after rfl
  exact List.prefix_append _ _

theorem grows (h : Dialogue s messages done events outcome) :
    (requestsOf events).Pairwise fun r r' => r.messages <+: r'.messages := by
  induction h with
  | refused => exact List.pairwise_singleton _ _
  | @last messages _ reply quiet t hquiet _ =>
    rw [← List.append_nil quiet, Event.requestsOf_pass hquiet]
    exact List.pairwise_singleton _ _
  | @next messages _ _ quiet rest round _ hquiet hrest ih =>
    rw [Event.requestsOf_pass hquiet]
    refine List.Pairwise.cons (fun r hr => ?_) ih
    exact (List.prefix_append messages round.turns).trans (hrest.prefix_of_mem r hr)

theorem counts (h : Dialogue s messages done events outcome) :
    ∀ t, outcome = .ok t → t.passes = done + (requestsOf events).length := by
  induction h with
  | refused => exact fun t ht => absurd ht (by simp)
  | @last messages done reply quiet t hquiet hpasses =>
    rintro t' ht
    obtain rfl := Except.ok.inj ht
    rw [← List.append_nil quiet, Event.requestsOf_pass hquiet]
    exact hpasses
  | @next messages done _ quiet rest round _ hquiet _ ih =>
    intro t ht
    rw [ih t ht, Event.requestsOf_pass hquiet, List.length_cons]
    omega

theorem orderly (h : Dialogue s messages 0 events outcome) :
    Orderly s messages events outcome :=
  ⟨h.carries, h.grows, fun t ht => (h.counts t ht).trans (Nat.zero_add _)⟩

end Dialogue

/-- What a conversation puts to the model.  When the context cannot be told, nothing is
put.  Otherwise the requests are in order, and no call of a reply is open, or answered
twice, when the next request is put. -/
theorem run_orderly (s : Session) (limit : Nat) (w : World) :
    ∃ events, ((run s limit).run w).2.record = w.record ++ events ∧
      match ((Context.build s.texts s.roadmapPath s.forge).run w.site).1 with
      | .error f => events = [] ∧ ((run s limit).run w).1 = .error f
      | .ok context => Orderly s (opening s context) events ((run s limit).run w).1 := by
  have hjob := Act.run_job (Context.build s.texts s.roadmapPath s.forge) w
  rcases hcontext : ((Context.build s.texts s.roadmapPath s.forge).run w.site).1
    with f | context
  · rw [hcontext] at hjob
    unfold run
    rw [Act.run_bind_error hjob]
    exact ⟨[], (List.append_nil _).symm, rfl, rfl⟩
  · rw [hcontext] at hjob
    unfold run
    rw [Act.run_bind_ok hjob]
    obtain ⟨events, hrecord, hdialogue⟩ := passes_dialogue s limit (limit - 1) 0
      (opening s context) { w with site := _ }
    exact ⟨events, hrecord, hdialogue.orderly⟩

end Conversation

end AgentWorkflow
