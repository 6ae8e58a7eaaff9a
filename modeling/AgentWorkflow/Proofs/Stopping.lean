/-
When a conversation stops, and for which reason.

* `Standing` — what a pass finds: the turns so far, and the world.
* `Standing.holds` — whether a reason to stop holds at a pass, looked at on its own, and
  `Standing.stop?`, the first one that holds in the order of `Stop.order`.
* `Standing.Comes` — passes whose calls were all run, and the stages that they went through.
* `Conversation.Ends` — the passes end with the first one that gets no reply or has a reason to
  stop, and what there is at the end.
* `Conversation.Bounded` — how many passes and rounds of tools that can be, and
  `Conversation.Ends.keepsBounds`, that it is no more.
* `Conversation.run_ends` — every conversation ends so.

Design notes: the interpreter counts down the passes that are left, here the passes are counted
from the first one and compared with the limit.  Every bound is read off the passes before the
last one: each of them had no reason to stop, so that the reasons which depend on the number of
the pass alone cannot have held.
-/
import AgentWorkflow.Proofs.Requests
import AgentWorkflow.Proofs.Stages

namespace AgentWorkflow

open Stage (after)
open Step (Leaves)

/-! ### Reasons to stop -/

/-- The reasons to stop, in the order in which they are looked for. -/
def Stop.order : List Stop := [.completed, .once, .milestone, .limit]

/-- What a pass of a conversation finds. -/
structure Standing where
  /-- The turns so far. -/
  messages : List Message
  world : World

namespace Standing

section

variable (s : Session) (st : Standing)

/-- What comes of asking for the next turn. -/
def reply : Outcome Message := (s.pose ⟨s.model, st.messages, s.specs⟩ st.world).1

variable (reply : Message)

/-- The stages of a pass that runs the calls of a reply. -/
def round : List Stage := [.request st.messages, .dispatch reply.toolCalls, .look]

/-- The world once the calls of a reply are run. -/
def dispatched : World := after s [.request st.messages, .dispatch reply.toolCalls] st.world

/-- What the next pass finds when the calls of a reply are run. -/
def next : Standing where
  messages := st.messages ++ [reply] ++
    (Dispatch.run s reply.toolCalls (after s [.request st.messages] st.world)).1
  world := after s (st.round reply) st.world

/-- Whether a reason to stop holds at the pass with a number, whatever others hold. -/
def holds (limit number : Nat) : Stop → Bool
  | .completed => !reply.hasToolCalls
  | .once => s.flags.once && 2 ≤ number
  | .milestone => s.milestoneDue (st.dispatched s reply).site
  | .limit => limit ≤ number

/-- The reason to stop that is reported: the first one that holds. -/
def stop? (limit number : Nat) : Option Stop :=
  Stop.order.find? (st.holds s reply limit number)

/-- The stages of a pass that ends for a reason. -/
def closing : Stop → List Stage
  | .completed => [.request st.messages, .announce reply]
  | .once => [.request st.messages]
  | .milestone | .limit => st.round reply

/-- The turns at the end, when a pass ends for a reason. -/
def finalMessages : Stop → List Message
  | .completed | .once => st.messages ++ [reply]
  | .milestone | .limit => (st.next s reply).messages

end

variable {s : Session} {st : Standing} {reply : Message} {limit number : Nat}

theorem stop?_eq :
    st.stop? s reply limit number =
      if reply.hasToolCalls = false then some .completed
      else if s.flags.once && 2 ≤ number then some .once
      else if s.milestoneDue (st.dispatched s reply).site then some .milestone
      else if limit ≤ number then some .limit
      else none := by
  unfold stop? Stop.order
  simp only [List.find?_cons, List.find?_nil, holds]
  cases reply.hasToolCalls
  · rfl
  · cases (s.flags.once && decide (2 ≤ number))
    · cases s.milestoneDue (st.dispatched s reply).site
      · by_cases hlimit : limit ≤ number <;> simp [hlimit]
      · rfl
    · rfl

/-- When none is reported, none holds. -/
theorem holds_eq_false (h : st.stop? s reply limit number = none) (stop : Stop) :
    st.holds s reply limit number stop = false := by
  have hall := List.find?_eq_none.mp h stop (by cases stop <;> simp [Stop.order])
  exact Bool.eq_false_iff.mpr hall

/-! ### The passes before the last one -/

/-- From the first pass on, passes whose calls were run lead through stages to a standing. -/
inductive Comes (s : Session) (first : Standing) : Nat → List Stage → Standing → Prop
  | first : Comes s first 0 [] first
  | next {number : Nat} {stages : List Stage} {st : Standing} {reply : Message}
      (h : Comes s first number stages st) (hreply : st.reply s = .ok reply) :
      Comes s first (number + 1) (stages ++ st.round reply) (st.next s reply)

/-- The passes before the one with a number were all made, and none had a reason to stop. -/
def GoesOn (s : Session) (limit : Nat) (first : Standing) (number : Nat) : Prop :=
  ∀ earlier < number, ∃ stages st reply, first.Comes s earlier stages st ∧
    st.reply s = .ok reply ∧ st.stop? s reply limit (earlier + 1) = none

namespace GoesOn

variable {first : Standing}

/-- The pass before a further one had not reached the limit. -/
theorem lt_max (h : first.GoesOn s limit number) : number + 1 ≤ max 1 limit := by
  rcases number with _ | earlier
  · exact Nat.le_max_left 1 limit
  · obtain ⟨stages, st, reply, -, -, hstop⟩ := h earlier (Nat.lt_succ_self earlier)
    have hlimit : decide (limit ≤ earlier + 1) = false := holds_eq_false hstop .limit
    exact Nat.le_trans (Nat.lt_of_not_le (of_decide_eq_false hlimit)) (Nat.le_max_right 1 limit)

/-- With `once`, the second pass has a reason to stop. -/
theorem le_one (h : first.GoesOn s limit number) (honce : s.flags.once = true) : number ≤ 1 := by
  refine Nat.le_of_not_lt fun hnumber => ?_
  obtain ⟨stages, st, reply, -, -, hstop⟩ := h 1 hnumber
  have hholds : (s.flags.once && decide (2 ≤ 1 + 1)) = false := holds_eq_false hstop .once
  rw [honce] at hholds
  cases hholds

end GoesOn

end Standing

namespace Stage

def isRequest : Stage → Bool
  | request _ => true
  | context | dispatch _ | announce _ | look => false

def isDispatch : Stage → Bool
  | dispatch _ => true
  | context | request _ | announce _ | look => false

/-- A stage that asks the model asks it once, and the others do not ask it. -/
theorem requests_run (s : Session) (w : World) (stage : Stage) :
    (stage.run s w).requests = w.requests + stage.isRequest.toNat := by
  have hquiet : ∀ {α : Type} {st : Step α}, Leaves (fun e => e.isDialogue = false) st →
      (st w).2.requests = w.requests := by
    intro α st hst
    obtain ⟨events, hrecord, hevents⟩ := hst w
    unfold World.requests
    rw [hrecord, Event.requestsOf_append, Event.requestsOf_eq_nil hevents, List.append_nil]
  cases stage with
  | context => rfl
  | request messages =>
    show (Event.requestsOf (s.pose _ w).2.record).length = _
    rw [Conversation.record_pose, Event.requestsOf_append, List.length_append]
    rfl
  | dispatch calls => exact hquiet (Conversation.quiet_dispatch s calls)
  | announce reply => exact hquiet (Conversation.quiet_announce s reply)
  | look => exact hquiet (Conversation.quiet_stopAtMilestone s)

theorem requests_after (s : Session) (stages : List Stage) (w : World) :
    (after s stages w).requests = w.requests + stages.countP isRequest := by
  induction stages generalizing w with
  | nil => rfl
  | cons stage rest ih =>
    rw [after_cons, ih, requests_run, List.countP_cons]
    cases stage.isRequest
    · simp
    · simp only [Bool.toNat_true, if_true]
      omega

theorem after_append (s : Session) (stages later : List Stage) (w : World) :
    after s (stages ++ later) w = after s later (after s stages w) :=
  List.foldl_append

end Stage

namespace Standing.Comes

variable {s : Session} {first st : Standing} {number : Nat} {stages : List Stage}

theorem world (h : first.Comes s number stages st) : st.world = after s stages first.world := by
  induction h with
  | first => rfl
  | next _ _ ih =>
    rw [Stage.after_append, ← ih]
    rfl

theorem requests (h : first.Comes s number stages st) : stages.countP Stage.isRequest = number := by
  induction h with
  | first => rfl
  | next _ _ ih =>
    rw [List.countP_append, ih]
    rfl

theorem dispatches (h : first.Comes s number stages st) :
    stages.countP Stage.isDispatch = number := by
  induction h with
  | first => rfl
  | next _ _ ih =>
    rw [List.countP_append, ih]
    rfl

end Standing.Comes

namespace Standing

variable {s : Session} {st : Standing} {reply : Message} {limit number : Nat}

theorem requests_closing (stop : Stop) :
    (st.closing reply stop).countP Stage.isRequest = 1 := by
  cases stop <;> rfl

/-- With `once`, the calls of the first reply are run, or those of none. -/
theorem dispatches_closing_le {stop : Stop} (honce : s.flags.once = true) (hone : number ≤ 1)
    (hstop : st.stop? s reply limit (number + 1) = some stop) :
    number + (st.closing reply stop).countP Stage.isDispatch ≤ 1 := by
  rcases Nat.le_one_iff_eq_zero_or_eq_one.mp hone with rfl | rfl
  · cases stop <;> simp [closing, round, List.countP_cons, Stage.isDispatch]
  · -- The second pass ends before the calls of its reply are run.
    have hearly : stop = .completed ∨ stop = .once := by
      rw [stop?_eq, honce] at hstop
      by_cases hcalls : reply.hasToolCalls = false
      · rw [if_pos hcalls] at hstop
        exact .inl (Option.some.inj hstop).symm
      · rw [if_neg hcalls] at hstop
        exact .inr (Option.some.inj hstop).symm
    rcases hearly with rfl | rfl <;> exact Nat.le_refl 1

end Standing

/-! ### The end -/

namespace Conversation

/-- What is done at the end for a reason: the limit is told in a warning. -/
def tellLimit (s : Session) (limit : Nat) : Stop → Step Unit
  | .limit => Step.note (.warning (limitNotice s.texts limit) [])
  | .completed | .once | .milestone => pure ()

theorem requests_tellLimit (s : Session) (limit : Nat) (stop : Stop) (w : World) :
    (tellLimit s limit stop w).2.requests = w.requests := by
  cases stop <;> rfl

/-- How the passes end whose first one finds a standing: after which stages, with which pass, with
what outcome and in which world. -/
inductive Ends (s : Session) (limit : Nat) (first : Standing) :
    List Stage → Nat → Outcome Transcript → World → Prop
  /-- A pass gets no reply. -/
  | refused {number : Nat} {stages : List Stage} {st : Standing} {f : Failure}
      (hcomes : first.Comes s number stages st) (hgoes : first.GoesOn s limit number)
      (hreply : st.reply s = .error f) :
    Ends s limit first (stages ++ [.request st.messages]) (number + 1)
      (.error (f.within "request completion"))
      (after s (stages ++ [.request st.messages]) first.world)
  /-- A pass has a reason to stop. -/
  | stopped {number : Nat} {stages : List Stage} {st : Standing} {reply : Message} {stop : Stop}
      (hcomes : first.Comes s number stages st) (hgoes : first.GoesOn s limit number)
      (hreply : st.reply s = .ok reply)
      (hstop : st.stop? s reply limit (number + 1) = some stop) :
    Ends s limit first (stages ++ st.closing reply stop) (number + 1)
      (.ok ⟨number + 1, stop, st.finalMessages s reply stop⟩)
      (tellLimit s limit stop (after s (stages ++ st.closing reply stop) first.world)).2

/-- The passes of a conversation end so. -/
theorem passes_ends {s : Session} {limit left number : Nat} {first : Standing}
    {stages : List Stage} {st : Standing} (hleft : left + number = limit - 1)
    (hcomes : first.Comes s number stages st) (hgoes : first.GoesOn s limit number) :
    ∃ stages' number', Ends s limit first stages' number'
      ((passes s limit left number st.messages).run st.world).1
      ((passes s limit left number st.messages).run st.world).2 := by
  -- The passes that are left and the earlier ones add up to the limit.
  induction left using Nat.strongRecOn generalizing number stages st with
  | ind left ih =>
  rw [run_passes]
  rcases hpose : s.pose ⟨s.model, st.messages, s.specs⟩ st.world with ⟨f | reply, w₁⟩
  · obtain rfl : (Stage.request st.messages).run s st.world = w₁ := congrArg Prod.snd hpose
    have hend := Ends.refused hcomes hgoes (congrArg Prod.fst hpose)
    rw [Stage.after_append, ← hcomes.world] at hend
    exact ⟨_, _, hend⟩
  obtain rfl : (Stage.request st.messages).run s st.world = w₁ := congrArg Prod.snd hpose
  have hreply : st.reply s = .ok reply := congrArg Prod.fst hpose
  -- A reason to stop ends the passes, in the world that its stages leave.
  have hends : ∀ stop, st.stop? s reply limit (number + 1) = some stop →
      ∃ stages' number', Ends s limit first stages' number'
        (.ok ⟨number + 1, stop, st.finalMessages s reply stop⟩)
        (tellLimit s limit stop (after s (st.closing reply stop) st.world)).2 := by
    intro stop hstop
    have hend := Ends.stopped hcomes hgoes hreply hstop
    rw [Stage.after_append, ← hcomes.world] at hend
    exact ⟨_, _, hend⟩
  -- The interpreter looks for the reasons in their order.
  have hstop := @Standing.stop?_eq s st reply limit (number + 1)
  dsimp only
  by_cases hcalls : reply.hasToolCalls = false
  · rw [if_pos hcalls] at hstop ⊢
    exact hends .completed hstop
  rw [if_neg hcalls] at hstop ⊢
  by_cases honce : (s.flags.once && decide (2 ≤ number + 1)) = true
  · rw [if_pos honce] at hstop ⊢
    exact hends .once hstop
  rw [if_neg honce] at hstop ⊢
  rw [Session.fst_stopAtMilestone,
    show (Dispatch.run s reply.toolCalls ((Stage.request st.messages).run s st.world)).2 =
      st.dispatched s reply from rfl]
  by_cases hdue : s.milestoneDue (st.dispatched s reply).site = true
  · rw [if_pos hdue] at hstop ⊢
    exact hends .milestone hstop
  rw [if_neg hdue] at hstop ⊢
  rcases left with _ | left
  · -- No pass is left, so the limit is reached.
    rw [if_pos (by omega)] at hstop
    exact hends .limit hstop
  · -- The pass had no reason to stop, so it is one of the earlier ones of the next.
    rw [if_neg (by omega)] at hstop
    have hgoes' : first.GoesOn s limit (number + 1) := by
      intro earlier hearlier
      rcases Nat.lt_succ_iff_lt_or_eq.mp hearlier with hlt | rfl
      · exact hgoes earlier hlt
      · exact ⟨stages, st, reply, hcomes, hreply, hstop⟩
    exact ih left (Nat.lt_succ_self left) (by omega) (hcomes.next hreply) hgoes'

/-! ### How often -/

/-- What the counter of passes holds at most. -/
def counterLimit : Nat := Nat.pow 2 32 - 1

/-- How often a conversation goes round that ends with a pass, after stages from a world. -/
structure Bounded (s : Session) (limit : Nat) (stages : List Stage) (number : Nat)
    (w w' : World) : Prop where
  /-- Every pass asks the model once. -/
  requests : w'.requests = w.requests + number
  number_le : number ≤ max 1 limit
  once : s.flags.once = true → number ≤ 2 ∧ stages.countP Stage.isDispatch ≤ 1
  /-- A limit that the counter can hold is not passed. -/
  counter : limit ≤ counterLimit → number ≤ counterLimit

section

variable {s : Session} {limit number : Nat} {first : Standing} {stages : List Stage}
  {w w' : World}

/-- The bounds that follow from the passes before the last one. -/
theorem Bounded.of_goesOn (hrequests : w'.requests = w.requests + (number + 1))
    (hgoes : first.GoesOn s limit number)
    (hdispatches : s.flags.once = true → number ≤ 1 → stages.countP Stage.isDispatch ≤ 1) :
    Bounded s limit stages (number + 1) w w' where
  requests := hrequests
  number_le := hgoes.lt_max
  once honce := ⟨Nat.succ_le_succ (hgoes.le_one honce), hdispatches honce (hgoes.le_one honce)⟩
  counter hlimit := by
    have hone : 1 ≤ counterLimit := by decide
    exact Nat.le_trans hgoes.lt_max (Nat.max_le.mpr ⟨hone, hlimit⟩)

theorem Ends.keepsBounds {o : Outcome Transcript} (h : Ends s limit first stages number o w') :
    Bounded s limit stages number first.world w' := by
  cases h with
  | @refused number stages st f hcomes hgoes hreply =>
    refine Bounded.of_goesOn ?_ hgoes fun _ hone => ?_
    · rw [Stage.requests_after, List.countP_append, hcomes.requests]
      rfl
    · rw [List.countP_append, hcomes.dispatches]
      exact hone
  | @stopped number stages st reply stop hcomes hgoes hreply hstop =>
    refine Bounded.of_goesOn ?_ hgoes fun honce hone => ?_
    · rw [requests_tellLimit, Stage.requests_after, List.countP_append, hcomes.requests,
        Standing.requests_closing]
    · rw [List.countP_append, hcomes.dispatches]
      exact Standing.dispatches_closing_le honce hone hstop

end

/-- A conversation fails for lack of a context, or its passes end for the first reason that holds
in the first pass where one does, within their bounds. -/
theorem run_ends (s : Session) (limit : Nat) (w : World) :
    match ((Context.build s.texts s.roadmapPath s.forge).run w.site).1 with
    | .error f => (run s limit).run w = (.error f, Stage.context.run s w)
    | .ok context => ∃ stages number,
        Ends s limit ⟨opening s context, Stage.context.run s w⟩ stages number
          ((run s limit).run w).1 ((run s limit).run w).2 ∧
        Bounded s limit stages number w ((run s limit).run w).2 := by
  have hjob := Act.run_job (Context.build s.texts s.roadmapPath s.forge) w
  unfold run
  rcases hcontext : ((Context.build s.texts s.roadmapPath s.forge).run w.site).1 with f | context
  · rw [hcontext] at hjob
    exact Act.run_bind_error hjob
  · rw [hcontext] at hjob
    simp only [Act.run_bind_ok hjob]
    let first : Standing := ⟨opening s context, Stage.context.run s w⟩
    have hcomes : first.Comes s 0 [] first := .first
    have hgoes : first.GoesOn s limit 0 := fun _ h => absurd h (Nat.not_lt_zero _)
    obtain ⟨stages, number, hends⟩ := passes_ends (Nat.add_zero (limit - 1)) hcomes hgoes
    -- The record is the one of before the context.
    exact ⟨stages, number, hends, { hends.keepsBounds with requests := hends.keepsBounds.requests }⟩

end Conversation

end AgentWorkflow
