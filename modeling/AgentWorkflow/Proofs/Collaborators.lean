/-
What a session does on the ways to its collaborators.

* `Session.Does` — what a session does at the site, one thing at a time.  Of the tools it runs those
  alone that it does not withhold, and where `writes` does not hold the roadmap is not written.
* `Session.Acts` — the same in a world, where events happen, of which `P` holds, and where `stores`
  holds the store is used.
* `MadeOf.framed`, `MadeOf.leaves` — what that sees, and the events that it leaves.
* `Session.madeOf_callTool`, `Dispatch.madeOf_run`, `Conversation.madeOf_run`, … — what the ways to
  the collaborators are made of, and of which events `P` has to hold.
* `Dispatch.run_answers` — the turns that dispatching gives answer the calls, one for each and in
  order (`Message.Answers`).
* `Conversation.passes_eq`, `Conversation.passes_congr` — a pass, and what passes are made of.

Design notes: a plugin reaches the site through the session alone, and what a session does is the
place to say what it may do.  So the code is gone through once, and what is said of the events, of
the site or of two runs side by side follows from the parts.
-/
import AgentWorkflow.Conversation
import AgentWorkflow.Proofs.Effects
import AgentWorkflow.Proofs.SiteParts
import Mathlib.Data.List.Forall2

namespace AgentWorkflow

open Deed (OnFiles)
open Step (Framed Leaves)

variable {α : Type}

/-! ### The parts -/

namespace Session

/-- What a session does at the site, one thing at a time. -/
inductive Does (s : Session) (writes : Prop) : (α : Type) → Deed α → Prop
  /-- It looks at the files or takes a note. -/
  | watched {α : Type} {d : Deed α} (h : OnFiles False α d) : Does s writes α d
  | completed (r : Request) : Does s writes (Outcome Message) (s.complete r).run
  | confirmed (name : String) (x : Table Json) : Does s writes Bool (s.confirm name x)
  | delivered {c : Channel} (hchannel : c ∈ s.channels) (message : String) :
    Does s writes (Outcome Unit) (c.send message).run
  | listedIssues {forge : Forge} (hforge : s.forge = some forge) :
    Does s writes (Outcome (List Summary)) forge.openIssues.run
  | listedPullRequests {forge : Forge} (hforge : s.forge = some forge) :
    Does s writes (Outcome (List Summary)) forge.openPullRequests.run
  | invoked {name : String} {tool : Tool} (htool : Table.get? s.tools name = some tool)
      (hkept : s.withholds name = false) (x : Table Json) :
    Does s writes (Outcome Json) (tool x).run
  | rewrote (hwrites : writes) (content : String) :
    Does s writes (Outcome Unit) (Roadmap.write s.roadmapPath content).run

/-- What a session does in a world, one thing at a time.  The events that happen are such that `P`
holds of them. -/
inductive Acts (s : Session) (P : Event → Prop) (writes stores : Prop) : (α : Type) → Step α → Prop
  | happened {e : Event} (hevent : P e) : Acts s P writes stores Unit (Step.happen e)
  | did {α : Type} {d : Deed α} (h : MadeOf (s.Does writes) d) :
    Acts s P writes stores α (Step.deed d)
  | looked (hstores : stores) : Acts s P writes stores (Outcome Store) Act.store.run
  | stored (hstores : stores) (store : Store) :
    Acts s P writes stores (Outcome Unit) (Act.setStore store).run

end Session

variable {s : Session} {P : Event → Prop} {writes stores : Prop}

namespace MadeOf

theorem watched {d : Deed α} (h : MadeOf (OnFiles False) d) : MadeOf (s.Does writes) d :=
  h.mono fun _ _ hd => .part (.watched hd)

/-- Without the store, what a session does sees nothing but the site. -/
theorem framed {m : Step α} (h : MadeOf (s.Acts P True False) m) : Framed P m := by
  induction h with
  | part hm =>
    cases hm with
    | happened hevent => exact .happen hevent
    | did => exact .of_deed _
    | looked hstores => exact hstores.elim
    | stored hstores => exact hstores.elim
  | pure a => exact .pure a
  | bind _ _ hm hf => exact hm.bind hf

theorem leaves {m : Step α} (h : MadeOf (s.Acts P True True) m) : Leaves P m := by
  induction h with
  | part hm =>
    cases hm with
    | happened hevent => exact .happen hevent
    | did => exact .deed _
    | looked => exact .of_record_eq fun _ => rfl
    | stored => exact .of_record_eq fun _ => rfl
  | pure a => exact .pure a
  | bind _ _ hm hf => exact hm.bind hf

end MadeOf

theorem Step.madeOf_deed {d : Deed α} (h : s.Does writes α d) :
    MadeOf (s.Acts P writes stores) (Step.deed d) := .part (.did (.part h))

theorem Step.madeOf_note (n : Note) : MadeOf (s.Acts P writes stores) (Step.note n) :=
  madeOf_deed (.watched (.note n))

theorem Step.madeOf_happen {e : Event} (hevent : P e) :
    MadeOf (s.Acts P writes stores) (Step.happen e) := .part (.happened hevent)

namespace Act

theorem madeOf_ofOutcome (o : Outcome α) : MadeOf (s.Acts P writes stores) (ofOutcome o).run := by
  rcases o with f | a
  · exact .run_throw f
  · exact .run_pure a

theorem madeOf_within (frame : String) {a : Act α} (h : MadeOf (s.Acts P writes stores) a.run) :
    MadeOf (s.Acts P writes stores) (within frame a).run := by
  rw [show (within frame a).run = a.run >>= fun o => Pure.pure (Outcome.within frame o) from
    funext fun w => run_within frame a w]
  exact .bind h fun _ => .pure _

end Act

/-! ### Requests, notices and tools -/

namespace Session

theorem madeOf_pose (hq : ∀ r, P (.requested r)) (hr : ∀ o, P (.replied o)) (s : Session)
    (r : Request) : MadeOf (s.Acts P writes stores) (s.pose r) := by
  refine .bind (Step.madeOf_happen (hq r)) fun _ => ?_
  refine .bind (Step.madeOf_deed (.completed r)) fun reply => ?_
  exact .bind (Step.madeOf_happen (hr reply)) fun _ => .pure _

theorem madeOf_request (hq : ∀ r, P (.requested r)) (hr : ∀ o, P (.replied o)) (s : Session)
    (messages : List Message) : MadeOf (s.Acts P writes stores) (s.request messages).run :=
  Act.madeOf_within _ (madeOf_pose hq hr s _)

theorem madeOf_notify (hd : ∀ c m, P (.delivered c m)) (message : String) {c : Channel}
    (hchannel : c ∈ s.channels) : MadeOf (s.Acts P writes stores) (notify message c) := by
  refine .bind (Step.madeOf_happen (hd c.name message)) fun _ => ?_
  refine .bind (Step.madeOf_deed (.delivered hchannel message)) fun answer => ?_
  rcases answer with f | _
  · exact .bind (Step.madeOf_note _) fun _ => .pure _
  · exact .pure _

theorem madeOf_notifyEach (hd : ∀ c m, P (.delivered c m)) (message : String)
    {channels : List Channel} (hchannels : ∀ c ∈ channels, c ∈ s.channels) :
    MadeOf (s.Acts P writes stores) (notifyEach message channels) := by
  induction channels with
  | nil => exact .pure _
  | cons c rest ih =>
    obtain ⟨hc, hrest⟩ := List.forall_mem_cons.mp hchannels
    exact .bind (madeOf_notify hd message hc) fun _ => .bind (ih hrest) fun _ => .pure _

theorem madeOf_notifyAll (hd : ∀ c m, P (.delivered c m)) (s : Session) (message : String) :
    MadeOf (s.Acts P writes stores) (s.notifyAll message) :=
  madeOf_notifyEach hd message fun _ h => h

theorem madeOf_ask (ha : ∀ n x, P (.asked n x)) (s : Session) (name : String) (x : Table Json) :
    MadeOf (s.Acts P writes stores) (s.ask name x) :=
  .bind (Step.madeOf_happen (ha name x)) fun _ => Step.madeOf_deed (.confirmed name x)

theorem madeOf_invoke (hi : ∀ n x, s.withholds n = false → P (.invoked n x)) {name : String}
    {tool : Tool} (htool : Table.get? s.tools name = some tool) (hkept : s.withholds name = false)
    (x : Table Json) : MadeOf (s.Acts P writes stores) (invoke name tool x) :=
  .bind (Step.madeOf_happen (hi name x hkept)) fun _ => Step.madeOf_deed (.invoked htool hkept x)

/-- A tool that is withheld is not invoked. -/
theorem madeOf_callTool (s : Session) (hi : ∀ n x, s.withholds n = false → P (.invoked n x))
    (name : String) (x : Table Json) :
    MadeOf (s.Acts P writes stores) (s.callTool name x).run := by
  unfold callTool
  split
  · exact .run_pure _
  · next tool htool =>
    split
    · exact .run_pure _
    · next hkept => exact madeOf_invoke hi htool (Bool.eq_false_iff.mpr hkept) x

end Session

/-! ### Dispatching -/

namespace Dispatch

/-- Nothing but questions and calls of tools happens in a decision, and a tool that is withheld is
not called. -/
theorem madeOf_decide (s : Session) (ha : ∀ n x, P (.asked n x))
    (hi : ∀ n x, s.withholds n = false → P (.invoked n x)) (name text : String) :
    MadeOf (s.Acts P writes stores) (decide s name text) := by
  unfold decide
  split
  · exact .pure _
  · next tool htool =>
    split
    · exact .pure _
    · next x _ =>
      have hconfirmed : MadeOf (s.Acts P writes stores) (confirmed s name x) := by
        unfold confirmed
        split
        · exact .pure _
        · exact Session.madeOf_ask ha s name x
      refine .bind hconfirmed fun agreed => ?_
      split
      · split
        · exact .pure _
        · next hkept =>
          refine .bind (Session.madeOf_invoke hi htool ?_ x) fun _ => .pure _
          exact Bool.eq_false_iff.mpr hkept
      · exact .pure _

theorem madeOf_runCall (s : Session) (ha : ∀ n x, P (.asked n x))
    (hi : ∀ n x, s.withholds n = false → P (.invoked n x)) (call : ToolCall) :
    MadeOf (s.Acts P writes stores) (runCall s call) := by
  refine .bind (madeOf_decide s ha hi call.name call.arguments) fun outcome => ?_
  have hwarn : MadeOf (s.Acts P writes stores) (warn call.name outcome) := by
    unfold warn
    split
    · exact Step.madeOf_note _
    · exact .pure _
  exact .bind hwarn fun _ => .pure _

theorem madeOf_run (s : Session) (ha : ∀ n x, P (.asked n x))
    (hi : ∀ n x, s.withholds n = false → P (.invoked n x)) (calls : List ToolCall) :
    MadeOf (s.Acts P writes stores) (run s calls) := by
  induction calls with
  | nil => exact .pure _
  | cons call rest ih =>
    exact .bind (madeOf_runCall s ha hi call) fun _ => .bind ih fun _ => .pure _

end Dispatch

/-- A turn answers a call: it is a tool turn with the call's id and name. -/
def Message.Answers (turn : Message) (call : ToolCall) : Prop :=
  ∃ content, turn = Message.toolResult call.id call.name content

namespace Dispatch

/-- Sessions that decide alike on calls run them alike. -/
theorem run_congr (s s' : Session) (htexts : s'.texts = s.texts) (hdecide : decide s' = decide s) :
    run s' = run s := by
  funext calls
  induction calls with
  | nil => rfl
  | cons call rest ih =>
    unfold run runCall
    rw [ih, hdecide, htexts]

theorem runCall_answers (s : Session) (call : ToolCall) (w : World) :
    (runCall s call w).1.Answers call :=
  ⟨_, rfl⟩

/-- Dispatching answers each call with one turn, in the order of the calls. -/
theorem run_answers (s : Session) (calls : List ToolCall) (w : World) :
    List.Forall₂ Message.Answers (run s calls w).1 calls := by
  induction calls generalizing w with
  | nil => exact .nil
  | cons call rest ih => exact .cons (runCall_answers s call w) (ih _)

end Dispatch

/-! ### Contexts and conversations -/

namespace Context

theorem madeOf_firstItems (what : String) {job : Job (List Summary)}
    (hjob : s.Does writes (Outcome (List Summary)) job.run) :
    MadeOf (s.Does writes) (firstItems what job) := by
  refine .bind (.part hjob) fun found => ?_
  split
  · exact .pure _
  · exact .bind (.part (.watched (.note _))) fun _ => .pure _

theorem madeOf_build (s : Session) :
    MadeOf (s.Does writes) (build s.texts s.roadmapPath s.forge).run := by
  refine .run_bind (Roadmap.madeOf_read _).watched fun roadmap => ?_
  split
  · exact .run_pure _
  · next forge hforge =>
    refine .run_bind (.run_lift (madeOf_firstItems _ (.listedIssues hforge))) fun issues => ?_
    refine .run_bind (.run_lift (madeOf_firstItems _ (.listedPullRequests hforge))) fun pulls => ?_
    exact .run_pure _

/-- The same in a world. -/
theorem madeOf_job (s : Session) :
    MadeOf (s.Acts P writes stores) (Act.job (build s.texts s.roadmapPath s.forge)).run :=
  .part (.did (madeOf_build s))

end Context

namespace Conversation

theorem madeOf_announce (hd : ∀ c m, P (.delivered c m)) (s : Session) (reply : Message) :
    MadeOf (s.Acts P writes stores) (announce s reply) := by
  unfold announce
  split
  · exact .pure _
  · exact .bind (Session.madeOf_notifyAll hd s _) fun _ => .pure _

theorem madeOf_milestoneReached (s : Session) :
    MadeOf (s.Acts P writes stores) (milestoneReached s) :=
  .part (.did (Roadmap.madeOf_milestoneReached _).watched)

theorem madeOf_stopAtMilestone (hd : ∀ c m, P (.delivered c m)) (s : Session) :
    MadeOf (s.Acts P writes stores) (stopAtMilestone s) := by
  unfold stopAtMilestone
  split
  · exact .pure _
  · refine .bind (madeOf_milestoneReached s) fun reached => ?_
    split
    · exact .bind (Session.madeOf_notifyAll hd s _) fun _ => .pure _
    · exact .pure _

/-- What a pass does, whether or not another may follow. -/
theorem passes_eq (s : Session) (limit left done : Nat) (messages : List Message) :
    passes s limit left done messages = (do
      let reply ← s.request messages
      let messages := messages ++ [reply]
      let done := done + 1
      if !reply.hasToolCalls then
        announce s reply
        pure ⟨done, .completed, messages⟩
      else if s.flags.once && 2 ≤ done then pure ⟨done, .once, messages⟩
      else
        let results ← Dispatch.run s reply.toolCalls
        let messages := messages ++ results
        if ← stopAtMilestone s then pure ⟨done, .milestone, messages⟩
        else
          match left with
          | 0 => do
            Step.note (.warning (limitNotice s.texts limit) [])
            pure ⟨done, .limit, messages⟩
          | left + 1 => passes s limit left done messages) := by
  cases left <;> rfl

/-- Sessions whose passes are made of the same parts make the same passes. -/
theorem passes_congr (s s' : Session) (hflags : s'.flags = s.flags) (htexts : s'.texts = s.texts)
    (hrequest : s'.request = s.request) (hannounce : announce s' = announce s)
    (hdispatch : Dispatch.run s' = Dispatch.run s)
    (hlook : stopAtMilestone s' = stopAtMilestone s) (limit left : Nat) :
    passes s' limit left = passes s limit left := by
  induction left with
  | zero =>
    funext done messages
    rw [passes_eq, passes_eq, hflags, htexts, hrequest, hannounce, hdispatch, hlook]
  | succ left ih =>
    funext done messages
    rw [passes_eq, passes_eq, hflags, hrequest, hannounce, hdispatch, hlook]
    dsimp only
    rw [ih]

section

variable (hq : ∀ r, P (.requested r)) (hr : ∀ o, P (.replied o)) (hd : ∀ c m, P (.delivered c m))
  (ha : ∀ n x, P (.asked n x)) (hi : ∀ n x, s.withholds n = false → P (.invoked n x))

include hq hr hd ha hi

theorem madeOf_passes (limit left done : Nat) (messages : List Message) :
    MadeOf (s.Acts P writes stores) (passes s limit left done messages).run := by
  induction left using Nat.strongRecOn generalizing done messages with
  | ind left ih =>
    rw [passes_eq]
    refine .run_bind (Session.madeOf_request hq hr s messages) fun reply => ?_
    dsimp only
    split
    · exact .run_bind (.run_lift (madeOf_announce hd s reply)) fun _ => .run_pure _
    split
    · exact .run_pure _
    refine .run_bind (.run_lift (Dispatch.madeOf_run s ha hi _)) fun results => ?_
    refine .run_bind (.run_lift (madeOf_stopAtMilestone hd s)) fun stop => ?_
    split
    · exact .run_pure _
    rcases left with _ | left
    · exact .run_bind (.run_lift (Step.madeOf_note _)) fun _ => .run_pure _
    · exact ih left (Nat.lt_succ_self left) _ _

/-- A conversation does nothing but what the session does, and of tools it calls those alone that
are not withheld. -/
theorem madeOf_run (limit : Nat) : MadeOf (s.Acts P writes stores) (run s limit).run :=
  .run_bind (Context.madeOf_job s) fun _ => madeOf_passes hq hr hd ha hi _ _ _ _

end

end Conversation

end AgentWorkflow
