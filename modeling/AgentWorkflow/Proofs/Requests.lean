/-
How often the model is asked.

* `World.requests` — the number of requests on the record.
* `Step.Asks` — a step puts so many requests at most; the numbers add up along a bind.
* `Conversation.asks_run` — a conversation asks as often as its limit allows.
* `Plugin.asks_of_mem_builtin` — the plugins that there are ask once or not at all.
* `Registry.AsksAt` — which types of nodes ask, and `Registry.asksAt_ofNames` — in a registry
  of names those that stand for the plugin that asks.
-/
import AgentWorkflow.Proofs.BuiltinPlugins
import AgentWorkflow.Proofs.Dialogue

namespace AgentWorkflow

variable {α β : Type}

/-- The number of requests to the model so far. -/
def World.requests (w : World) : Nat := (Event.requestsOf w.record).length

/-! ### Steps and acts -/

namespace Step

/-- A step puts so many requests to the model at most. -/
def Asks (k : Nat) (st : Step α) : Prop := ∀ w, (st w).2.requests ≤ w.requests + k

/-- A step that leaves no part of the dialogue with the model puts no request. -/
theorem Leaves.asks {st : Step α} (h : Leaves (fun e => e.isDialogue = false) st) : Asks 0 st := by
  intro w
  obtain ⟨es, hrecord, hes⟩ := h w
  have hnone : (Event.requestsOf es).length = 0 := by
    rw [Event.requestsOf_eq_nil hes]
    rfl
  unfold World.requests
  rw [hrecord, Event.requestsOf_append, List.length_append]
  omega

namespace Asks

variable {j k : Nat}

theorem mono {st : Step α} (h : Asks j st) (hjk : j ≤ k) : Asks k st := by
  intro w
  have hw := h w
  omega

theorem bind {st : Step α} {f : α → Step β} (hst : Asks j st) (hf : ∀ a, Asks k (f a)) :
    Asks (j + k) (st >>= f) := by
  intro w
  have h₁ := hst w
  have h₂ := hf (st w).1 (st w).2
  rw [run_bind]
  omega

end Asks

end Step

namespace Act

open Step (Asks)

variable {j k : Nat}

theorem asks_pure (x : α) : Asks k (pure x : Act α).run :=
  (Step.Leaves.asks (leaves_pure x)).mono (Nat.zero_le k)

theorem asks_throw (e : Failure) : Asks k (throw e : Act α).run :=
  (Step.Leaves.asks (leaves_throw e)).mono (Nat.zero_le k)

theorem asks_lift {st : Step α} (h : Step.Leaves (fun e => e.isDialogue = false) st) :
    Asks 0 (liftM st : Act α).run := (leaves_lift h).asks

theorem asks_bind {a : Act α} {f : α → Act β} (ha : Asks j a.run) (hf : ∀ x, Asks k (f x).run) :
    Asks (j + k) (a >>= f).run := by
  rw [show (a >>= f).run = a.run >>= ExceptT.bindCont f from rfl]
  refine Asks.bind ha fun o => ?_
  rcases o with e | x
  · exact asks_throw e
  · exact hf x

/-- What asks nothing may come first. -/
theorem asks_bind_quiet {a : Act α} {f : α → Act β} (ha : Asks 0 a.run)
    (hf : ∀ x, Asks k (f x).run) : Asks k (a >>= f).run := by
  have h := asks_bind ha hf
  rwa [Nat.zero_add] at h

theorem asks_within (frame : String) {a : Act α} (h : Asks k a.run) :
    Asks k (within frame a).run := by
  intro w
  rw [run_within]
  exact h w

end Act

open Step (Asks)

/-! ### Conversations -/

theorem Session.asks_pose (s : Session) (r : Request) : Asks 1 (s.pose r) := by
  intro w
  unfold World.requests
  rw [Conversation.record_pose, Event.requestsOf_append, List.length_append]
  exact Nat.le_refl _

theorem Session.asks_request (s : Session) (messages : List Message) :
    Asks 1 (s.request messages).run := Act.asks_within _ (s.asks_pose _)

namespace Conversation

theorem asks_passes (s : Session) (limit left done : Nat) (messages : List Message) :
    Asks (left + 1) (passes s limit left done messages).run := by
  induction left using Nat.strongRecOn generalizing done messages with
  | ind left ih =>
    rw [passes_eq, Nat.add_comm]
    refine Act.asks_bind (s.asks_request messages) fun reply => ?_
    dsimp only
    split
    · exact Act.asks_bind_quiet (Act.asks_lift (quiet_announce s reply)) fun _ =>
        Act.asks_pure _
    split
    · exact Act.asks_pure _
    refine Act.asks_bind_quiet (Act.asks_lift (quiet_dispatch s _)) fun results => ?_
    refine Act.asks_bind_quiet (Act.asks_lift (quiet_stopAtMilestone s)) fun stop => ?_
    split
    · exact Act.asks_pure _
    -- What is left to be done are the passes that may still follow.
    rcases left with _ | left
    · exact Act.asks_bind_quiet (Act.asks_lift (Step.Leaves.deed _)) fun _ => Act.asks_pure _
    · exact ih left (Nat.lt_succ_self left) _ _

/-- A conversation asks the model as often as its limit allows, and once if that is
nothing. -/
theorem asks_run (s : Session) (limit : Nat) : Asks (max limit 1) (run s limit).run := by
  refine Act.asks_bind_quiet (Act.leaves_job _).asks fun context => ?_
  refine (asks_passes s limit (limit - 1) 0 (opening s context)).mono ?_
  omega

end Conversation

/-! ### Plugins -/

namespace Plugin

theorem asks_aiRequest (s : Session) (inputs : Inputs) : Asks 1 (aiRequest s inputs).run := by
  refine Act.asks_bind_quiet (Act.leaves_ofOutcome _).asks fun messages => ?_
  exact Act.asks_bind (k := 0) (s.asks_request messages) fun _ => Act.asks_pure _

/-- One of the plugins that there are asks the model, and it asks once. -/
theorem asks_of_mem_builtin (s : Session) {entry : String × Plugin} (hentry : entry ∈ builtin)
    (inputs : Inputs) : Asks (if entry.1 = requestName then 1 else 0) (entry.2 s inputs).run := by
  by_cases hname : entry.1 = requestName
  · have hget : Table.get? builtin entry.1 = some entry.2 := Table.get?_of_mem (by decide) hentry
    rw [hname] at hget
    obtain hplugin : aiRequest = entry.2 := Option.some.inj hget
    rw [if_pos hname, ← hplugin]
    exact asks_aiRequest s inputs
  · have hparts : MadeOf (s.Acts (fun e => e.isDialogue = false) True True)
        (entry.2 s inputs).run := by
      refine madeOf_of_mem_builtin ?_ ?_ ?_ entry hentry (fun h => absurd h hname) ?_ ?_ inputs
      · exact fun _ _ => rfl
      · exact fun _ _ => rfl
      · exact fun _ _ _ => rfl
      · exact fun _ => trivial
      · exact fun _ => trivial
    rw [if_neg hname]
    exact hparts.leaves.asks

end Plugin

/-! ### Registries -/

/-- The plugins for some types of nodes ask the model once at most, and those for other
types do not ask. -/
def Registry.AsksAt (session : Session) (registry : Registry) (asks : String → Bool) : Prop :=
  ∀ type plugin, Table.get? registry type = some plugin →
    ∀ inputs, Asks (asks type).toNat (plugin session inputs).run

/-- The types that a table of names lets stand for the plugin that asks. -/
def Registry.askingTypes (names : Table String) (type : String) : Bool :=
  decide ((type, Plugin.requestName) ∈ names)

theorem Registry.asksAt_ofNames (session : Session) (names : Table String) :
    (ofNames names).AsksAt session (askingTypes names) := by
  intro type plugin hget inputs
  obtain ⟨name, hname, hmem⟩ := mem_builtin_of_get?_ofNames hget
  refine (Plugin.asks_of_mem_builtin session hmem inputs).mono ?_
  by_cases hrequest : name = Plugin.requestName
  · rw [hrequest] at hname
    simp [askingTypes, hrequest, hname]
  · simp [hrequest]

end AgentWorkflow
