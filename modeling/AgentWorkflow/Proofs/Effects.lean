/-
What steps and acts do to a world.

* `Step.run_bind`, `Act.run_bind_ok`, `Act.run_bind_error`, … — how computations
  run, one equation for each way to build them.
* `Step.Leaves P` — a step only adds to the record, and adds no event without `P`.
* `Step.Framed P` — besides, it sees nothing but the site and leaves the store alone.
* `World.AlikeIn p` — two worlds with the same site in which `p` shows the same events.
  Framed steps take alike worlds to alike worlds (`Step.Framed.alike`).
* `World.Alike` — two worlds that collaborators cannot tell apart: the same site,
  and the same exchanges on the record.

Design notes: an act is a step that answers an outcome (`Act.run`), so both
properties are stated for steps, and the laws for acts are about `Act.run`.
-/
import AgentWorkflow.Proofs.Jobs
import AgentWorkflow.Session
import Mathlib.Tactic.Choose

namespace AgentWorkflow

variable {α β : Type}

/-! ### How steps and acts run -/

namespace Step

theorem run_bind (st : Step α) (f : α → Step β) (w : World) :
    (st >>= f) w = f (st w).1 (st w).2 := rfl

theorem run_deed (d : Deed α) (w : World) :
    deed d w = ((d w.site).1, { w with site := (d w.site).2 }) := rfl

end Step

namespace Act

variable {a : Act α} {f : α → Act β} {w w' : World}

theorem run_ofOutcome (o : Outcome α) (w : World) : (ofOutcome o).run w = (o, w) := by
  cases o <;> rfl

theorem run_lift (st : Step α) (w : World) :
    (liftM st : Act α).run w = (.ok (st w).1, (st w).2) := rfl

theorem run_store (w : World) : store.run w = (.ok w.store, w) := rfl

theorem run_setStore (s : Store) (w : World) :
    (setStore s).run w = (.ok (), { w with store := s }) := rfl

theorem run_job (j : Job α) (w : World) :
    (job j).run w = ((j.run w.site).1, { w with site := (j.run w.site).2 }) := rfl

theorem run_bind (a : Act α) (f : α → Act β) (w : World) :
    (a >>= f).run w = ExceptT.bindCont f (a.run w).1 (a.run w).2 := rfl

theorem run_bind_ok {x : α} (h : a.run w = (.ok x, w')) :
    (a >>= f).run w = (f x).run w' := by
  rw [run_bind, h]
  rfl

theorem run_bind_error {e : Failure} (h : a.run w = (.error e, w')) :
    (a >>= f).run w = (.error e, w') := by
  rw [run_bind, h]
  rfl

/-- Naming what was being done changes the failure and nothing else. -/
theorem run_within (frame : String) (a : Act α) (w : World) :
    (within frame a).run w = (Outcome.within frame (a.run w).1, (a.run w).2) := by
  unfold within
  rw [run_tryCatch]
  rcases a.run w with ⟨e | x, w'⟩
  · rfl
  · rfl

end Act

/-! ### The events that are left -/

namespace Step

/-- A step only adds to the record, and each event that it adds has a property. -/
def Leaves (P : Event → Prop) (st : Step α) : Prop :=
  ∀ w, ∃ es, (st w).2.record = w.record ++ es ∧ ∀ e ∈ es, P e

namespace Leaves

variable {P : Event → Prop}

/-- A step that does not touch the record leaves no events. -/
theorem of_record_eq {st : Step α} (h : ∀ w, (st w).2.record = w.record) : Leaves P st := by
  intro w
  refine ⟨[], ?_, fun e he => absurd he (List.not_mem_nil)⟩
  rw [h, List.append_nil]

theorem pure (a : α) : Leaves P (Pure.pure a : Step α) :=
  of_record_eq fun _ => rfl

theorem deed (d : Deed α) : Leaves P (Step.deed d) :=
  of_record_eq fun _ => rfl

theorem happen {e : Event} (he : P e) : Leaves P (Step.happen e) := by
  intro w
  refine ⟨[e], rfl, ?_⟩
  intro e' he'
  rw [List.mem_singleton.mp he']
  exact he

theorem bind {st : Step α} {f : α → Step β} (hst : Leaves P st) (hf : ∀ a, Leaves P (f a)) :
    Leaves P (st >>= f) := by
  intro w
  obtain ⟨es, hes, hP⟩ := hst w
  obtain ⟨es', hes', hP'⟩ := hf (st w).1 (st w).2
  refine ⟨es ++ es', ?_, ?_⟩
  · rw [run_bind, hes', hes, List.append_assoc]
  · intro e he
    rcases List.mem_append.mp he with he | he
    · exact hP e he
    · exact hP' e he

end Leaves

end Step

namespace Act

open Step (Leaves)

variable {P : Event → Prop}

theorem leaves_pure (x : α) : Leaves P (pure x : Act α).run := Leaves.pure _

theorem leaves_throw (e : Failure) : Leaves P (throw e : Act α).run := Leaves.pure _

theorem leaves_ofOutcome (o : Outcome α) : Leaves P (ofOutcome o).run := by
  rcases o with e | x
  · exact leaves_throw e
  · exact leaves_pure x

theorem leaves_store : Leaves P store.run := Leaves.of_record_eq fun _ => rfl

theorem leaves_setStore (s : Store) : Leaves P (setStore s).run :=
  Leaves.of_record_eq fun _ => rfl

theorem leaves_job (j : Job α) : Leaves P (job j).run := Leaves.deed _

theorem leaves_lift {st : Step α} (h : Leaves P st) : Leaves P (liftM st : Act α).run :=
  h.bind fun _ => Leaves.pure _

theorem leaves_bind {a : Act α} {f : α → Act β} (ha : Leaves P a.run)
    (hf : ∀ x, Leaves P (f x).run) : Leaves P (a >>= f).run := by
  rw [show (a >>= f).run = a.run >>= ExceptT.bindCont f from rfl]
  refine Leaves.bind ha fun o => ?_
  rcases o with e | x
  · exact Leaves.pure _
  · exact hf x

theorem leaves_within (frame : String) {a : Act α} (h : Leaves P a.run) :
    Leaves P (within frame a).run := by
  intro w
  rw [run_within]
  exact h w

end Act

/-! ### Steps that see nothing but the site -/

namespace Step

/-- A step sees nothing but the site.  It leaves the store alone and adds events with
a property to the record. -/
def Framed (P : Event → Prop) (st : Step α) : Prop :=
  ∃ f : Site → α × Site × List Event,
    (∀ w, st w = ((f w.site).1, ⟨(f w.site).2.1, w.store, w.record ++ (f w.site).2.2⟩)) ∧
    ∀ site, ∀ e ∈ (f site).2.2, P e

namespace Framed

variable {P : Event → Prop}

theorem leaves {st : Step α} (h : Framed P st) : Leaves P st := by
  obtain ⟨f, hf, hP⟩ := h
  intro w
  refine ⟨(f w.site).2.2, ?_, hP w.site⟩
  rw [hf]

theorem of_deed (d : Deed α) : Framed P (Step.deed d) := by
  refine ⟨fun site => ((d site).1, (d site).2, []), fun w => ?_, fun site e he => ?_⟩
  · rw [run_deed, List.append_nil]
  · exact absurd he (List.not_mem_nil)

theorem pure (a : α) : Framed P (Pure.pure a : Step α) := of_deed (Pure.pure a)

theorem happen {e : Event} (he : P e) : Framed P (Step.happen e) := by
  refine ⟨fun site => ((), site, [e]), fun _ => rfl, fun site e' he' => ?_⟩
  rw [List.mem_singleton.mp he']
  exact he

theorem bind {st : Step α} {f : α → Step β} (hst : Framed P st) (hf : ∀ a, Framed P (f a)) :
    Framed P (st >>= f) := by
  obtain ⟨g, hg, hP⟩ := hst
  -- What follows depends on the answer, and so does the function of the site behind it.
  choose h hh hP' using hf
  refine ⟨fun site =>
    let r := h (g site).1 (g site).2.1
    (r.1, r.2.1, (g site).2.2 ++ r.2.2), fun w => ?_, fun site e he => ?_⟩
  · rw [run_bind, hg, hh, List.append_assoc]
  · rcases List.mem_append.mp he with he | he
    · exact hP site e he
    · exact hP' _ _ e he

end Framed

end Step

/-! ### Worlds that collaborators cannot tell apart -/

/-- Whether an event is an exchange with a collaborator: a request to the model,
its reply, a question to the user, or a call of a tool. -/
def Event.isExchange : Event → Bool
  | .requested _ | .replied _ | .asked _ _ | .invoked _ _ => true
  | .delivered _ _ | .called _ _ => false

/-- A choice of events that leaves out the calls of plugins. -/
class Event.HidesCalls (p : Event → Bool) : Prop where
  called : ∀ plugin inputs, p (.called plugin inputs) = false

instance Event.hidesCalls_isExchange : HidesCalls isExchange := ⟨fun _ _ => rfl⟩

namespace World

variable {p : Event → Bool}

/-- The events so far that a choice shows, the first one first. -/
def seen (p : Event → Bool) (w : World) : List Event := w.record.filter p

/-- The exchanges so far, the first one first. -/
def exchanges (w : World) : List Event := w.record.filter Event.isExchange

/-- Two worlds with the same site in which a choice shows the same events. -/
def AlikeIn (p : Event → Bool) (w v : World) : Prop := w.site = v.site ∧ w.seen p = v.seen p

/-- Two worlds with the same site and the same exchanges. -/
def Alike (w v : World) : Prop := w.site = v.site ∧ w.exchanges = v.exchanges

theorem AlikeIn.refl (p : Event → Bool) (w : World) : AlikeIn p w w := ⟨rfl, rfl⟩

theorem Alike.refl (w : World) : Alike w w := AlikeIn.refl _ w

/-- The world after the call of a plugin is recorded. -/
def called (w : World) (plugin : String) (inputs : Inputs) : World :=
  { w with record := w.record ++ [.called plugin inputs] }

/-- The call of a plugin makes no difference. -/
theorem AlikeIn.called [hp : Event.HidesCalls p] {w v : World} (h : AlikeIn p w v)
    (plugin : String) (inputs : Inputs) : AlikeIn p w (v.called plugin inputs) := by
  refine ⟨h.1, h.2.trans ?_⟩
  simp [World.called, seen, hp.called]

/-- The store makes no difference. -/
theorem AlikeIn.stored {w v : World} (h : AlikeIn p w v) (store : Store) :
    AlikeIn p w { v with store } := h

theorem Alike.stored {w v : World} (h : Alike w v) (store : Store) :
    Alike w { v with store } := AlikeIn.stored h store

end World

namespace Step

variable {p : Event → Bool}

/-- Framed steps take alike worlds to alike worlds, with the same answer. -/
theorem Framed.alike {P : Event → Prop} {st : Step α} (hst : Framed P st) {w v : World}
    (h : w.AlikeIn p v) :
    (st v).1 = (st w).1 ∧ (st w).2.AlikeIn p (st v).2 ∧
      (st v).2.store = v.store := by
  obtain ⟨f, hf, -⟩ := hst
  obtain ⟨hsite, hrecord⟩ := h
  rw [hf w, hf v, hsite]
  refine ⟨rfl, ⟨rfl, ?_⟩, rfl⟩
  unfold World.seen at hrecord ⊢
  rw [List.filter_append, List.filter_append, hrecord]

/-- A step that leaves no event of a choice leaves what the choice shows as it is. -/
theorem Leaves.seen {st : Step α} (h : Leaves (fun e => p e = false) st) (w : World) :
    (st w).2.seen p = w.seen p := by
  obtain ⟨es, hrecord, hes⟩ := h w
  unfold World.seen
  rw [hrecord, List.filter_append, List.append_right_eq_self, List.filter_eq_nil_iff]
  intro e he
  rw [hes e he]
  exact Bool.false_ne_true

end Step

end AgentWorkflow
