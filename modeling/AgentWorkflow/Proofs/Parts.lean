/-
What computations are made of.

* `MadeOf A` — a computation is put together from parts that `A` allows, by doing one after the
  other; there is a law for each way to build one, with failures or without.
* `MadeOf.goes` — it leads where all of its parts lead.
* `Agrees R` — from states that `R` relates, a computation gives one answer and leads to states that
  `R` relates.
* `MadeOf.agrees` — it does so when all of its parts do.

Design notes: a computation is a function of the state, so what it does on its way cannot be read
off it.  Its make-up is followed here once, and what is to be said of runs, of one or of two side by
side, is then said of the parts alone.
-/
import AgentWorkflow.Proofs.Jobs

namespace AgentWorkflow

variable {α β σ : Type}

/-- A computation is put together from parts that are allowed.  What follows a part may depend on
its answer. -/
inductive MadeOf (A : (α : Type) → StateM σ α → Prop) : {α : Type} → StateM σ α → Prop
  | part {α : Type} {m : StateM σ α} (hm : A α m) : MadeOf A m
  | pure {α : Type} (a : α) : MadeOf A (Pure.pure a)
  | bind {α β : Type} {m : StateM σ α} {f : α → StateM σ β} (hm : MadeOf A m)
      (hf : ∀ a, MadeOf A (f a)) : MadeOf A (m >>= f)

/-- Two runs of a computation, from related states: they answer the same, and the states that they
end in are related. -/
def Agrees (R : σ → σ → Prop) (m : StateM σ α) : Prop :=
  ∀ s t, R s t → (m s).1 = (m t).1 ∧ R (m s).2 (m t).2

namespace Agrees

variable {R : σ → σ → Prop}

theorem pure (a : α) : Agrees R (Pure.pure a : StateM σ α) := fun _ _ h => ⟨rfl, h⟩

/-- A computation that looks at the state first knows where both runs start. -/
theorem get_bind {f : σ → StateM σ α}
    (hf : ∀ s t, R s t → (f s s).1 = (f t t).1 ∧ R (f s s).2 (f t t).2) :
    Agrees R (get >>= f) := hf

theorem bind {m : StateM σ α} {f : α → StateM σ β} (hm : Agrees R m)
    (hf : ∀ a, Agrees R (f a)) : Agrees R (m >>= f) := by
  intro s t h
  obtain ⟨hanswer, hstates⟩ := hm s t h
  have hrest := hf (m s).1 (m s).2 (m t).2 hstates
  rw [show (m >>= f) t = f (m t).1 (m t).2 from rfl, ← hanswer]
  exact hrest

end Agrees

namespace MadeOf

variable {A B : (α : Type) → StateM σ α → Prop} {R : σ → σ → Prop} {m : StateM σ α}

/-! ### What is true of the whole -/

/-- Parts may be put together from other parts. -/
theorem mono (h : MadeOf A m) (hparts : ∀ α m, A α m → MadeOf B m) : MadeOf B m := by
  induction h with
  | part hm => exact hparts _ _ hm
  | pure a => exact .pure a
  | bind _ _ hm hf => exact .bind hm hf

theorem goes [Std.Refl R] [IsTrans σ R] (h : MadeOf A m)
    (hparts : ∀ α m, A α m → Goes R m) : Goes R m := by
  induction h with
  | part hm => exact hparts _ _ hm
  | pure a => exact Goes.pure a
  | bind _ _ hm hf => exact hm.bind hf

theorem agrees (h : MadeOf A m) (hparts : ∀ α m, A α m → Agrees R m) : Agrees R m := by
  induction h with
  | part hm => exact hparts _ _ hm
  | pure a => exact Agrees.pure a
  | bind _ _ hm hf => exact hm.bind hf

/-! ### Computations with failures -/

theorem run_pure (a : α) : MadeOf A (Pure.pure a : ExceptT Failure (StateM σ) α).run := .pure _

theorem run_throw (f : Failure) : MadeOf A (throw f : ExceptT Failure (StateM σ) α).run := .pure _

theorem run_lift (hm : MadeOf A m) :
    MadeOf A (liftM m : ExceptT Failure (StateM σ) α).run := .bind hm fun _ => .pure _

/-- A failure keeps what follows from being done. -/
theorem run_bind {m : ExceptT Failure (StateM σ) α} {f : α → ExceptT Failure (StateM σ) β}
    (hm : MadeOf A m.run) (hf : ∀ a, MadeOf A (f a).run) : MadeOf A (m >>= f).run := by
  rw [show (m >>= f).run = m.run >>= ExceptT.bindCont f from rfl]
  refine .bind hm fun outcome => ?_
  rcases outcome with failure | a
  · exact .pure _
  · exact hf a

end MadeOf

theorem Job.madeOf_ofOutcome {A : (α : Type) → Deed α → Prop} (o : Outcome α) :
    MadeOf A (ofOutcome o).run := by
  rcases o with f | a
  · exact .run_throw f
  · exact .run_pure a

end AgentWorkflow
