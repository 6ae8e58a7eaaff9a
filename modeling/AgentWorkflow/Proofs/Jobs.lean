/-
What jobs that succeed went through, and where computations lead.

* `run_tryCatch` — what a computation does whose failures are caught.
* `Job.eq_ok_of_bind` — what a job that succeeds went through.
* `Goes R` — wherever a computation starts, `R` leads to where it ends.  There is a law for
  each way to build a computation, with failures or without.
* `Site.Noted` — nothing is done at a site but that notes are taken.

Design notes: jobs and acts are computations with failures on a site and on a world, so the
laws are stated for any kind of state.  `R` is any relation that goes nowhere at least and
may be followed twice.
-/
import AgentWorkflow.Site
import Mathlib.Logic.Relation

namespace AgentWorkflow

variable {α β : Type}

/-- What is caught is handled in the state that the failure left. -/
theorem run_tryCatch {σ : Type} (m : ExceptT Failure (StateM σ) α)
    (handle : Failure → ExceptT Failure (StateM σ) α) (s : σ) :
    (m.tryCatch handle).run s =
      match m.run s with
      | (.ok a, s') => (.ok a, s')
      | (.error f, s') => (handle f).run s' := by
  -- What is caught is the outcome, so the run is that of the computation followed by a step.
  change (m.run >>= _) s = _
  simp only [bind, StateT.bind]
  rcases m.run s with ⟨f | a, s'⟩
  · rfl
  · rfl

namespace Job

theorem run_bind (j : Job α) (f : α → Job β) (site : Site) :
    (j >>= f).run site = ExceptT.bindCont f (j.run site).1 (j.run site).2 := rfl

theorem run_lift_bind (d : Deed α) (f : α → Job β) (site : Site) :
    (liftM d >>= f).run site = (f (d site).1).run (d site).2 := rfl

theorem eq_ok_of_disk {site site' : Site} {d : Disk} (h : disk.run site = (.ok d, site')) :
    d = site.disk ∧ site' = site := by
  cases h
  exact ⟨rfl, rfl⟩

theorem eq_ok_of_ofOutcome {o : Outcome α} {site site' : Site} {a : α}
    (h : (ofOutcome o).run site = (.ok a, site')) : o = .ok a ∧ site' = site := by
  rcases o with e | a'
  · cases h
  · cases h
    exact ⟨rfl, rfl⟩

theorem eq_ok_of_lift {d : Deed α} {site site' : Site} {a : α}
    (h : (liftM d : Job α).run site = (.ok a, site')) : a = (d site).1 ∧ site' = (d site).2 := by
  cases h
  exact ⟨rfl, rfl⟩

/-- Two jobs one after the other succeed when both do. -/
theorem eq_ok_of_bind {j : Job α} {f : α → Job β} {site site' : Site} {b : β}
    (h : (j >>= f).run site = (.ok b, site')) :
    ∃ a site₁, j.run site = (.ok a, site₁) ∧ (f a).run site₁ = (.ok b, site') := by
  rw [run_bind] at h
  rcases hj : j.run site with ⟨e | a, site₁⟩
  · rw [hj] at h
    cases h
  · rw [hj] at h
    exact ⟨a, site₁, rfl, h⟩

end Job

/-! ### Where computations lead -/

/-- Wherever a computation starts, `R` leads to where it ends. -/
def Goes {σ : Type} (R : σ → σ → Prop) (m : StateM σ α) : Prop := ∀ s, R s (m s).2

namespace Goes

variable {σ : Type} {R : σ → σ → Prop} {m : StateM σ α}

theorem pure [Std.Refl R] (a : α) : Goes R (Pure.pure a : StateM σ α) := refl_of R

theorem run_pure [Std.Refl R] (a : α) :
    Goes R (Pure.pure a : ExceptT Failure (StateM σ) α).run := refl_of R

theorem run_throw [Std.Refl R] (f : Failure) :
    Goes R (throw f : ExceptT Failure (StateM σ) α).run := refl_of R

/-- A computation that looks at the state first knows where it starts. -/
theorem get_bind {f : σ → StateM σ α} (hf : ∀ s, R s (f s s).2) : Goes R (get >>= f) := hf

variable [IsTrans σ R]

theorem bind {f : α → StateM σ β} (hm : Goes R m) (hf : ∀ a, Goes R (f a)) :
    Goes R (m >>= f) :=
  fun s => trans_of R (hm s) (hf (m s).1 (m s).2)

/-- A failure keeps what follows from being done. -/
theorem run_bind {m : ExceptT Failure (StateM σ) α} {f : α → ExceptT Failure (StateM σ) β}
    (hm : Goes R m.run) (hf : ∀ a, Goes R (f a).run) : Goes R (m >>= f).run := by
  intro s
  have hfirst := hm s
  rw [show (m >>= f).run s = ExceptT.bindCont f (m.run s).1 (m.run s).2 from rfl]
  rcases hrun : m.run s with ⟨e | a, s'⟩
  · rw [hrun] at hfirst
    exact hfirst
  · rw [hrun] at hfirst
    exact trans_of R hfirst (hf a s')

end Goes

namespace Job

variable {R : Site → Site → Prop} [Std.Refl R]

theorem goes_ofOutcome (o : Outcome α) : Goes R (ofOutcome o).run := by
  rcases o with f | a
  · exact Goes.run_throw f
  · exact Goes.run_pure a

theorem goes_disk : Goes R disk.run := fun site => refl_of R site

theorem goes_readText [IsTrans Site R] (frame path : String) :
    Goes R (readText frame path).run :=
  Goes.run_bind goes_disk fun _ => goes_ofOutcome _

end Job

/-! ### Notes -/

namespace Site

/-- A site with more notes. -/
def noting (site : Site) (notes : List Note) : Site := { site with notes := site.notes ++ notes }

theorem noting_nil (site : Site) : site.noting [] = site := by
  unfold noting
  rw [List.append_nil]

theorem noting_noting (site : Site) (notes more : List Note) :
    (site.noting notes).noting more = site.noting (notes ++ more) := by
  unfold noting
  rw [List.append_assoc]

/-- The second site is the first one with more notes. -/
def Noted (a b : Site) : Prop := ∃ notes, b = { a with notes := a.notes ++ notes }

theorem Noted.refl (a : Site) : Noted a a :=
  ⟨[], by rw [List.append_nil]⟩

theorem Noted.trans {a b c : Site} (h : Noted a b) (h' : Noted b c) : Noted a c := by
  obtain ⟨notes, rfl⟩ := h
  obtain ⟨more, rfl⟩ := h'
  exact ⟨notes ++ more, by rw [List.append_assoc]⟩

instance : Std.Refl Noted := ⟨Noted.refl⟩

instance : IsTrans Site Noted := ⟨fun _ _ _ => Noted.trans⟩

theorem Noted.disk_eq {a b : Site} (h : Noted a b) : b.disk = a.disk := by
  obtain ⟨notes, rfl⟩ := h
  rfl

end Site

theorem Deed.goes_note (n : Note) : Goes Site.Noted (Deed.note n) := fun _ => ⟨[n], rfl⟩

end AgentWorkflow
