/-
The supervisor of runs as a system that takes steps.

* `Supervisor.Happening`, `Supervisor.Moves` — what can happen to a supervisor: a start
  that is granted or rejected, a reset, and the end of a worker that is alive.
* `Supervisor.Run` — the histories that lead from the idle supervisor to a state.
* `Supervisor.Accounted` — the invariant: the history accounts for the numbers given,
  the workers alive and the run that holds the slot.
* `Supervisor.Run.sound` — what `Supervisor.Sound` says of a state holds of every state
  that is reached before the numbers are used up.

Design notes: a start, a reset and the end of a worker each take the lock of the slot
once, so a step of `Moves` is one section under the lock, and the calls of any number
of clients are a list of such steps in the order in which the lock was taken.  A worker
is alive from the start that gave it its number until it gives the slot back.
-/
import AgentWorkflow.Supervisor.Basic
import Mathlib.Data.List.Nodup

namespace AgentWorkflow.Supervisor

/-- How a worker ends. -/
inductive Ending where
  | completed
  | failed
  | panicked
  /-- There was no thread to be had for it. -/
  | unspawned
  deriving DecidableEq, Repr

/-- What happens to a supervisor. -/
inductive Happening where
  | started (id : Nat) (plan : RunPlan)
  | rejected (plan : RunPlan)
  | reset
  | ended (id : Nat) (ending : Ending)
  deriving DecidableEq, Repr

/-- A step of a supervisor: one section under the lock of the slot. -/
inductive Moves : Supervisor → Happening → Supervisor → Prop
  | start {s s' plan id} (h : s.start plan = (some id, s')) : Moves s (.started id plan) s'
  | reject {s s' plan} (h : s.start plan = (none, s')) : Moves s (.rejected plan) s'
  | reset {s} : Moves s .reset s.reset
  | finish {s id} (ending : Ending) (h : id ∈ s.workers.map Prod.fst) :
    Moves s (.ended id ending) (s.finish id)

/-- The histories that lead from the idle supervisor to a state. -/
inductive Run : List Happening → Supervisor → Prop
  | idle : Run [] idle
  | step {history s e s'} (h : Run history s) (hstep : Moves s e s') : Run (history ++ [e]) s'

namespace Happening

/-- The number that is given by a happening. -/
def given? : Happening → Option Nat
  | started id _ => some id
  | _ => none

/-- The numbers that are given in a history. -/
def given (history : List Happening) : List Nat := history.filterMap given?

/-- A worker is alive after a history: it was started and has not ended. -/
def Alive (history : List Happening) (id : Nat) (plan : RunPlan) : Prop :=
  .started id plan ∈ history ∧ ∀ ending, .ended id ending ∉ history

theorem given_append (h h' : List Happening) : given (h ++ h') = given h ++ given h' :=
  List.filterMap_append

/-- Nothing but a start that is granted gives a number. -/
theorem given_snoc_of_none (history : List Happening) {e : Happening} (h : e.given? = none) :
    given (history ++ [e]) = given history := by
  unfold given
  rw [List.filterMap_append, List.filterMap_cons_none h, List.filterMap_nil, List.append_nil]

theorem mem_given_of_started {history : List Happening} {id : Nat} {plan : RunPlan}
    (h : .started id plan ∈ history) : id ∈ given history :=
  List.mem_filterMap.mpr ⟨_, h, rfl⟩

theorem given_step_length (history : List Happening) (e : Happening) :
    (given history).length ≤ (given (history ++ [e])).length := by
  rw [given_append, List.length_append]
  omega

end Happening

open Happening (given Alive)

/-! ### What a step does -/

/-- A start is granted when the slot is free: it gives the next number. -/
theorem start_granted_iff {s s' : Supervisor} {plan : RunPlan} {id : Nat} :
    s.start plan = (some id, s') ↔
      s.slot.active = none ∧ id = s.slot.next ∧
        s' = ⟨⟨id, some (id, plan)⟩, s.workers ++ [(id, plan)]⟩ := by
  rcases hactive : s.slot.active with _ | held
  · have hstart : s.start plan = (some s.slot.next,
        ⟨⟨s.slot.next, some (s.slot.next, plan)⟩, s.workers ++ [(s.slot.next, plan)]⟩) := by
      unfold start Slot.take?
      rw [hactive]
    rw [hstart, Prod.mk.injEq, Option.some.injEq]
    constructor
    · rintro ⟨rfl, rfl⟩
      exact ⟨rfl, rfl, rfl⟩
    · rintro ⟨-, rfl, rfl⟩
      exact ⟨rfl, rfl⟩
  · have hstart : s.start plan = (none, s) := by
      unfold start Slot.take?
      rw [hactive]
    rw [hstart]
    simp

/-- A start is rejected when the slot is taken, and then nothing changes. -/
theorem start_rejected_iff {s s' : Supervisor} {plan : RunPlan} :
    s.start plan = (none, s') ↔ s.slot.active.isSome ∧ s' = s := by
  rcases hactive : s.slot.active with _ | held
  · have hstart : (s.start plan).1 = some s.slot.next := by
      unfold start Slot.take?
      rw [hactive]
    constructor
    · intro h
      rw [h] at hstart
      exact absurd hstart (by simp)
    · rintro ⟨h, -⟩
      exact absurd h (by simp)
  · have hstart : s.start plan = (none, s) := by
      unfold start Slot.take?
      rw [hactive]
    rw [hstart, Prod.mk.injEq]
    simp [eq_comm]

/-- The end of a worker frees the slot when it is its own. -/
theorem active_finish (s : Supervisor) (id : Nat) :
    (s.finish id).slot.active = s.slot.active.filter fun held => held.1 != id := by
  show (s.slot.leave id).active = _
  unfold Slot.leave Slot.isHeldBy
  rcases hactive : s.slot.active with _ | ⟨other, plan⟩
  · simp [hactive]
  · by_cases hid : other = id
    · simp [hid, Option.filter_some]
    · simp [hid, hactive, Option.filter_some]

theorem last_finish (s : Supervisor) (id : Nat) : (s.finish id).slot.last = s.slot.last := by
  show (s.slot.leave id).last = _
  unfold Slot.leave
  split
  · rfl
  · rfl

/-- The end of a worker that does not hold the slot leaves the slot as it is. -/
theorem slot_finish_of_not_held {s : Supervisor} {id : Nat}
    (h : ∀ plan, s.slot.active ≠ some (id, plan)) : (s.finish id).slot = s.slot := by
  show s.slot.leave id = _
  unfold Slot.leave Slot.isHeldBy
  rcases hactive : s.slot.active with _ | ⟨other, plan⟩
  · rfl
  · have hid : other ≠ id := by
      rintro rfl
      exact h plan hactive
    simp [hid]

/-! ### The invariant -/

/-- The history accounts for the state of a supervisor. -/
structure Accounted (history : List Happening) (s : Supervisor) : Prop where
  /-- The numbers are given one after the other. -/
  numbered : given history = List.range' 1 s.slot.last
  alive : ∀ id plan, (id, plan) ∈ s.workers ↔ Alive history id plan
  /-- Only a worker that was started ends. -/
  ended : ∀ id ending, .ended id ending ∈ history → id ∈ given history
  held : ∀ id plan, s.slot.active = some (id, plan) → (id, plan) ∈ s.workers
  /-- The run that holds the slot was started after every reset. -/
  recent : ∀ before after, history = before ++ .reset :: after →
    ∀ id plan, s.slot.active = some (id, plan) → id ∉ given before
  /-- Without a reset there is no worker but that of the slot. -/
  alone : .reset ∉ history → s.workers = s.slot.active.toList

theorem accounted_idle : Accounted [] idle where
  numbered := rfl
  alive := by simp [idle, Alive]
  ended := by simp
  held := by simp [idle, Slot.free]
  recent := by simp
  alone := fun _ => rfl

/-- Where a reset stands in a history that is one step longer. -/
theorem split_reset {history before after : List Happening} {e : Happening}
    (h : history ++ [e] = before ++ .reset :: after) :
    (e = .reset ∧ before = history) ∨ ∃ after', history = before ++ .reset :: after' := by
  rcases List.eq_nil_or_concat after with rfl | ⟨after', e', rfl⟩
  · obtain ⟨rfl, he⟩ := List.append_inj' h rfl
    exact .inl ⟨List.singleton_inj.mp he, rfl⟩
  · right
    rw [List.concat_eq_append, ← List.cons_append, ← List.append_assoc] at h
    exact ⟨after', (List.append_inj' h rfl).1⟩

/-- A number that is not given yet is the next one. -/
theorem Accounted.next_eq {history : List Happening} {s : Supervisor}
    (h : Accounted history s) (hroom : s.slot.last + 1 < Slot.numbers) :
    s.slot.next = s.slot.last + 1 ∧ s.slot.next ∉ given history := by
  have hnext : s.slot.next = s.slot.last + 1 := Nat.mod_eq_of_lt hroom
  refine ⟨hnext, ?_⟩
  rw [h.numbered, hnext, List.mem_range']
  rintro ⟨i, hi, heq⟩
  omega

theorem Accounted.start {history : List Happening} {s s' : Supervisor} {plan : RunPlan}
    {id : Nat} (h : Accounted history s) (hroom : s.slot.last + 1 < Slot.numbers)
    (hstart : s.start plan = (some id, s')) :
    Accounted (history ++ [.started id plan]) s' := by
  obtain ⟨hfree, rfl, rfl⟩ := start_granted_iff.mp hstart
  obtain ⟨hnext, hnew⟩ := h.next_eq hroom
  have hgiven : given (history ++ [.started s.slot.next plan]) =
      given history ++ [s.slot.next] := Happening.given_append _ _
  refine ⟨?_, ?_, ?_, ?_, ?_, ?_⟩
  · show _ = List.range' 1 s.slot.next
    rw [hgiven, h.numbered, hnext, List.range'_concat, Nat.one_mul, Nat.add_comm]
  · intro id' plan'
    rw [List.mem_append, h.alive id' plan', List.mem_singleton, Prod.mk.injEq]
    unfold Alive
    simp only [List.mem_append, List.mem_singleton, Happening.started.injEq, reduceCtorEq,
      or_false]
    constructor
    · rintro (⟨hs, he⟩ | ⟨rfl, rfl⟩)
      · exact ⟨.inl hs, he⟩
      · -- The new number has not ended: nothing of it is in the history.
        exact ⟨.inr ⟨rfl, rfl⟩, fun ending he => hnew (h.ended _ ending he)⟩
    · rintro ⟨hs | hs, he⟩
      · exact .inl ⟨hs, he⟩
      · exact .inr hs
  · intro id' ending he
    rw [List.mem_append, List.mem_singleton] at he
    rcases he with he | he
    · rw [hgiven, List.mem_append]
      exact .inl (h.ended id' ending he)
    · exact absurd he (by simp)
  · intro id' plan' hheld
    rw [List.mem_append, List.mem_singleton]
    exact .inr (Option.some.inj hheld).symm
  · -- The number is new, so it was not given before any reset.
    intro before after hsplit id' plan' hheld
    obtain ⟨rfl, rfl⟩ := Prod.mk.inj (Option.some.inj hheld)
    rcases split_reset hsplit with ⟨he, -⟩ | ⟨after', rfl⟩
    · exact absurd he (by simp)
    · rw [Happening.given_append, List.mem_append] at hnew
      exact fun hmem => hnew (.inl hmem)
  · intro hreset
    rw [List.mem_append] at hreset
    rw [h.alone fun hr => hreset (.inl hr), hfree]
    rfl

theorem Accounted.reject {history : List Happening} {s s' : Supervisor} {plan : RunPlan}
    (h : Accounted history s) (hstart : s.start plan = (none, s')) :
    Accounted (history ++ [.rejected plan]) s' := by
  obtain ⟨-, rfl⟩ := start_rejected_iff.mp hstart
  have hgiven : given (history ++ [.rejected plan]) = given history :=
    Happening.given_snoc_of_none history rfl
  refine ⟨hgiven.trans h.numbered, ?_, ?_, h.held, ?_, ?_⟩
  · intro id plan'
    rw [h.alive id plan']
    simp [Alive]
  · intro id ending he
    rw [hgiven]
    exact h.ended id ending (by simpa using he)
  · intro before after hsplit
    rcases split_reset hsplit with ⟨he, -⟩ | ⟨after', hsplit'⟩
    · exact absurd he (by simp)
    · exact h.recent before after' hsplit'
  · intro hreset
    exact h.alone (by simpa using hreset)

theorem Accounted.reset {history : List Happening} {s : Supervisor} (h : Accounted history s) :
    Accounted (history ++ [.reset]) s.reset := by
  have hgiven : given (history ++ [.reset]) = given history :=
    Happening.given_snoc_of_none history rfl
  refine ⟨hgiven.trans h.numbered, ?_, ?_, ?_, ?_, ?_⟩
  · intro id plan
    show (id, plan) ∈ s.workers ↔ _
    rw [h.alive id plan]
    simp [Alive]
  · intro id ending he
    rw [hgiven]
    exact h.ended id ending (by simpa using he)
  · intro id plan hheld
    exact absurd hheld (by simp [Supervisor.reset, Slot.clear])
  · intro before after _ id plan hheld
    exact absurd hheld (by simp [Supervisor.reset, Slot.clear])
  · intro hreset
    exact absurd (List.mem_append_right history List.mem_cons_self) hreset

theorem Accounted.finish {history : List Happening} {s : Supervisor} {id : Nat}
    {ending : Ending} (h : Accounted history s) (hid : id ∈ s.workers.map Prod.fst) :
    Accounted (history ++ [.ended id ending]) (s.finish id) := by
  have hgiven : given (history ++ [.ended id ending]) = given history :=
    Happening.given_snoc_of_none history rfl
  obtain ⟨⟨id', plan⟩, hworker, rfl⟩ := List.mem_map.mp hid
  have hheld : ∀ {other plan'}, (s.finish id').slot.active = some (other, plan') →
      s.slot.active = some (other, plan') ∧ other ≠ id' := by
    intro other plan' hactive
    rw [active_finish, Option.filter_eq_some_iff] at hactive
    exact ⟨hactive.1, by simpa using hactive.2⟩
  refine ⟨?_, ?_, ?_, ?_, ?_, ?_⟩
  · rw [hgiven, last_finish, h.numbered]
  · intro other plan'
    show (other, plan') ∈ s.workers.filter _ ↔ _
    rw [List.mem_filter, h.alive other plan']
    unfold Alive
    simp only [List.mem_append, List.mem_singleton, Happening.ended.injEq, reduceCtorEq,
      or_false, bne_iff_ne]
    constructor
    · rintro ⟨⟨hs, he⟩, hne⟩
      refine ⟨hs, fun ending' => ?_⟩
      rintro (hmem | ⟨rfl, -⟩)
      · exact he ending' hmem
      · exact hne rfl
    · rintro ⟨hs, he⟩
      refine ⟨⟨hs, fun ending' hmem => he ending' (.inl hmem)⟩, ?_⟩
      rintro rfl
      exact he ending (.inr ⟨rfl, rfl⟩)
  · intro other ending' he
    rw [hgiven]
    rw [List.mem_append, List.mem_singleton, Happening.ended.injEq] at he
    rcases he with he | ⟨rfl, -⟩
    · exact h.ended other ending' he
    · exact Happening.mem_given_of_started ((h.alive _ _).mp hworker).1
  · intro other plan' hactive
    obtain ⟨hactive, hne⟩ := hheld hactive
    refine List.mem_filter.mpr ⟨h.held other plan' hactive, ?_⟩
    simpa using hne
  · intro before after hsplit other plan' hactive
    rcases split_reset hsplit with ⟨he, -⟩ | ⟨after', hsplit'⟩
    · exact absurd he (by simp)
    · exact h.recent before after' hsplit' other plan' (hheld hactive).1
  · -- The one worker there is holds the slot, so its end takes both away.
    intro hreset
    have halone := h.alone (by simpa using hreset)
    show s.workers.filter _ = _
    rw [active_finish, halone]
    rcases s.slot.active with _ | held
    · rfl
    · by_cases hne : held.1 = id'
      · simp [hne, Option.filter_some]
      · simp [hne, Option.filter_some]

/-- The invariant holds in every state that is reached before the numbers are used up. -/
theorem Run.accounted {history : List Happening} {s : Supervisor} (h : Run history s)
    (hroom : (given history).length < Slot.numbers) : Accounted history s := by
  induction h with
  | idle => exact accounted_idle
  | @step history s e s' _ hstep ih =>
    have ih := ih (Nat.lt_of_le_of_lt (Happening.given_step_length history e) hroom)
    cases hstep with
    | @start _ plan id hstart =>
      refine ih.start ?_ hstart
      -- The numbers given so far are as many as the last one says.
      have hgiven : given (history ++ [.started id plan]) = given history ++ [id] :=
        Happening.given_append _ _
      rwa [hgiven, List.length_append, ih.numbered, List.length_range'] at hroom
    | reject hstart => exact ih.reject hstart
    | reset => exact ih.reset
    | finish ending hid => exact ih.finish hid

/-! ### What holds of a supervisor -/

/-- What is promised of a supervisor after a history. -/
structure Sound (history : List Happening) (s : Supervisor) : Prop where
  /-- The run in the slot was started with that plan, and its worker is alive. -/
  held : ∀ id plan, s.slot.active = some (id, plan) → Alive history id plan
  /-- No number is given twice. -/
  numbers : (given history).Nodup
  /-- The workers that the state lists are those that are alive. -/
  workers : ∀ id plan, (id, plan) ∈ s.workers ↔ Alive history id plan
  /-- A start is rejected exactly when the slot is taken. -/
  rejects : ∀ plan, (s.start plan).1 = none ↔ s.slot.active.isSome
  /-- A start that is rejected changes nothing. -/
  rejected : ∀ plan, (s.start plan).1 = none → (s.start plan).2 = s
  /-- The end of a worker that was started before a reset does nothing to the slot. -/
  late : ∀ before after, history = before ++ .reset :: after →
    ∀ id ∈ given before, (s.finish id).slot = s.slot
  /-- Without a reset at most one worker is alive. -/
  single : .reset ∉ history → s.workers.length ≤ 1

theorem Run.sound {history : List Happening} {s : Supervisor} (h : Run history s)
    (hroom : (given history).length < Slot.numbers) : Sound history s := by
  have hinv := h.accounted hroom
  have hrejected : ∀ plan, (s.start plan).1 = none →
      s.slot.active.isSome ∧ (s.start plan).2 = s := by
    intro plan hnone
    exact start_rejected_iff.mp (Prod.ext hnone rfl)
  refine ⟨?_, ?_, hinv.alive, ?_, fun plan hnone => (hrejected plan hnone).2, ?_, ?_⟩
  · intro id plan hheld
    exact (hinv.alive id plan).mp (hinv.held id plan hheld)
  · rw [hinv.numbered]
    exact List.nodup_range'
  · intro plan
    refine ⟨fun hnone => (hrejected plan hnone).1, fun htaken => ?_⟩
    rw [start_rejected_iff.mpr ⟨htaken, rfl⟩]
  · intro before after hsplit id hid
    refine slot_finish_of_not_held fun plan hheld => ?_
    exact hinv.recent before after hsplit id plan hheld hid
  · intro hreset
    rw [hinv.alone hreset]
    rcases s.slot.active with _ | _
    · exact Nat.zero_le 1
    · exact Nat.le_refl 1

/-- A run that outlives a reset and ends while the run after it holds the slot. -/
def lateHistory (plan plan' : RunPlan) : List Happening :=
  [.started 1 plan, .reset, .started 2 plan', .ended 1 .panicked]

theorem Run.late (plan plan' : RunPlan) :
    Run (lateHistory plan plan') ⟨⟨2, some (2, plan')⟩, [(2, plan')]⟩ := by
  have h₁ : Run [.started 1 plan] ⟨⟨1, some (1, plan)⟩, [(1, plan)]⟩ := Run.idle.step (.start rfl)
  have h₂ : Run [.started 1 plan, .reset] ⟨⟨1, none⟩, [(1, plan)]⟩ := h₁.step .reset
  have h₃ : Run [.started 1 plan, .reset, .started 2 plan']
      ⟨⟨2, some (2, plan')⟩, [(1, plan), (2, plan')]⟩ := h₂.step (.start rfl)
  exact h₃.step (.finish .panicked List.mem_cons_self)

theorem sound_late :
    Sound (lateHistory ⟨.once, true, false, "roadmap.md"⟩ ⟨.continuous, false, true, "plan.md"⟩)
      ⟨⟨2, some (2, ⟨.continuous, false, true, "plan.md"⟩)⟩,
        [(2, ⟨.continuous, false, true, "plan.md"⟩)]⟩ :=
  (Run.late _ _).sound (by decide)

end AgentWorkflow.Supervisor
