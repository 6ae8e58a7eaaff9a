/-
Reports that add up.

* `a ++ b` — the report of what was run first and of what was run then.
* `Workflow.Adds` — an act takes no notice of the report that it goes on from, and adds to it.
* `Workflow.adds_runNodes` — nodes do.

Design notes: the interpreter hands the report from node to node and only ever counts on.  So a
run from some report is the run from the first one with the report put in front, and what nodes do
can be said once for all reports (`Workflow.run_runNodes_eq`).
-/
import AgentWorkflow.Proofs.PluginNode

namespace AgentWorkflow

/-! ### Counting on -/

namespace Report

/-- A report of what was run first and a report of what was run then. -/
instance : Append Report := ⟨fun a b =>
  ⟨a.executed + b.executed, a.skipped + b.skipped, a.unresolved ++ b.unresolved,
    a.loopPasses + b.loopPasses, a.exhaustedLoops + b.exhaustedLoops⟩⟩

/-- The report of some passes and nothing else. -/
def passes (k : Nat) : Report := ⟨0, 0, [], k, 0⟩

theorem append_start (r : Report) : r ++ start = r := by
  obtain ⟨executed, skipped, unresolved, loopPasses, exhaustedLoops⟩ := r
  exact congrArg (fun types => Report.mk executed skipped types loopPasses exhaustedLoops)
    (List.append_nil unresolved)

theorem passes_append (k : Nat) (r : Report) :
    passes k ++ r = { r with loopPasses := r.loopPasses + k } := by
  have h : passes k ++ r =
      ⟨0 + r.executed, 0 + r.skipped, r.unresolved, k + r.loopPasses, 0 + r.exhaustedLoops⟩ := rfl
  rw [h]
  simp only [Nat.zero_add, Nat.add_comm k]

theorem pass_eq (r : Report) : r.pass = passes 1 ++ r := (passes_append 1 r).symm

theorem execute_eq (r : Report) : r.execute = start.execute ++ r := by
  have h : start.execute ++ r =
      ⟨1 + r.executed, 0 + r.skipped, r.unresolved, 0 + r.loopPasses, 0 + r.exhaustedLoops⟩ := rfl
  rw [h]
  simp only [Nat.zero_add, Nat.add_comm 1]
  rfl

theorem passes_succ_append (k : Nat) (r : Report) :
    passes (k + 1) ++ r = passes k ++ (passes 1 ++ r) := by
  simp only [passes_append, Nat.add_assoc, Nat.add_comm 1 k]

end Report

namespace Workflow

/-- An act takes no notice of the report that it goes on from, and adds to it. -/
def Adds (act : Report → Act Report) : Prop :=
  ∀ a b w, (act (a ++ b)).run w = (((act b).run w).1.map (a ++ ·), ((act b).run w).2)

namespace Adds

theorem run_ok {act : Report → Act Report} (h : Adds act) {b r : Report} {w v : World}
    (hrun : (act b).run w = (.ok r, v)) (a : Report) :
    (act (a ++ b)).run w = (.ok (a ++ r), v) := by
  rw [h, hrun]
  rfl

theorem run_error {act : Report → Act Report} (h : Adds act) {b : Report} {f : Failure}
    {w v : World} (hrun : (act b).run w = (.error f, v)) (a : Report) :
    (act (a ++ b)).run w = (.error f, v) := by
  rw [h, hrun]
  rfl

theorem of_pure {f : Report → Report} (hf : ∀ a b, f (a ++ b) = a ++ f b) :
    Adds fun r => pure (f r) := by
  intro a b w
  exact congrArg (fun r => (Except.ok r, w)) (hf a b)

theorem comp {act : Report → Act Report} {f : Report → Report} (h : Adds act)
    (hf : ∀ a b, f (a ++ b) = a ++ f b) : Adds fun r => act (f r) := by
  intro a b w
  have hstart : (act (f (a ++ b))).run w = (act (a ++ f b)).run w := by rw [hf]
  exact hstart.trans (h a (f b) w)

theorem bind {f g : Report → Act Report} (hf : Adds f) (hg : Adds g) :
    Adds fun r => f r >>= g := by
  intro a b w
  rcases hrun : (f b).run w with ⟨e | r, v⟩
  · rw [Act.run_bind_error hrun, Act.run_bind_error (hf.run_error hrun a)]
    rfl
  · rw [Act.run_bind_ok hrun, Act.run_bind_ok (hf.run_ok hrun a)]
    exact hg a r v

/-- What comes before may be an act without a report. -/
theorem after {α : Type} (act : Act α) {f : α → Report → Act Report} (h : ∀ x, Adds (f x)) :
    Adds fun r => act >>= fun x => f x r := by
  intro a b w
  rcases hrun : act.run w with ⟨e | x, v⟩
  · rw [Act.run_bind_error hrun, Act.run_bind_error hrun]
    rfl
  · rw [Act.run_bind_ok hrun, Act.run_bind_ok hrun]
    exact h x a b v

theorem ite {c : Prop} [Decidable c] {f g : Report → Act Report} (hf : Adds f) (hg : Adds g) :
    Adds fun r => if c then f r else g r := by
  by_cases hc : c
  · simpa only [if_pos hc] using hf
  · simpa only [if_neg hc] using hg

/-- The passes of a loop and what comes after them. -/
theorem passes {pass : Report → Act Report} (hpass : Adds pass) (stops : Store → Bool)
    {finish : Bool → Report → Act Report} (hfinish : ∀ met, Adds (finish met)) (limit : Nat) :
    Adds fun r => repeatPasses pass stops limit r >>= fun met => finish met.1 met.2 := by
  induction limit with
  | zero =>
    have hnone : (fun r => repeatPasses pass stops 0 r >>= fun met => finish met.1 met.2) =
        finish false := by
      funext r
      simp only [repeatPasses, pure_bind]
    rw [hnone]
    exact hfinish false
  | succ limit ih =>
    have hsome : (fun r => repeatPasses pass stops (limit + 1) r >>= fun met =>
        finish met.1 met.2) = fun r => pass r.pass >>= fun r => Act.store >>= fun s =>
          if stops s then finish true r
          else repeatPasses pass stops limit r >>= fun met => finish met.1 met.2 := by
      funext r
      simp only [repeatPasses, bind_assoc]
      congr 1
      funext r
      congr 1
      funext s
      split
      · simp only [pure_bind]
      · rfl
    rw [hsome]
    exact (hpass.comp fun _ _ => rfl).bind (after Act.store fun s => (hfinish true).ite ih)

end Adds

section

variable {session : Session} {registry : Registry}

theorem adds_finishLoop (session : Session) (h : NodeHead) (limit : Nat) (met : Bool) :
    Adds (finishLoop session h limit met) :=
  (Adds.after _ fun _ => Adds.of_pure fun _ _ => rfl).ite (Adds.of_pure fun _ _ => rfl)

theorem adds_runLoop (session : Session) (h : NodeHead) {pass : Report → Act Report}
    (hpass : Adds pass) : Adds (runLoop session h pass) := by
  refine Adds.after Act.store fun s => Adds.after _ fun own => ?_
  have hpasses := hpass.passes (stopsHere h (stopValue h s))
    (adds_finishLoop session h (if session.flags.once then min own 1 else own))
    (if session.flags.once then min own 1 else own)
  exact hpasses.comp fun _ _ => rfl

theorem append_unresolve (a b : Report) (type : String) :
    (a ++ b).unresolve type = a ++ b.unresolve type :=
  congrArg (fun types => Report.mk (a.executed + b.executed) (a.skipped + b.skipped) types
    (a.loopPasses + b.loopPasses) (a.exhaustedLoops + b.exhaustedLoops))
    (List.append_assoc a.unresolved b.unresolved [type])

theorem adds_runPlugin (h : NodeHead) (type : String) :
    Adds (runPlugin session registry h type) := by
  intro a b w
  rcases hget : Table.get? registry type with _ | plugin
  · rw [run_runPlugin_none hget, run_runPlugin_none hget, append_unresolve]
    rfl
  · rw [run_runPlugin hget, run_runPlugin hget]
    dsimp only
    rcases (plugin session (w.store.resolveInputs h.inputs)).run
      (w.called type (w.store.resolveInputs h.inputs)) with ⟨f | result, v⟩
    · rfl
    · rfl

theorem adds_runNodes_of {nodes : List Node}
    (hnodes : ∀ n ∈ nodes, Adds (runNode session registry n)) :
    Adds (runNodes session registry nodes) := by
  induction nodes with
  | nil => exact Adds.of_pure fun _ _ => rfl
  | cons n rest ih =>
    obtain ⟨hn, hrest⟩ := List.forall_mem_cons.mp hnodes
    exact hn.bind (ih hrest)

theorem adds_runNode (n : Node) : Adds (runNode session registry n) := by
  induction n using Node.induct with
  | mk h body thenSteps elseSteps hbody hthen helse =>
    have hskip : Adds fun report : Report => (pure report.skip : Act Report) :=
      Adds.of_pure fun _ _ => rfl
    refine hskip.ite (Adds.after Act.store fun s => hskip.ite ?_)
    rcases h.kind with _ | _ | type
    · exact adds_runLoop session h (adds_runNodes_of hbody)
    · refine Adds.after _ fun taken => ?_
      have harms := (adds_runNodes_of hthen).ite (c := taken = true) (adds_runNodes_of helse)
      exact harms.comp fun _ _ => rfl
    · exact adds_runPlugin h type

/-- Nodes take no notice of the report that they go on from, and add to it. -/
theorem adds_runNodes (nodes : List Node) : Adds (runNodes session registry nodes) :=
  adds_runNodes_of fun n _ => adds_runNode n

/-- Whether nodes fail, and where they lead, does not depend on the report. -/
theorem run_runNodes_eq (nodes : List Node) (report : Report) (w : World) :
    (runNodes session registry nodes report).run w =
      (((runNodes session registry nodes Report.start).run w).1.map (report ++ ·),
        ((runNodes session registry nodes Report.start).run w).2) := by
  have h : (runNodes session registry nodes (report ++ Report.start)).run w = _ :=
    adds_runNodes nodes report Report.start w
  rwa [Report.append_start] at h

end

end Workflow

end AgentWorkflow
