/-
The moves of a run do what the interpreter does.

* `Machine.Does` — tasks do what an act does, whatever else is to be done after them.
* `Machine.MetAsRun` — what comes of a node is what running it does, with a lemma for each
  kind of node, and `Machine.does_visit` — so it is for the visit to any node.
* `Machine.Moves.unique` — a state has one move at most.
* `Workflow.steps_end`, `Workflow.reaches_end` — the last state of a run is what the interpreter
  and `Workflow.run` answer, and
  `Workflow.Reaches.leads_end` — every other state of the run leads to it.

Design notes: `Machine.Does` composes along `++`, as the acts compose along `>>=`
(`Machine.Does.append`).  So the proof for a node is one move and what its tasks do, by
induction on the node, and within a loop by induction on the passes that are left.
-/
import AgentWorkflow.Proofs.Machine

namespace AgentWorkflow

/-! ### The moves do what the interpreter does -/

namespace Machine

section

variable {session : Session} {registry : Registry}

/-- A state leads to an outcome and a world, with some tasks left. -/
def Leads (session : Session) (registry : Registry) (s : State) (rest : List Task)
    (end' : Outcome Report × World) : Prop :=
  ∃ visits passes, Steps session registry s ⟨carryOn end'.1 rest, end'.1, end'.2, visits, passes⟩

/-- Tasks do what an act does, whatever else is to be done after them. -/
def Does (session : Session) (registry : Registry) (tasks : List Task)
    (act : Report → Act Report) : Prop :=
  ∀ rest report w visits passes,
    Leads session registry ⟨tasks ++ rest, .ok report, w, visits, passes⟩ rest
      ((act report).run w)

theorem Leads.step {s s' : State} {rest : List Task} {end' : Outcome Report × World}
    (hmove : Moves session registry s s') (h : Leads session registry s' rest end') :
    Leads session registry s rest end' := by
  obtain ⟨visits, passes, hsteps⟩ := h
  exact ⟨visits, passes, hsteps.head hmove⟩

theorem Does.nil : Does session registry [] pure :=
  fun _ _ _ visits passes => ⟨visits, passes, .refl⟩

theorem Does.append {tasks tasks' : List Task} {f g : Report → Act Report}
    (hf : Does session registry tasks f) (hg : Does session registry tasks' g) :
    Does session registry (tasks ++ tasks') fun report => f report >>= g := by
  intro rest report w visits passes
  obtain ⟨visits₁, passes₁, hsteps⟩ := hf (tasks' ++ rest) report w visits passes
  rw [List.append_assoc]
  rcases hrun : (f report).run w with ⟨e | report', w'⟩
  · -- After a failure nothing is left to be done.
    rw [hrun] at hsteps
    rw [Act.run_bind_error hrun]
    exact ⟨visits₁, passes₁, hsteps⟩
  · rw [hrun] at hsteps
    rw [Act.run_bind_ok hrun]
    obtain ⟨visits₂, passes₂, hsteps'⟩ := hg rest report' w' visits₁ passes₁
    exact ⟨visits₂, passes₂, hsteps.trans hsteps'⟩

/-- The tasks of nodes do what running the nodes does, if the task of each node does. -/
theorem does_tasksFrom {nodes : List Node}
    (hnodes : ∀ n ∈ nodes, ∀ address,
      Does session registry [.visit address n] (Workflow.runNode session registry n))
    (address : Address) (block : Block) (place : Nat) :
    Does session registry (tasksFrom address block place nodes)
      (Workflow.runNodes session registry nodes) := by
  induction nodes generalizing place with
  | nil => exact Does.nil
  | cons n rest ih =>
    obtain ⟨hn, hrest⟩ := List.forall_mem_cons.mp hnodes
    exact (hn _).append (ih hrest (place + 1))

/-- What is left of a loop after some passes. -/
def restOfLoop (session : Session) (registry : Registry) (loop : Loop) (left : Nat)
    (report : Report) : Act Report := do
  let (met, report) ← Workflow.repeatPasses (Workflow.runNodes session registry loop.body)
    (Workflow.stopsHere loop.head loop.stopOn) left report
  Workflow.finishLoop session loop.head loop.limit met report

theorem does_goRound {loop : Loop}
    (hbody : Does session registry (tasksFrom loop.address .body 0 loop.body)
      (Workflow.runNodes session registry loop.body)) (left : Nat) :
    Does session registry [.goRound loop left] (restOfLoop session registry loop left) := by
  induction left with
  | zero =>
    intro rest report w visits passes
    obtain ⟨report', site, hfinish, -⟩ :=
      Workflow.run_finishLoop session loop.head loop.limit false report w
    rw [show (restOfLoop session registry loop 0 report).run w = _ from hfinish]
    exact ⟨visits, passes, .single (.spent hfinish)⟩
  | succ left ih =>
    intro rest report w visits passes
    obtain ⟨visits₁, passes₁, hpass⟩ :=
      hbody (.look loop left :: rest) report.pass w visits (passes ++ [loop.entry])
    refine Leads.step .pass ?_
    unfold restOfLoop
    rcases hrun : (Workflow.runNodes session registry loop.body report.pass).run w with
      ⟨e | report₁, w₁⟩
    · rw [hrun] at hpass
      rw [Act.run_bind_error (Workflow.run_repeatPasses_error hrun)]
      exact ⟨visits₁, passes₁, hpass⟩
    rw [hrun] at hpass
    have hloop : (Workflow.repeatPasses (Workflow.runNodes session registry loop.body)
        (Workflow.stopsHere loop.head loop.stopOn) (left + 1) report).run w = _ :=
      Workflow.run_repeatPasses_ok hrun
    by_cases hstops : Workflow.stopsHere loop.head loop.stopOn w₁.store = true
    · rw [if_pos hstops] at hloop
      obtain ⟨report', site, hfinish, -⟩ :=
        Workflow.run_finishLoop session loop.head loop.limit true report₁ w₁
      rw [Act.run_bind_ok hloop, hfinish]
      exact ⟨visits₁, passes₁, hpass.tail (.stop hstops hfinish)⟩
    · rw [if_neg hstops] at hloop
      rw [Act.run_bind, hloop, ← Act.run_bind]
      obtain ⟨visits₂, passes₂, hrest⟩ := ih rest report₁ w₁ visits₁ passes₁
      have hagain : Moves session registry
          ⟨.look loop left :: rest, .ok report₁, w₁, visits₁, passes₁⟩
          ⟨.goRound loop left :: rest, .ok report₁, w₁, visits₁, passes₁⟩ :=
        .again (Bool.eq_false_iff.mpr hstops)
      exact ⟨visits₂, passes₂, (hpass.tail hagain).trans hrest⟩

theorem run_runLoop {h : NodeHead} {body : List Node} {report : Report} {w w' : World}
    {own : Nat} (hown : Workflow.loopLimit h w.store w = (own, w')) (address : Address)
    (entry : Nat) :
    (Workflow.runLoop session h (Workflow.runNodes session registry body) report).run w =
      (restOfLoop session registry ⟨address, h, body, Workflow.stopValue h w.store,
        capped session own, entry⟩ (capped session own) report.execute).run w' := by
  have hlimit : (liftM (Workflow.loopLimit h w.store) : Act Nat).run w = (.ok own, w') := by
    rw [Act.run_lift, hown]
  unfold Workflow.runLoop
  rw [Act.run_bind_ok (Act.run_store w), Act.run_bind_ok hlimit]
  rfl

/-- A node is met as it is run: one of the rules applies, and its tasks do what running the
node does from there. -/
def MetAsRun (session : Session) (registry : Registry) (address : Address) (n : Node)
    (entry : Nat) (report : Report) (w : World) : Prop :=
  ∃ fate tasks outcome w', Meets session registry address n entry report w fate tasks outcome w' ∧
    match outcome with
    | .ok report' => ∃ act, Does session registry tasks act ∧
        (Workflow.runNode session registry n report).run w = (act report').run w'
    | .error f => (Workflow.runNode session registry n report).run w = (.error f, w')

theorem Does.visit {address : Address} {n : Node}
    (h : ∀ entry report w, MetAsRun session registry address n entry report w) :
    Does session registry [.visit address n] (Workflow.runNode session registry n) := by
  intro rest report w visits passes
  obtain ⟨fate, tasks, outcome, w', hmeets, hrun⟩ := h visits.length report w
  refine Leads.step (.visit hmeets) ?_
  rcases outcome with f | report'
  · rw [hrun]
    exact ⟨_, _, .refl⟩
  · obtain ⟨act, hact, hrun⟩ := hrun
    rw [hrun]
    exact hact rest report' w' _ _

section

variable {n : Node} {w : World}

theorem metAsRun_loop (hadmitted : Admitted n w.store) (hkind : n.kind = .loop)
    (hbody : ∀ m ∈ n.body, ∀ address,
      Does session registry [.visit address m] (Workflow.runNode session registry m))
    (address : Address) (entry : Nat) (report : Report) :
    MetAsRun session registry address n entry report w := by
  have hrun :=
    Workflow.run_runNode_admitted session registry report hadmitted.enabled hadmitted.met
  rw [hkind] at hrun
  rcases hown : Workflow.loopLimit n.head w.store w with ⟨own, w'⟩
  refine ⟨_, _, _, _, .entered hadmitted hkind hown, _,
    does_goRound (does_tasksFrom hbody address .body 0) _, ?_⟩
  rw [hrun]
  exact run_runLoop hown address entry

theorem metAsRun_branch (hadmitted : Admitted n w.store) (hkind : n.kind = .branch)
    (hthen : ∀ m ∈ n.thenSteps, ∀ address,
      Does session registry [.visit address m] (Workflow.runNode session registry m))
    (helse : ∀ m ∈ n.elseSteps, ∀ address,
      Does session registry [.visit address m] (Workflow.runNode session registry m))
    (address : Address) (entry : Nat) (report : Report) :
    MetAsRun session registry address n entry report w := by
  have hrun :=
    Workflow.run_runNode_admitted session registry report hadmitted.enabled hadmitted.met
  rw [hkind] at hrun
  rcases hdecided : (Workflow.decideBranch n.head).run w with ⟨f | taken, w'⟩
  · refine ⟨_, _, _, _, .undecided hadmitted hkind hdecided, ?_⟩
    rw [hrun]
    exact Act.run_bind_error hdecided
  · refine ⟨_, _, _, _, .decided hadmitted hkind hdecided, ?_⟩
    rw [hrun]
    cases taken with
    | true => exact ⟨_, does_tasksFrom hthen address .thenSteps 0, Act.run_bind_ok hdecided⟩
    | false => exact ⟨_, does_tasksFrom helse address .elseSteps 0, Act.run_bind_ok hdecided⟩

theorem metAsRun_plugin {type : String} (hadmitted : Admitted n w.store)
    (hkind : n.kind = .plugin type) (address : Address) (entry : Nat) (report : Report) :
    MetAsRun session registry address n entry report w := by
  have hrun :=
    Workflow.run_runNode_admitted session registry report hadmitted.enabled hadmitted.met
  rw [hkind] at hrun
  rcases hget : Table.get? registry type with _ | plugin
  · refine ⟨_, _, _, _, .unregistered hadmitted hkind hget, pure, Does.nil, ?_⟩
    rw [hrun]
    exact Workflow.run_runPlugin_none hget n.head report w
  rw [Workflow.run_runPlugin hget] at hrun
  dsimp only at hrun
  rcases hplugin : (plugin session (w.store.resolveInputs n.head.inputs)).run
    (w.called type (w.store.resolveInputs n.head.inputs)) with ⟨f | result, w'⟩
  · rw [hplugin] at hrun
    exact ⟨_, _, _, _, .failed hadmitted hkind hget hplugin, hrun⟩
  · obtain ⟨site, hwrite, -⟩ := Workflow.run_writeResults n.head result.outputs w'
    rw [hplugin] at hrun
    dsimp only at hrun
    rw [hwrite] at hrun
    exact ⟨_, _, _, _, .called hadmitted hkind hget hplugin hwrite, pure, Does.nil, hrun⟩

end

/-- The visit to a node does what running the node does. -/
theorem does_visit (n : Node) :
    ∀ address, Does session registry [.visit address n] (Workflow.runNode session registry n) := by
  induction n using Node.induct with
  | mk h body thenSteps elseSteps hbody hthen helse =>
    intro address
    refine Does.visit fun entry report w => ?_
    by_cases hdisabled : h.disabled = true
    · exact ⟨_, _, _, _, .disabled hdisabled, pure, Does.nil,
        Workflow.run_runNode_skipped (.inl hdisabled)⟩
    have henabled : h.disabled = false := Bool.eq_false_iff.mpr hdisabled
    by_cases hmet : Workflow.admits h w.store = false
    · exact ⟨_, _, _, _, .unmet henabled hmet, pure, Does.nil,
        Workflow.run_runNode_skipped (.inr hmet)⟩
    have hadmitted : Admitted (.mk h body thenSteps elseSteps) w.store :=
      ⟨henabled, Bool.of_not_eq_false hmet⟩
    -- The nodes below it are met as they are run, by induction.
    rcases hkind : h.kind with _ | _ | type
    · exact metAsRun_loop hadmitted hkind hbody address entry report
    · exact metAsRun_branch hadmitted hkind hthen helse address entry report
    · exact metAsRun_plugin hadmitted hkind address entry report

end

/-! ### A run is one row of states -/

section

variable {session : Session} {registry : Registry}

theorem Meets.unique {address : Address} {n : Node} {entry : Nat} {report : Report}
    {w w₁ w₂ : World} {fate₁ fate₂ : Fate} {tasks₁ tasks₂ : List Task}
    {outcome₁ outcome₂ : Outcome Report}
    (h₁ : Meets session registry address n entry report w fate₁ tasks₁ outcome₁ w₁)
    (h₂ : Meets session registry address n entry report w fate₂ tasks₂ outcome₂ w₂) :
    fate₁ = fate₂ ∧ tasks₁ = tasks₂ ∧ outcome₁ = outcome₂ ∧ w₁ = w₂ := by
  -- Two different rules do not apply together, and what a rule reads it reads once.
  cases h₁ <;> cases h₂ <;> grind [Admitted]

/-- A state has one move at most. -/
theorem Moves.unique {s s₁ s₂ : State} (h₁ : Moves session registry s s₁)
    (h₂ : Moves session registry s s₂) : s₁ = s₂ := by
  cases h₁ with
  | visit h₁ =>
    cases h₂ with
    | visit h₂ =>
      obtain ⟨rfl, rfl, rfl, rfl⟩ := h₁.unique h₂
      rfl
  | pass =>
    cases h₂ with
    | pass => rfl
  | spent h₁ =>
    cases h₂ with
    | spent h₂ =>
      rw [h₁] at h₂
      cases h₂
      rfl
  | stop hstops₁ h₁ =>
    cases h₂ with
    | stop hstops₂ h₂ =>
      rw [h₁] at h₂
      cases h₂
      rfl
    | again hstops₂ =>
      rw [hstops₁] at hstops₂
      cases hstops₂
  | again hstops₁ =>
    cases h₂ with
    | stop hstops₂ h₂ =>
      rw [hstops₁] at hstops₂
      cases hstops₂
    | again hstops₂ => rfl

/-- From a state in which nothing is left to be done there is no move. -/
theorem Steps.eq_of_agenda {s s' : State} (h : Steps session registry s s')
    (hagenda : s.agenda = []) : s = s' := by
  rcases h.cases_head with heq | ⟨next, hmove, -⟩
  · exact heq
  · cases hmove <;> simp at hagenda

/-- Every state on the way leads to the last one. -/
theorem Steps.leads_last {start s last : State} (h : Steps session registry start s)
    (hlast : Steps session registry start last) (hagenda : last.agenda = []) :
    Steps session registry s last := by
  -- The states form one row, and nothing comes after the last one.
  have hunique : Relator.RightUnique (Moves session registry) := fun _ _ _ => Moves.unique
  rcases Relation.ReflTransGen.total_of_right_unique hunique h hlast with hsteps | hsteps
  · exact hsteps
  · rw [Steps.eq_of_agenda hsteps hagenda]

end

end Machine

namespace Workflow

open Machine

theorem run_run (session : Session) (registry : Registry) (w : Workflow) (world : World) :
    (run session registry w).run world =
      (runNodes session registry w.nodes Report.start).run (w.opened registry world) := by
  unfold run
  rw [Act.run_bind_ok (Act.run_lift _ world), Act.run_bind_ok (Act.run_setStore _ _)]
  rfl

/-- The nodes of a workflow come to a state in which nothing is left to be done, and there it is
what running them answers. -/
theorem steps_end (session : Session) (registry : Registry) (w : Workflow) (v : World) :
    ∃ s, Steps session registry (w.startIn v) s ∧ s.agenda = [] ∧
      (s.outcome, s.world) = (runNodes session registry w.nodes Report.start).run v := by
  have hdoes : Does session registry (tasksFrom [] .top 0 w.nodes)
      (runNodes session registry w.nodes) :=
    does_tasksFrom (fun n _ => does_visit n) [] .top 0
  obtain ⟨visits, passes, hsteps⟩ := hdoes [] Report.start v [] []
  rw [List.append_nil] at hsteps
  refine ⟨_, hsteps, ?_, rfl⟩
  unfold carryOn
  split
  · rfl
  · rfl

/-- A run comes to a state in which nothing is left to be done, and there it is what running
the workflow answers. -/
theorem reaches_end (session : Session) (registry : Registry) (w : Workflow) (world : World) :
    ∃ s, w.Reaches session registry world s ∧ s.agenda = [] ∧
      (s.outcome, s.world) = (run session registry w).run world := by
  rw [run_run]
  exact steps_end session registry w (w.opened registry world)

/-- Whatever state a run comes through, it leads to the last state of the run. -/
theorem Reaches.leads_last {session : Session} {registry : Registry} {w : Workflow}
    {world : World} {s last : Machine.State} (h : w.Reaches session registry world s)
    (hlast : w.Reaches session registry world last) (hagenda : last.agenda = []) :
    Steps session registry s last :=
  Steps.leads_last h hlast hagenda

/-- Whatever state a run comes through, it leads to the end that running the workflow answers. -/
theorem Reaches.leads_end {session : Session} {registry : Registry} {w : Workflow}
    {world : World} {s : Machine.State} (h : w.Reaches session registry world s) :
    ∃ s', Steps session registry s s' ∧ s'.agenda = [] ∧
      (s'.outcome, s'.world) = (run session registry w).run world := by
  obtain ⟨last, hlast, hagenda, hrun⟩ := reaches_end session registry w world
  exact ⟨last, h.leads_last hlast hagenda, hagenda, hrun⟩

end Workflow

end AgentWorkflow
