/-
Runs without the nodes that are disabled.

* `Workflow.enabledPart` — a workflow without its disabled nodes, at whatever depth, and what is
  below them; `Workflow.erases`, the nodes that are left out.
* `Machine.Steps.erases_eq` — of these a run comes to those alone that are disabled themselves.
* `Registry.Respects` — worlds that nodes and plugins do not tell apart: a world and itself, and
  where plugins do not read notes (`Plugin.IgnoresNotes`) those that differ in their notes alone.
* `Machine.Moves.prune` — each move of a run is none, or one move, of the run without the disabled
  nodes; `Machine.Steps.prune`, any number of moves.
* `Workflow.endAlike_enabledPart` — both runs come to like ends.

Design notes: the nodes that are left stand at other addresses, so the states of the two runs are
related and not the same (`Machine.Prunes`).  The run of a workflow starts with notes of what is
wrong with its nodes, the disabled ones included; apart from these notes the two runs leave the same
world.
-/
import AgentWorkflow.Proofs.FailFast
import AgentWorkflow.Proofs.UnreadNotes
import Mathlib.Data.List.Infix

namespace AgentWorkflow

open Machine

/-! ### Nodes that are disabled -/

namespace Node

mutual

/-- A node without the nodes below it that are disabled. -/
def enabledPart : Node → Node
  | .mk h body thenSteps elseSteps =>
    .mk h (enabledNodes body) (enabledNodes thenSteps) (enabledNodes elseSteps)

/-- The nodes of a list that are not disabled, without those below them that are. -/
def enabledNodes : List Node → List Node
  | [] => []
  | n :: rest =>
    if n.head.disabled then enabledNodes rest else enabledPart n :: enabledNodes rest

end

@[simp] theorem head_enabledPart (n : Node) : n.enabledPart.head = n.head := by
  cases n
  rfl

end Node

namespace Workflow

/-- A workflow without its disabled nodes, at whatever depth, and what is below them. -/
def enabledPart (w : Workflow) : Workflow := { w with nodes := Node.enabledNodes w.nodes }

/-- Whether the node at an address is disabled. -/
def disabledAt (w : Workflow) (address : Address) : Bool :=
  (w.nodeAt? address).any fun n => n.head.disabled

/-- Whether the node at an address is disabled or stands below a disabled one. -/
def erases (w : Workflow) (address : Address) : Bool := address.inits.any w.disabledAt

theorem disabledAt_of_nodeAt? {w : Workflow} {address : Address} {n : Node}
    (hn : w.nodeAt? address = some n) : w.disabledAt address = n.head.disabled := by
  unfold disabledAt
  rw [hn]
  rfl

theorem erases_append (w : Workflow) (address : Address) (place : Block × Nat) :
    w.erases (address ++ [place]) = (w.erases address || w.disabledAt (address ++ [place])) := by
  unfold erases
  rw [List.inits_append, List.any_append]
  simp

end Workflow

/-! ### A run comes to no node below a disabled one -/

namespace Machine

section

variable {session : Session} {registry : Registry} {w : Workflow}

/-- A task is not about a node below a disabled one. -/
def Task.Open (w : Workflow) : Task → Prop
  | .visit address _ => w.erases address = w.disabledAt address
  | .goRound loop _ | .look loop _ => w.erases loop.address = false

/-- Tasks and visits are not about nodes below disabled ones. -/
structure State.Open (w : Workflow) (s : State) : Prop where
  tasks : ∀ t ∈ s.agenda, t.Open w
  visits : ∀ v ∈ s.visits, w.erases v.address = v.head.disabled

theorem open_tasksFrom {address : Address} (h : w.erases address = false) (block : Block)
    (place : Nat) (nodes : List Node) : ∀ t ∈ tasksFrom address block place nodes, t.Open w := by
  induction nodes generalizing place with
  | nil => exact fun t ht => absurd ht List.not_mem_nil
  | cons n rest ih =>
    refine List.forall_mem_cons.mpr ⟨?_, ih (place + 1)⟩
    show w.erases (address ++ [(block, place)]) = w.disabledAt (address ++ [(block, place)])
    rw [Workflow.erases_append, h, Bool.false_or]

theorem open_startIn (w : Workflow) (v : World) : (w.startIn v).Open w :=
  ⟨open_tasksFrom rfl .top 0 w.nodes, fun _ hv => absurd hv List.not_mem_nil⟩

theorem Meets.forall_open {address : Address} {n : Node} {entry : Nat} {report : Report}
    {v v' : World} {fate : Fate} {tasks : List Task} {outcome : Outcome Report}
    (h : Meets session registry address n entry report v fate tasks outcome v')
    (hn : w.erases address = n.head.disabled) : ∀ t ∈ tasks, t.Open w := by
  cases h with
  | entered hadmitted =>
    exact List.forall_mem_singleton.mpr (hn.trans hadmitted.enabled)
  | decided hadmitted =>
    split
    · exact open_tasksFrom (hn.trans hadmitted.enabled) .thenSteps 0 _
    · exact open_tasksFrom (hn.trans hadmitted.enabled) .elseSteps 0 _
  | disabled | unmet | undecided | unregistered | called | failed =>
    exact fun t ht => absurd ht List.not_mem_nil

theorem Moves.keeps_open {s s' : State} (h : Moves session registry s s') (hplaced : s.Placed w)
    (hs : s.Open w) : s'.Open w := by
  cases h with
  | @visit address n rest _ _ _ _ _ tasks _ _ h =>
    obtain ⟨hopen, hrest⟩ := List.forall_mem_cons.mp hs.tasks
    have hn : w.erases address = n.head.disabled :=
      hopen.trans (Workflow.disabledAt_of_nodeAt? (hplaced.tasks _ List.mem_cons_self))
    refine ⟨fun t ht => ?_, List.forall_mem_append.mpr ⟨hs.visits, ?_⟩⟩
    · rcases List.mem_append.mp (mem_of_mem_carryOn ht) with ht | ht
      · exact h.forall_open hn t ht
      · exact hrest t ht
    · exact List.forall_mem_singleton.mpr hn
  | @pass loop left rest =>
    -- The nodes of the body stand right below the loop.
    obtain ⟨hloop, hrest⟩ := List.forall_mem_cons.mp hs.tasks
    refine ⟨List.forall_mem_append.mpr ⟨open_tasksFrom hloop .body 0 _, ?_⟩, hs.visits⟩
    exact List.forall_mem_cons.mpr ⟨hloop, hrest⟩
  | spent => exact ⟨(List.forall_mem_cons.mp hs.tasks).2, hs.visits⟩
  | stop => exact ⟨(List.forall_mem_cons.mp hs.tasks).2, hs.visits⟩
  | again =>
    obtain ⟨hloop, hrest⟩ := List.forall_mem_cons.mp hs.tasks
    exact ⟨List.forall_mem_cons.mpr ⟨hloop, hrest⟩, hs.visits⟩

/-- Of the nodes that are erased a run comes to those alone that are disabled themselves. -/
theorem Steps.erases_eq {v : World} {s : State} (h : Steps session registry (w.startIn v) s) :
    ∀ visit ∈ s.visits, w.erases visit.address = visit.head.disabled := by
  have hopen : s.Placed w ∧ s.Open w := by
    induction h with
    | refl => exact ⟨placed_startIn w v, open_startIn w v⟩
    | tail _ hmove ih => exact ⟨hmove.placed ih.1, hmove.keeps_open ih.1 ih.2⟩
  exact hopen.2.visits

end

end Machine

/-! ### Worlds that nodes do not tell apart -/

/-- Nodes, and the plugins of a registry, do not tell related worlds apart: they do the same in
both, and related worlds are left. -/
structure Registry.Respects (session : Session) (registry : Registry)
    (R : World → World → Prop) : Prop where
  store : ∀ {v w}, R v w → v.store = w.store
  noting : ∀ {v w}, R v w → ∀ notes store,
    R ⟨v.site.noting notes, store, v.record⟩ ⟨w.site.noting notes, store, w.record⟩
  plugins : ∀ type plugin, Table.get? registry type = some plugin → ∀ inputs v w, R v w →
    ((plugin session inputs).run (v.called type inputs)).1 =
      ((plugin session inputs).run (w.called type inputs)).1 ∧
    R ((plugin session inputs).run (v.called type inputs)).2
      ((plugin session inputs).run (w.called type inputs)).2

theorem Registry.respects_eq (session : Session) (registry : Registry) :
    registry.Respects session Eq where
  store h := congrArg World.store h
  noting h _ _ := by rw [h]
  plugins _ _ _ _ _ _ h := by
    rw [h]
    exact ⟨rfl, rfl⟩

namespace Registry.Respects

variable {session : Session} {registry : Registry} {R : World → World → Prop} {v w : World}

theorem put (h : registry.Respects session R) (hvw : R v w) (store : Store) :
    R { v with store } { w with store } := by
  have hnoting := h.noting hvw [] store
  rwa [Site.noting_nil, Site.noting_nil] at hnoting

theorem note (h : registry.Respects session R) (hvw : R v w) (notes : List Note) :
    R ⟨v.site.noting notes, v.store, v.record⟩ ⟨w.site.noting notes, w.store, w.record⟩ := by
  have hnoting := h.noting hvw notes v.store
  rwa [h.store hvw] at hnoting ⊢

theorem called (h : registry.Respects session R) (hvw : R v w) {type : String} {plugin : Plugin}
    (hget : Table.get? registry type = some plugin) {inputs : Inputs} {answer : Outcome Json}
    {v' : World} (hrun : (plugin session inputs).run (v.called type inputs) = (answer, v')) :
    ∃ w', (plugin session inputs).run (w.called type inputs) = (answer, w') ∧ R v' w' := by
  obtain ⟨hanswer, hleft⟩ := h.plugins type plugin hget inputs v w hvw
  rw [hrun] at hanswer hleft
  exact ⟨((plugin session inputs).run (w.called type inputs)).2, Prod.ext hanswer.symm rfl, hleft⟩

end Registry.Respects

/-! ### The run without the disabled nodes -/

/-- The report with more nodes that were passed over. -/
def Report.skipMore (k : Nat) (r : Report) : Report := { r with skipped := k + r.skipped }

theorem Report.skip_skipMore (k : Nat) (r : Report) :
    (r.skipMore k).skip = r.skipMore (k + 1) :=
  congrArg (fun skipped => { r with skipped }) (Nat.add_right_comm k r.skipped 1)

namespace Machine

/-- A loop without the disabled nodes of its body. -/
structure Loop.Prunes (loop loop' : Loop) : Prop where
  head : loop'.head = loop.head
  body : loop'.body = Node.enabledNodes loop.body
  stopOn : loop'.stopOn = loop.stopOn
  limit : loop'.limit = loop.limit

/-- Tasks without those about disabled nodes. -/
inductive PrunesTasks : List Task → List Task → Prop
  | nil : PrunesTasks [] []
  | drop {address n rest rest'} (hdisabled : n.head.disabled = true)
      (hrest : PrunesTasks rest rest') : PrunesTasks (.visit address n :: rest) rest'
  | visit {address address' n rest rest'} (henabled : n.head.disabled = false)
      (hrest : PrunesTasks rest rest') :
    PrunesTasks (.visit address n :: rest) (.visit address' n.enabledPart :: rest')
  | goRound {loop loop' left rest rest'} (hloop : loop.Prunes loop')
      (hrest : PrunesTasks rest rest') :
    PrunesTasks (.goRound loop left :: rest) (.goRound loop' left :: rest')
  | look {loop loop' left rest rest'} (hloop : loop.Prunes loop')
      (hrest : PrunesTasks rest rest') :
    PrunesTasks (.look loop left :: rest) (.look loop' left :: rest')

theorem PrunesTasks.append {tasks tasks' rest rest' : List Task} (h : PrunesTasks tasks tasks')
    (hrest : PrunesTasks rest rest') : PrunesTasks (tasks ++ rest) (tasks' ++ rest') := by
  induction h with
  | nil => exact hrest
  | drop hdisabled _ ih => exact .drop hdisabled ih
  | visit henabled _ ih => exact .visit henabled ih
  | goRound hloop _ ih => exact .goRound hloop ih
  | look hloop _ ih => exact .look hloop ih

theorem prunesTasks_tasksFrom (address address' : Address) (block block' : Block)
    (place place' : Nat) (nodes : List Node) :
    PrunesTasks (tasksFrom address block place nodes)
      (tasksFrom address' block' place' (Node.enabledNodes nodes)) := by
  induction nodes generalizing place place' with
  | nil => exact .nil
  | cons n rest ih =>
    unfold Node.enabledNodes
    by_cases hdisabled : n.head.disabled = true
    · rw [if_pos hdisabled]
      exact .drop hdisabled (ih _ _)
    · rw [if_neg hdisabled]
      exact .visit (Bool.eq_false_iff.mpr hdisabled) (ih _ _)

theorem PrunesTasks.carryOn {tasks tasks' : List Task} {outcome : Outcome Report} {k : Nat}
    (h : PrunesTasks tasks tasks') :
    PrunesTasks (carryOn (outcome.map (Report.skipMore k)) tasks) (carryOn outcome tasks') := by
  cases outcome with
  | ok _ => exact h
  | error _ => exact .nil

section

variable {session : Session} {registry : Registry} {R : World → World → Prop}

/-- What becomes of a node that is not disabled becomes of it without its disabled nodes. -/
theorem Meets.prune {address : Address} {n : Node} {entry : Nat} {k : Nat} {report : Report}
    {v v' w : World} {fate : Fate} {tasks : List Task} {outcome : Outcome Report}
    (h : Meets session registry address n entry (report.skipMore k) v fate tasks outcome v')
    (henabled : n.head.disabled = false) (hR : registry.Respects session R) (hvw : R v w)
    (address' : Address) (entry' : Nat) :
    ∃ tasks' outcome' w',
      Meets session registry address' n.enabledPart entry' report w fate tasks' outcome' w' ∧
      PrunesTasks tasks tasks' ∧ outcome = outcome'.map (Report.skipMore k) ∧ R v' w' := by
  -- What becomes of a node is read off the store, and the two worlds have one store.
  have hstore := hR.store hvw
  obtain ⟨site, store, record⟩ := v
  obtain ⟨site', store', record'⟩ := w
  obtain rfl : store = store' := hstore
  obtain ⟨head, body, thenSteps, elseSteps⟩ := n
  have hwhole : Admitted (.mk head body thenSteps elseSteps) store →
      Admitted (Node.enabledPart (.mk head body thenSteps elseSteps)) store :=
    fun hadmitted => ⟨hadmitted.enabled, hadmitted.met⟩
  cases h with
  | disabled hdisabled =>
    rw [henabled] at hdisabled
    cases hdisabled
  | unmet _ hunmet => exact ⟨_, _, _, .unmet henabled hunmet, .nil, rfl, hvw⟩
  | entered hadmitted hkind hown =>
    obtain ⟨notes, -, hlimit⟩ := Workflow.loopLimit_noted head store
    have heq := hown.symm.trans (hlimit _)
    cases heq
    exact ⟨_, _, _, .entered (hwhole hadmitted) hkind (hlimit _),
      .goRound ⟨rfl, rfl, rfl, rfl⟩ .nil, rfl, hR.note hvw notes⟩
  | @decided taken _ hadmitted hkind hdecided =>
    obtain ⟨harm, rfl⟩ := Workflow.decideBranch_ok hdecided
    have hdecided' := Workflow.run_decideBranch_ok (w := ⟨site', store, record'⟩) harm
    refine ⟨_, _, _, .decided (hwhole hadmitted) hkind hdecided', ?_, rfl, hR.put hvw _⟩
    cases taken with
    | true => exact prunesTasks_tasksFrom address address' .thenSteps .thenSteps 0 0 thenSteps
    | false => exact prunesTasks_tasksFrom address address' .elseSteps .elseSteps 0 0 elseSteps
  | undecided hadmitted hkind hdecided =>
    obtain ⟨rfl, g, harm, rfl⟩ := Workflow.decideBranch_error hdecided
    have hdecided' := Workflow.run_decideBranch_error (w := ⟨site', store, record'⟩) harm
    exact ⟨_, _, _, .undecided (hwhole hadmitted) hkind hdecided', .nil, rfl, hvw⟩
  | @unregistered type hadmitted hkind hget =>
    exact ⟨_, _, _, .unregistered (hwhole hadmitted) hkind hget, .nil, rfl,
      hR.note hvw [Workflow.unregisteredNote head type]⟩
  | @called type plugin result left _ hadmitted hkind hget hrun hwrite =>
    obtain ⟨left', hrun', hleft⟩ := hR.called hvw hget hrun
    rw [Workflow.run_writeResults_noted] at hwrite
    cases hwrite
    refine ⟨_, _, _, .called (hwhole hadmitted) hkind hget hrun'
      (Workflow.run_writeResults_noted _ _ _), .nil, rfl, ?_⟩
    have hwritten := hR.noting hleft
      (Workflow.resultNotes head left.store result.outputs).reduceOption
      (left.store.put head.label (head.entries result.outputs))
    rw [hR.store hleft] at hwritten ⊢
    exact hwritten
  | @failed type plugin f _ hadmitted hkind hget hrun =>
    obtain ⟨left', hrun', hleft⟩ := hR.called hvw hget hrun
    exact ⟨_, _, _, .failed (hwhole hadmitted) hkind hget hrun', .nil, rfl, hleft⟩

/-- A disabled node is passed over. -/
theorem Meets.eq_of_disabled {address : Address} {n : Node} {entry : Nat} {report : Report}
    {v v' : World} {fate : Fate} {tasks : List Task} {outcome : Outcome Report}
    (h : Meets session registry address n entry report v fate tasks outcome v')
    (hdisabled : n.head.disabled = true) :
    fate = .disabled ∧ tasks = [] ∧ outcome = .ok report.skip ∧ v' = v := by
  have hnone : n.head.disabled = false → False := fun h => by simp [hdisabled] at h
  cases h with
  | disabled => exact ⟨rfl, rfl, rfl, rfl⟩
  | unmet henabled => exact (hnone henabled).elim
  | entered hadmitted | decided hadmitted | undecided hadmitted | unregistered hadmitted
  | called hadmitted | failed hadmitted => exact (hnone hadmitted.enabled).elim

/-- How many visits are to disabled nodes. -/
def passedOver (visits : List Visit) : Nat := visits.countP fun v => v.head.disabled

theorem passedOver_append (visits : List Visit) (v : Visit) :
    passedOver (visits ++ [v]) = passedOver visits + if v.head.disabled then 1 else 0 := by
  unfold passedOver
  rw [List.countP_append, List.countP_singleton]

/-- A state of a run, and the state of the run without the disabled nodes. -/
structure Prunes (R : World → World → Prop) (s s' : State) : Prop where
  tasks : PrunesTasks s.agenda s'.agenda
  outcome : s.outcome = s'.outcome.map (Report.skipMore (passedOver s.visits))
  world : R s.world s'.world
  calls : s.calls = s'.calls

/-- What is known of the other state while nothing has failed. -/
theorem Prunes.of_ok {agenda : List Task} {report : Report} {v : World} {visits : List Visit}
    {passes : List Nat} {s' : State} (h : Prunes R ⟨agenda, .ok report, v, visits, passes⟩ s') :
    ∃ agenda' report' w visits' passes', s' = ⟨agenda', .ok report', w, visits', passes'⟩ ∧
      report = report'.skipMore (passedOver visits) ∧ PrunesTasks agenda agenda' ∧ R v w ∧
      visits.filterMap Visit.call? = visits'.filterMap Visit.call? := by
  obtain ⟨agenda', outcome', w, visits', passes'⟩ := s'
  obtain ⟨htasks, houtcome, hworld, hcalls⟩ := h
  rcases outcome' with f | report'
  · cases houtcome
  · exact ⟨agenda', report', w, visits', passes', rfl, Except.ok.inj houtcome, htasks, hworld,
      hcalls⟩

theorem finishLoop_prune (hR : registry.Respects session R) {head : NodeHead} {limit : Nat}
    {met : Bool} {k : Nat} {report report' : Report} {v v' w : World} (hvw : R v w)
    (h : (Workflow.finishLoop session head limit met (report.skipMore k)).run v =
      (.ok report', v')) :
    ∃ report'' w', (Workflow.finishLoop session head limit met report).run w = (.ok report'', w') ∧
      report' = report''.skipMore k ∧ R v' w' := by
  obtain ⟨exhausted, notes, hrun⟩ := Workflow.finishLoop_noted session head limit met
  rw [hrun] at h
  cases h
  refine ⟨_, _, hrun report w, ?_, hR.note hvw notes⟩
  cases exhausted with
  | true => rfl
  | false => rfl

/-- Each move is none, or one move, of the run without the disabled nodes. -/
theorem Moves.prune {s t s' : State} (h : Moves session registry s t)
    (hR : registry.Respects session R) (hs : Prunes R s s') :
    Prunes R t s' ∨ ∃ t', Moves session registry s' t' ∧ Prunes R t t' := by
  cases h with
  | @visit address n rest report v visits passes fate tasks outcome v' h =>
    obtain ⟨agenda', report', w, visits', passes', rfl, rfl, htasks, hworld, hcalls⟩ := hs.of_ok
    cases htasks with
    | drop hdisabled hrest =>
      -- The visit to a disabled node is counted and is no move of the other run.
      obtain ⟨rfl, rfl, rfl, rfl⟩ := h.eq_of_disabled hdisabled
      refine .inl ⟨hrest, ?_, hworld, ?_⟩
      · dsimp only
        rw [passedOver_append, if_pos hdisabled, Report.skip_skipMore]
        rfl
      · show (visits ++ [_]).filterMap Visit.call? = _
        rw [List.filterMap_append]
        exact (List.append_nil _).trans hcalls
    | @visit _ address' _ _ rest' henabled hrest =>
      obtain ⟨tasks', outcome', w', hmeets, htasks, rfl, hworld'⟩ :=
        h.prune henabled hR hworld address' visits'.length
      refine .inr ⟨_, .visit hmeets, (htasks.append hrest).carryOn, ?_, hworld', ?_⟩
      · dsimp only
        rw [passedOver_append, if_neg (by simp [henabled])]
        rfl
      · show (visits ++ [_]).filterMap Visit.call? = (visits' ++ [_]).filterMap Visit.call?
        rw [List.filterMap_append, List.filterMap_append, hcalls, ← hR.store hworld,
          Node.head_enabledPart]
        rfl
  | pass =>
    obtain ⟨_, report', w, visits', passes', rfl, rfl, htasks, hworld, hcalls⟩ := hs.of_ok
    cases htasks with
    | @goRound loop loop' _ _ rest' hloop hrest =>
      refine .inr ⟨_, .pass, ?_, rfl, hworld, hcalls⟩
      refine .append ?_ (.look hloop hrest)
      rw [hloop.body]
      exact prunesTasks_tasksFrom _ _ _ _ _ _ _
  | spent h =>
    obtain ⟨_, report', w, visits', passes', rfl, rfl, htasks, hworld, hcalls⟩ := hs.of_ok
    cases htasks with
    | @goRound loop loop' _ _ rest' hloop hrest =>
      rw [← hloop.head, ← hloop.limit] at h
      obtain ⟨report'', w', hfinish, rfl, hworld'⟩ := finishLoop_prune hR hworld h
      exact .inr ⟨_, .spent hfinish, hrest, rfl, hworld', hcalls⟩
  | stop hstops h =>
    obtain ⟨_, report', w, visits', passes', rfl, rfl, htasks, hworld, hcalls⟩ := hs.of_ok
    cases htasks with
    | @look loop loop' _ _ rest' hloop hrest =>
      rw [← hloop.head, ← hloop.limit] at h
      rw [← hloop.head, ← hloop.stopOn, hR.store hworld] at hstops
      obtain ⟨report'', w', hfinish, rfl, hworld'⟩ := finishLoop_prune hR hworld h
      exact .inr ⟨_, .stop hstops hfinish, hrest, rfl, hworld', hcalls⟩
  | again hstops =>
    obtain ⟨_, report', w, visits', passes', rfl, rfl, htasks, hworld, hcalls⟩ := hs.of_ok
    cases htasks with
    | @look loop loop' _ _ rest' hloop hrest =>
      rw [← hloop.head, ← hloop.stopOn, hR.store hworld] at hstops
      exact .inr ⟨_, .again hstops, .goRound hloop hrest, rfl, hworld, hcalls⟩

theorem Steps.prune {s t s' : State} (h : Steps session registry s t)
    (hR : registry.Respects session R) (hs : Prunes R s s') :
    ∃ t', Steps session registry s' t' ∧ Prunes R t t' := by
  induction h with
  | refl => exact ⟨s', .refl, hs⟩
  | tail _ hmove ih =>
    obtain ⟨t', hsteps, ht⟩ := ih
    rcases hmove.prune hR ht with ht | ⟨next, hmove', ht⟩
    · exact ⟨t', hsteps, ht⟩
    · exact ⟨next, hsteps.tail hmove', ht⟩

end

end Machine

/-! ### Worlds that differ in their notes -/

theorem Registry.respects_apartInNotes {session : Session} {registry : Registry}
    (h : registry.IgnoresNotes session) : registry.Respects session World.ApartInNotes where
  store h := h.store
  noting h notes store := h.noting notes notes store
  plugins type plugin hget inputs _ _ hvw :=
    h type plugin hget inputs _ _ ⟨hvw.site, hvw.store, congrArg (· ++ _) hvw.record⟩

namespace Workflow

theorem opened_apartInNotes (registry : Registry) (w w' : Workflow) (world : World) :
    (w.opened registry world).ApartInNotes (w'.opened registry world) := by
  obtain ⟨notes, hnotes⟩ := noteIssues_noted registry w
  obtain ⟨notes', hnotes'⟩ := noteIssues_noted registry w'
  unfold opened
  rw [hnotes, hnotes']
  exact ⟨rfl, rfl, rfl⟩

/-! ### Runs to the end -/

/-- The last state of the nodes of a workflow that are run in a world. -/
structure EndsIn (session : Session) (registry : Registry) (w : Workflow) (v : World)
    (s : Machine.State) : Prop where
  steps : Steps session registry (w.startIn v) s
  agenda : s.agenda = []
  run : (s.outcome, s.world) = (runNodes session registry w.nodes Report.start).run v

/-- The last state of the nodes of a workflow, and the last state without the disabled ones: the
plugins were called alike, and the outcomes are the same but that in the former the visits to the
nodes that are erased were counted as passed over. -/
structure EndAlike (w : Workflow) (s s' : Machine.State) : Prop where
  calls : s.calls = s'.calls
  outcome : s.outcome = s'.outcome.map
    (Report.skipMore (s.visits.countP fun v => w.erases v.address))

section

variable {session : Session} {registry : Registry} {R : World → World → Prop} {w : Workflow}

theorem EndsIn.unique {v : World} {s s' : Machine.State} (h : w.EndsIn session registry v s)
    (hsteps : Steps session registry (w.startIn v) s') (hagenda : s'.agenda = []) : s' = s :=
  Steps.eq_of_agenda (Steps.leads_last hsteps h.steps h.agenda) hagenda

theorem exists_endsIn (session : Session) (registry : Registry) (w : Workflow) (v : World) :
    ∃ s, w.EndsIn session registry v s := by
  obtain ⟨s, hsteps, hagenda, hrun⟩ := steps_end session registry w v
  exact ⟨s, hsteps, hagenda, hrun⟩

/-- In worlds that are not told apart, the nodes of a workflow and those that are left without the
disabled ones come to like ends. -/
theorem exists_endAlike (hR : registry.Respects session R) (w : Workflow) {v v' : World}
    (hvv' : R v v') :
    ∃ s s', w.EndsIn session registry v s ∧ w.enabledPart.EndsIn session registry v' s' ∧
      w.EndAlike s s' ∧ R s.world s'.world := by
  obtain ⟨s, hs⟩ := exists_endsIn session registry w v
  obtain ⟨s', hs'⟩ := exists_endsIn session registry w.enabledPart v'
  have hstart : Prunes R (w.startIn v) (w.enabledPart.startIn v') :=
    ⟨prunesTasks_tasksFrom _ _ _ _ _ _ _, rfl, hvv', rfl⟩
  obtain ⟨last, hsteps, hprunes⟩ := Steps.prune hs.steps hR hstart
  -- The state that the other run has come to has no tasks either, so it is its last one.
  have hagenda : last.agenda = [] := by
    have htasks := hprunes.tasks
    rw [hs.agenda] at htasks
    generalize last.agenda = tasks at htasks
    cases htasks
    rfl
  obtain rfl := hs'.unique hsteps hagenda
  refine ⟨s, last, hs, hs', ⟨hprunes.calls, ?_⟩, hprunes.world⟩
  have hcount : (s.visits.countP fun v => w.erases v.address) = passedOver s.visits :=
    List.countP_congr fun v hv => by rw [hs.steps.erases_eq v hv]
  rw [hcount]
  exact hprunes.outcome

end

/-- Without the disabled nodes the nodes of a workflow do the same in any world.  So does a run of
the workflow, which takes notes of its nodes first, with plugins that do not read notes; and with
the session of a project the plugins that there are do not, under whatever names. -/
theorem endAlike_enabledPart (session : Session) (registry : Registry) (w : Workflow) :
    (∀ v, ∃ s s', w.EndsIn session registry v s ∧ w.enabledPart.EndsIn session registry v s' ∧
      w.EndAlike s s' ∧ s.world = s'.world) ∧
    (registry.IgnoresNotes session →
      ∀ world, ∃ s s', w.Reaches session registry world s ∧
        (s.outcome, s.world) = (run session registry w).run world ∧
        w.enabledPart.Reaches session registry world s' ∧
        (s'.outcome, s'.world) = (run session registry w.enabledPart).run world ∧
        w.EndAlike s s' ∧ s.world.ApartInNotes s'.world) ∧
    ∀ (p : Project) flags value? site site',
      (p.session flags value? Console.confirm).run site = (.ok session, site') →
        ∀ names, (Registry.ofNames names).IgnoresNotes session := by
  refine ⟨fun v => exists_endAlike (registry.respects_eq session) w rfl, fun hignore world => ?_,
    fun p flags value? site site' hsession names => ?_⟩
  · obtain ⟨s, s', hs, hs', halike, hapart⟩ := exists_endAlike
      (Registry.respects_apartInNotes hignore) w
      (opened_apartInNotes registry w w.enabledPart world)
    refine ⟨s, s', hs.steps, ?_, hs'.steps, ?_, halike, hapart⟩
    · rw [run_run]
      exact hs.run
    · rw [run_run]
      exact hs'.run
  · have hasks := Project.ignoresNotes_session hsession Console.agrees_confirm
    exact Registry.ignoresNotes_ofNames hasks names

/-- A loop that goes round twice with a disabled node in its body, and a branch that takes an arm
with a disabled loop and a disabled node, in a project without settings: four visits are to nodes
that are erased. -/
theorem endAlike_enabledPart_nested :
    let negate (disabled : Bool) : Node :=
      .mk { type := "utils.not", disabled := disabled } [] [] []
    let loop (disabled : Bool) : Node :=
      .mk { type := "loop", disabled := disabled, maxIterations := some (Json.nat 2) }
        [negate true, negate false] [] []
    let branch : Node := .mk { type := "branch", inputs := [("value", .bool true)] }
      [] [loop true, negate true] [negate false]
    let w : Workflow := ⟨none, [loop false, branch, negate false]⟩
    let p : Project := ⟨"/", Config.standard⟩
    let values : Table String := [("GITHUB_REPOSITORY", "owner/name"), ("GITHUB_TOKEN", "t")]
    let registry := Registry.ofNames Registry.standardNames
    let world : World := ⟨Site.ofDisk default, Store.empty, []⟩
    ∃ session site',
      (p.session ⟨false, false, false⟩ (Table.get? values) Console.confirm).run world.site =
        (.ok session, site') ∧
      registry.IgnoresNotes session ∧
      ((run session registry w).run world).1.toOption = some ⟨5, 4, [], 2, 0⟩ ∧
      ((run session registry w.enabledPart).run world).1.toOption = some ⟨5, 0, [], 2, 0⟩ ∧
      ∃ s s', w.Reaches session registry world s ∧
        (s.outcome, s.world) = (run session registry w).run world ∧
        w.enabledPart.Reaches session registry world s' ∧
        (s'.outcome, s'.world) = (run session registry w.enabledPart).run world ∧
        w.EndAlike s s' ∧ s.world.ApartInNotes s'.world := by
  intro negate loop branch w p values registry world
  have hreports : ((p.session ⟨false, false, false⟩ (Table.get? values) Console.confirm).run
      world.site).1.toOption.map (fun session =>
        (((run session registry w).run world).1.toOption,
          ((run session registry w.enabledPart).run world).1.toOption)) =
      some (some ⟨5, 4, [], 2, 0⟩, some ⟨5, 0, [], 2, 0⟩) := by
    decide +kernel
  rcases hsession : (p.session ⟨false, false, false⟩ (Table.get? values) Console.confirm).run
    world.site with ⟨f | session, site'⟩
  · rw [hsession] at hreports
    cases hreports
  · rw [hsession] at hreports
    obtain ⟨hwhole, hpart⟩ := Prod.mk.inj (Option.some.inj hreports)
    obtain ⟨-, hruns, hplugins⟩ := endAlike_enabledPart session registry w
    have hignore : registry.IgnoresNotes session := hplugins p _ _ _ _ hsession _
    exact ⟨session, site', rfl, hignore, hwhole, hpart, hruns hignore world⟩

end Workflow

end AgentWorkflow
