/-
Runs of workflows, move by move.

* `Visit` — a run came to a node; `Fate`, what became of the node there.
* `Machine.State` — what is still to be done, and how the run stands.
* `Machine.Meets`, `Machine.Moves` — the moves of a run.  `Meets` has a rule for each fate
  of a node, `Moves` one for visits and one for each turn of a loop.
* `Workflow.Reaches` — the states that a run of a workflow comes through, and
  `Workflow.Reaches.invariant` — induction along the moves.
* `Workflow.Reaches.placed` — a run comes to the nodes of its workflow alone.

Design notes: the interpreter recurses on the nodes, so it has no states between two
nodes to speak of.  Here the nodes still to be run are a list of tasks, so that a prefix
of a run is a state, and what holds of every prefix is an invariant of the moves.  The
rules use what the interpreter uses to look at a single node, and say on their own in
which order nodes and passes follow each other.
-/
import AgentWorkflow.Proofs.Address
import AgentWorkflow.Proofs.PluginNode
import Mathlib.Logic.Relation

namespace AgentWorkflow

/-! ### Visits -/

/-- What became of a node that a run came to. -/
inductive Fate where
  | disabled
  /-- Its condition did not hold. -/
  | unmet
  /-- No plugin stands for its type. -/
  | unregistered
  /-- A loop was entered, to go round at most so often. -/
  | entered (limit : Nat)
  /-- A branch was decided. -/
  | decided (taken : Bool)
  /-- A branch could not be decided. -/
  | undecided (f : Failure)
  /-- Its plugin was called and answered. -/
  | called (result : Json)
  /-- Its plugin was called and failed. -/
  | failed (f : Failure)

/-- A run came to a node. -/
structure Visit where
  address : Address
  head : NodeHead
  /-- The store that the run came with. -/
  found : Store
  fate : Fate

/-- What a run has written where it came to a node. -/
def Visit.writes (v : Visit) : List (String × Json) :=
  match v.fate with
  | .called result => v.head.entries result.outputs
  | .decided taken => v.head.outputKey.toList.map fun key => (key, .bool taken)
  | .disabled | .unmet | .unregistered | .entered _ | .undecided _ | .failed _ => []

namespace Machine

/-! ### States -/

/-- A loop that is being gone round. -/
structure Loop where
  address : Address
  head : NodeHead
  body : List Node
  stopOn : Bool
  limit : Nat
  /-- The number of the visit that entered the loop. -/
  entry : Nat

inductive Task where
  | visit (address : Address) (n : Node)
  /-- To go round a loop, at most so often. -/
  | goRound (loop : Loop) (left : Nat)
  /-- To look, after a pass, whether a loop stops. -/
  | look (loop : Loop) (left : Nat)

/-- The visits to the nodes of a block from a number on. -/
def tasksFrom (address : Address) (block : Block) (place : Nat) : List Node → List Task
  | [] => []
  | n :: rest =>
    .visit (address ++ [(block, place)]) n :: tasksFrom address block (place + 1) rest

structure State where
  /-- What is still to be done, the next task first. -/
  agenda : List Task
  /-- The report so far, or the failure that the run ended with. -/
  outcome : Outcome Report
  world : World
  /-- The visits so far, the first one first. -/
  visits : List Visit
  /-- The passes so far: of each one, the number of the visit that entered its loop. -/
  passes : List Nat

/-- What is left to be done after an outcome: nothing when it is a failure. -/
def carryOn (outcome : Outcome Report) (agenda : List Task) : List Task :=
  match outcome with
  | .ok _ => agenda
  | .error _ => []

/-! ### Moves -/

/-- The limit that a run goes by: one at most when loops are gone round once. -/
def capped (session : Session) (limit : Nat) : Nat :=
  if session.flags.once then min limit 1 else limit

/-- A node is run unless it is disabled or its condition does not hold. -/
structure Admitted (n : Node) (store : Store) : Prop where
  enabled : n.head.disabled = false
  met : Workflow.admits n.head store = true

section

variable (session : Session) (registry : Registry)

/-- What becomes of a node that a run comes to: its fate, what is to be done next, and how
the run stands then.  `entry` is the number of the visit. -/
inductive Meets (address : Address) (n : Node) (entry : Nat) (report : Report) (w : World) :
    Fate → List Task → Outcome Report → World → Prop
  | disabled (hdisabled : n.head.disabled = true) :
    Meets address n entry report w .disabled [] (.ok report.skip) w
  | unmet (henabled : n.head.disabled = false)
      (hunmet : Workflow.admits n.head w.store = false) :
    Meets address n entry report w .unmet [] (.ok report.skip) w
  /-- The limit of a loop and the value it stops on are read when it is entered. -/
  | entered {own : Nat} {w' : World} (hadmitted : Admitted n w.store) (hkind : n.kind = .loop)
      (hown : Workflow.loopLimit n.head w.store w = (own, w')) :
    Meets address n entry report w (.entered (capped session own))
      [.goRound ⟨address, n.head, n.body, Workflow.stopValue n.head w.store,
        capped session own, entry⟩ (capped session own)]
      (.ok report.execute) w'
  | decided {taken : Bool} {w' : World} (hadmitted : Admitted n w.store)
      (hkind : n.kind = .branch)
      (hdecided : (Workflow.decideBranch n.head).run w = (.ok taken, w')) :
    Meets address n entry report w (.decided taken)
      (if taken then tasksFrom address .thenSteps 0 n.thenSteps
        else tasksFrom address .elseSteps 0 n.elseSteps)
      (.ok report.execute) w'
  | undecided {f : Failure} {w' : World} (hadmitted : Admitted n w.store)
      (hkind : n.kind = .branch)
      (hdecided : (Workflow.decideBranch n.head).run w = (.error f, w')) :
    Meets address n entry report w (.undecided f) [] (.error f) w'
  | unregistered {type : String} (hadmitted : Admitted n w.store)
      (hkind : n.kind = .plugin type) (hget : Table.get? registry type = none) :
    Meets address n entry report w .unregistered [] (.ok (report.unresolve type))
      (Step.note (Workflow.unregisteredNote n.head type) w).2
  | called {type : String} {plugin : Plugin} {result : Json} {w' w'' : World}
      (hadmitted : Admitted n w.store) (hkind : n.kind = .plugin type)
      (hget : Table.get? registry type = some plugin)
      (hrun : (plugin session (w.store.resolveInputs n.head.inputs)).run
        (w.called type (w.store.resolveInputs n.head.inputs)) = (.ok result, w'))
      (hwrite : (Workflow.writeResults n.head result.outputs).run w' = (.ok (), w'')) :
    Meets address n entry report w (.called result) [] (.ok report.execute) w''
  | failed {type : String} {plugin : Plugin} {f : Failure} {w' : World}
      (hadmitted : Admitted n w.store) (hkind : n.kind = .plugin type)
      (hget : Table.get? registry type = some plugin)
      (hrun : (plugin session (w.store.resolveInputs n.head.inputs)).run
        (w.called type (w.store.resolveInputs n.head.inputs)) = (.error f, w')) :
    Meets address n entry report w (.failed f) []
      (.error (f.within (Workflow.nodeFrame n.head.label type))) w'

/-- The moves of a run. -/
inductive Moves : State → State → Prop
  | visit {address n rest report w visits passes fate tasks outcome w'}
      (h : Meets session registry address n visits.length report w fate tasks outcome w') :
    Moves ⟨.visit address n :: rest, .ok report, w, visits, passes⟩
      ⟨carryOn outcome (tasks ++ rest), outcome, w', visits ++ [⟨address, n.head, w.store, fate⟩],
        passes⟩
  | pass {loop left rest report w visits passes} :
    Moves ⟨.goRound loop (left + 1) :: rest, .ok report, w, visits, passes⟩
      ⟨tasksFrom loop.address .body 0 loop.body ++ .look loop left :: rest, .ok report.pass, w,
        visits, passes ++ [loop.entry]⟩
  | spent {loop rest report w visits passes report' w'}
      (h : (Workflow.finishLoop session loop.head loop.limit false report).run w =
        (.ok report', w')) :
    Moves ⟨.goRound loop 0 :: rest, .ok report, w, visits, passes⟩
      ⟨rest, .ok report', w', visits, passes⟩
  | stop {loop left rest report w visits passes report' w'}
      (hstops : Workflow.stopsHere loop.head loop.stopOn w.store = true)
      (h : (Workflow.finishLoop session loop.head loop.limit true report).run w =
        (.ok report', w')) :
    Moves ⟨.look loop left :: rest, .ok report, w, visits, passes⟩
      ⟨rest, .ok report', w', visits, passes⟩
  | again {loop left rest report w visits passes}
      (hstops : Workflow.stopsHere loop.head loop.stopOn w.store = false) :
    Moves ⟨.look loop left :: rest, .ok report, w, visits, passes⟩
      ⟨.goRound loop left :: rest, .ok report, w, visits, passes⟩

/-- What a visit does: a plugin may be called, and then the node writes what it has to write.
At the site no more is done than the plugin does, but for notes. -/
theorem Meets.effect {session : Session} {registry : Registry} {address : Address} {n : Node}
    {entry : Nat} {report : Report} {w w' : World} {fate : Fate} {tasks : List Task}
    {outcome : Outcome Report}
    (h : Meets session registry address n entry report w fate tasks outcome w') :
    ∃ v : World,
      (v = w ∨ ∃ type plugin inputs, n.kind = .plugin type ∧
        Table.get? registry type = some plugin ∧
        v = ((plugin session inputs).run (w.called type inputs)).2) ∧
      w'.store = v.store.put n.head.label (Visit.writes ⟨address, n.head, w.store, fate⟩) ∧
      w'.record = v.record ∧ v.site.Noted w'.site := by
  cases h with
  | disabled | unmet => exact ⟨w, .inl rfl, rfl, rfl, .refl _⟩
  | unregistered => exact ⟨w, .inl rfl, rfl, rfl, _, rfl⟩
  | entered _ _ hown =>
    -- A limit that is of no use is noted at the site, not on the record.
    obtain ⟨site, hlimit, -, hnoted⟩ := Workflow.loopLimit_eq n.head w.store w
    rw [hlimit] at hown
    cases hown
    exact ⟨w, .inl rfl, rfl, rfl, hnoted⟩
  | decided _ _ hdecided =>
    obtain ⟨-, rfl⟩ := Workflow.decideBranch_ok hdecided
    exact ⟨w, .inl rfl, rfl, rfl, .refl _⟩
  | undecided _ _ hdecided =>
    obtain ⟨rfl, -⟩ := Workflow.decideBranch_error hdecided
    exact ⟨w', .inl rfl, rfl, rfl, .refl _⟩
  | @called type plugin result v _ _ hkind hget hrun hwrite =>
    obtain ⟨site, hwrites, hnoted⟩ := Workflow.run_writeResults n.head result.outputs v
    rw [hwrites] at hwrite
    cases hwrite
    exact ⟨v, .inr ⟨type, plugin, _, hkind, hget, by rw [hrun]⟩, rfl, rfl, hnoted⟩
  | @failed type plugin _ _ _ hkind hget hrun =>
    exact ⟨w', .inr ⟨type, plugin, _, hkind, hget, by rw [hrun]⟩, rfl, rfl, .refl _⟩

/-- From a state to another one a loop was turned: no node was visited, and of the report
nothing but the passes and the loops that ran out of them has changed. -/
structure State.Turned (s s' : State) : Prop where
  visits : s'.visits = s.visits
  store : s'.world.store = s.world.store
  record : s'.world.record = s.world.record
  report : ∃ report report', s.outcome = .ok report ∧ s'.outcome = .ok report' ∧
    report'.unresolved = report.unresolved ∧
    report'.loopPasses + s.passes.length = report.loopPasses + s'.passes.length

theorem State.Turned.finish {session : Session} {head : NodeHead} {limit : Nat} {met : Bool}
    {report report' : Report} {w w' : World}
    (h : (Workflow.finishLoop session head limit met report).run w = (.ok report', w'))
    (agenda agenda' : List Task) (visits : List Visit) (passes : List Nat) :
    State.Turned ⟨agenda, .ok report, w, visits, passes⟩
      ⟨agenda', .ok report', w', visits, passes⟩ := by
  obtain ⟨report'', site, hrun, hreport, -⟩ :=
    Workflow.run_finishLoop session head limit met report w
  rw [hrun] at h
  cases h
  refine ⟨rfl, rfl, rfl, report, report', rfl, rfl, ?_⟩
  rcases hreport with rfl | rfl
  · exact ⟨rfl, rfl⟩
  · exact ⟨rfl, rfl⟩

/-- A move is a visit to a node that was to be visited, or a turn of a loop. -/
theorem Moves.visit_or_turn {session : Session} {registry : Registry} {s s' : State}
    (h : Moves session registry s s') :
    (∃ address n report fate tasks, .visit address n ∈ s.agenda ∧ s.outcome = .ok report ∧
      Meets session registry address n s.visits.length report s.world fate tasks s'.outcome
        s'.world ∧
      s'.visits = s.visits ++ [⟨address, n.head, s.world.store, fate⟩] ∧
      s'.passes = s.passes) ∨
    s.Turned s' := by
  cases h with
  | visit h => exact .inl ⟨_, _, _, _, _, List.mem_cons_self, rfl, h, rfl, rfl⟩
  | @pass loop _ _ report _ _ passes =>
    refine .inr ⟨rfl, rfl, rfl, report, report.pass, rfl, rfl, rfl, ?_⟩
    show report.loopPasses + 1 + passes.length = report.loopPasses + (passes ++ [_]).length
    rw [List.length_append, List.length_singleton]
    omega
  | again => exact .inr ⟨rfl, rfl, rfl, _, _, rfl, rfl, rfl, rfl⟩
  | spent h | stop _ h => exact .inr (State.Turned.finish h _ _ _ _)

/-- At the site a move does what the plugin does that it calls, if it calls one, and takes
notes. -/
theorem Moves.site {session : Session} {registry : Registry} {s s' : State}
    (h : Moves session registry s s') :
    ∃ v : World,
      (v = s.world ∨ ∃ address n type plugin inputs, .visit address n ∈ s.agenda ∧
        n.kind = .plugin type ∧ Table.get? registry type = some plugin ∧
        v = ((plugin session inputs).run (s.world.called type inputs)).2) ∧
      v.site.Noted s'.world.site := by
  cases h with
  | visit h =>
    obtain ⟨v, hv, -, -, hnoted⟩ := h.effect
    refine ⟨v, hv.imp_right ?_, hnoted⟩
    rintro ⟨type, plugin, inputs, hcalled⟩
    exact ⟨_, _, type, plugin, inputs, List.mem_cons_self, hcalled⟩
  | pass | again => exact ⟨_, .inl rfl, .refl _⟩
  | spent h | stop _ h =>
    obtain ⟨report', site, hrun, -, hnoted⟩ := Workflow.run_finishLoop session _ _ _ _ _
    rw [hrun] at h
    cases h
    exact ⟨_, .inl rfl, hnoted⟩

/-- Any number of moves. -/
abbrev Steps : State → State → Prop := Relation.ReflTransGen (Moves session registry)

end

end Machine

namespace Workflow

open Machine

/-- The world that the first node of a workflow is run in. -/
def opened (registry : Registry) (w : Workflow) (world : World) : World :=
  { (noteIssues registry w world).2 with store := Store.empty }

/-- The nodes of a workflow in a world, before anything is done. -/
def startIn (w : Workflow) (v : World) : Machine.State :=
  ⟨tasksFrom [] .top 0 w.nodes, .ok Report.start, v, [], []⟩

/-- A workflow of which nothing is done yet. -/
def initial (registry : Registry) (w : Workflow) (world : World) : Machine.State :=
  ⟨tasksFrom [] .top 0 w.nodes, .ok Report.start, w.opened registry world, [], []⟩

/-- A run of a workflow comes through a state. -/
def Reaches (session : Session) (registry : Registry) (w : Workflow) (world : World)
    (s : Machine.State) : Prop :=
  Steps session registry (w.initial registry world) s

/-- What the first state has and every move of a run keeps, every state of the run has. -/
theorem Reaches.invariant {session : Session} {registry : Registry} {w : Workflow}
    {world : World} {I : Machine.State → Prop} (hinitial : I (w.initial registry world))
    (hmoves : ∀ s s', w.Reaches session registry world s → Moves session registry s s' →
      I s → I s')
    {s : Machine.State} (h : w.Reaches session registry world s) : I s := by
  induction h with
  | refl => exact hinitial
  | tail hreaches hmove ih => exact hmoves _ _ hreaches hmove ih

end Workflow

/-! ### Where tasks and visits stand -/

namespace Machine

variable {session : Session} {registry : Registry} {w : Workflow} {world : World}

/-- A task is about a node of a workflow. -/
def Task.Placed (w : Workflow) : Task → Prop
  | .visit address n => w.nodeAt? address = some n
  | .goRound loop _ | .look loop _ =>
    ∃ n, w.nodeAt? loop.address = some n ∧ n.head = loop.head ∧ n.body = loop.body

/-- Tasks and visits are about nodes of a workflow. -/
structure State.Placed (w : Workflow) (s : State) : Prop where
  tasks : ∀ t ∈ s.agenda, t.Placed w
  visits : ∀ v ∈ s.visits, ∃ n, w.nodeAt? v.address = some n ∧ n.head = v.head

theorem mem_of_mem_carryOn {outcome : Outcome Report} {agenda : List Task} {t : Task}
    (h : t ∈ carryOn outcome agenda) : t ∈ agenda := by
  cases outcome with
  | ok _ => exact h
  | error _ => exact absurd h List.not_mem_nil

theorem placed_tasksFrom {address : Address} {block : Block} {place : Nat} {nodes : List Node}
    (h : ∀ i, w.nodeAt? (address ++ [(block, place + i)]) = nodes[i]?) :
    ∀ t ∈ tasksFrom address block place nodes, t.Placed w := by
  induction nodes generalizing place with
  | nil => exact fun t ht => absurd ht List.not_mem_nil
  | cons n rest ih =>
    have hrest : ∀ i, w.nodeAt? (address ++ [(block, place + 1 + i)]) = rest[i]? := by
      intro i
      have hi := h (i + 1)
      rw [show place + (i + 1) = place + 1 + i by omega] at hi
      simpa using hi
    exact List.forall_mem_cons.mpr ⟨h 0, ih hrest⟩

theorem placed_block {address : Address} {n : Node} (h : w.nodeAt? address = some n)
    (block : Block) : ∀ t ∈ tasksFrom address block 0 (n.block block), t.Placed w := by
  refine placed_tasksFrom fun i => ?_
  rw [Nat.zero_add]
  exact Workflow.nodeAt?_append h block i

/-- What is to be done after a visit to a node of a workflow is about its nodes. -/
theorem Meets.placed {address : Address} {n : Node} {entry : Nat} {report : Report}
    {v v' : World} {fate : Fate} {tasks : List Task} {outcome : Outcome Report}
    (h : Meets session registry address n entry report v fate tasks outcome v')
    (hn : w.nodeAt? address = some n) : ∀ t ∈ tasks, t.Placed w := by
  cases h with
  | entered => exact List.forall_mem_singleton.mpr ⟨n, hn, rfl, rfl⟩
  | decided =>
    split
    · exact placed_block hn .thenSteps
    · exact placed_block hn .elseSteps
  | disabled | unmet | undecided | unregistered | called | failed =>
    exact fun t ht => absurd ht List.not_mem_nil

theorem Moves.placed {s s' : State} (h : Moves session registry s s') (hs : s.Placed w) :
    s'.Placed w := by
  cases h with
  | @visit address n rest _ _ _ _ _ tasks _ _ h =>
    obtain ⟨hn, hrest⟩ := List.forall_mem_cons.mp hs.tasks
    refine ⟨fun t ht => ?_, fun v hv => ?_⟩
    · rcases List.mem_append.mp (mem_of_mem_carryOn ht) with ht | ht
      · exact h.placed hn t ht
      · exact hrest t ht
    · rcases List.mem_append.mp hv with hv | hv
      · exact hs.visits v hv
      · rw [List.mem_singleton.mp hv]
        exact ⟨n, hn, rfl⟩
  | @pass loop left rest =>
    obtain ⟨hloop, hrest⟩ := List.forall_mem_cons.mp hs.tasks
    obtain ⟨n, hn, hhead, hbody⟩ := hloop
    refine ⟨fun t ht => ?_, hs.visits⟩
    -- The body that is gone round is the block of the node at the address of the loop.
    rcases List.mem_append.mp ht with ht | ht
    · rw [← hbody] at ht
      exact placed_block hn .body t ht
    · rcases List.mem_cons.mp ht with rfl | ht
      · exact ⟨n, hn, hhead, hbody⟩
      · exact hrest t ht
  | spent => exact ⟨(List.forall_mem_cons.mp hs.tasks).2, hs.visits⟩
  | stop => exact ⟨(List.forall_mem_cons.mp hs.tasks).2, hs.visits⟩
  | again =>
    obtain ⟨hloop, hrest⟩ := List.forall_mem_cons.mp hs.tasks
    exact ⟨List.forall_mem_cons.mpr ⟨hloop, hrest⟩, hs.visits⟩

theorem placed_startIn (w : Workflow) (v : World) : (w.startIn v).Placed w := by
  refine ⟨placed_tasksFrom fun i => ?_, fun v hv => absurd hv List.not_mem_nil⟩
  rw [Nat.zero_add]
  show (w.nodes[i]?).bind (Node.below? []) = _
  rcases w.nodes[i]? with _ | n
  · rfl
  · rfl

end Machine

/-- A run comes to the nodes of its workflow alone. -/
theorem Workflow.Reaches.placed {session : Session} {registry : Registry} {w : Workflow}
    {world : World} {s : Machine.State} (h : w.Reaches session registry world s) :
    s.Placed w :=
  h.invariant (Machine.placed_startIn w _) fun _ _ _ hmove hs => hmove.placed hs

end AgentWorkflow
