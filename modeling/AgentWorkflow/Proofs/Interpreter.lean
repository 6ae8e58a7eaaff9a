/-
What the interpreter of workflows adds to its plugins.

* `Node.induct` — induction on nodes: what holds of a node when it holds of the nodes
  below it holds of all.
* `Workflow.run_runNode_admitted`, `Workflow.run_repeatPasses_ok`, … — how nodes and passes go
  on, as equations; `Workflow.resolvedLimit` — the limit that a loop goes by in view of a store.
* `Workflow.leaves_runDocument` — the events of a run are calls of plugins and the events
  that the plugins leave.
* `Workflow.run_congr`, `Workflow.runDocument_congr` — a session goes into a run through the
  plugins, the texts and the flags alone.

Design notes: the passes of a loop and the arms of a branch take the run of the nodes
below as an argument.  So each lemma about a loop or a branch takes what holds of that
run as a hypothesis, and `Node.induct` gives it.
-/
import AgentWorkflow.Proofs.Effects
import AgentWorkflow.Workflow.Run

namespace AgentWorkflow

/-! ### Induction on nodes -/

mutual

/-- Induction on nodes. -/
theorem Node.induct {P : Node → Prop}
    (mk : ∀ h body thenSteps elseSteps, (∀ n ∈ body, P n) → (∀ n ∈ thenSteps, P n) →
      (∀ n ∈ elseSteps, P n) → P (.mk h body thenSteps elseSteps)) :
    ∀ n, P n
  | .mk h body thenSteps elseSteps =>
    mk h body thenSteps elseSteps (Node.induct_list mk body) (Node.induct_list mk thenSteps)
      (Node.induct_list mk elseSteps)

theorem Node.induct_list {P : Node → Prop}
    (mk : ∀ h body thenSteps elseSteps, (∀ n ∈ body, P n) → (∀ n ∈ thenSteps, P n) →
      (∀ n ∈ elseSteps, P n) → P (.mk h body thenSteps elseSteps)) :
    ∀ nodes : List Node, ∀ n ∈ nodes, P n
  | [] => fun _ h => absurd h List.not_mem_nil
  | n :: rest => List.forall_mem_cons.mpr ⟨Node.induct mk n, Node.induct_list mk rest⟩

end

/-- A walk over a list of nodes comes by whatever a walk over one of them comes by. -/
theorem Node.walk_subset_walkList {nodes : List Node} {n : Node} (hn : n ∈ nodes)
    (list : String) (place : Nat) :
    ∃ path, Node.walk path n ⊆ Node.walkList list place nodes := by
  induction nodes generalizing place with
  | nil => cases hn
  | cons m rest ih =>
    rcases List.mem_cons.mp hn with rfl | hrest
    · exact ⟨Node.pathAt list place, List.subset_append_left _ _⟩
    · obtain ⟨path, hwalk⟩ := ih hrest (place + 1)
      exact ⟨path, List.subset_append_of_subset_right _ hwalk⟩

/-- The limit of a loop is given in the workflow and not bound to the store. -/
def NodeHead.LimitIsLiteral (h : NodeHead) : Prop :=
  ∀ raw, h.maxIterationsSetting = some raw → Store.binding? raw = none

namespace Workflow

open Step (Leaves)

/-! ### How nodes and passes go on -/

section Run

variable {session : Session} {registry : Registry} {w w' : World} {report report' : Report}

theorem run_runNode_skipped {n : Node}
    (h : n.head.disabled = true ∨ admits n.head w.store = false) :
    (runNode session registry n report).run w = (.ok report.skip, w) := by
  obtain ⟨head, body, thenSteps, elseSteps⟩ := n
  unfold runNode
  by_cases hdisabled : head.disabled = true
  · rw [if_pos hdisabled]
    rfl
  · have hunmet : admits head w.store = false := h.resolve_left hdisabled
    rw [if_neg hdisabled, Act.run_bind_ok (Act.run_store w), if_pos (by simp [hunmet])]
    rfl

/-- A node that is neither disabled nor kept back by its condition is run by its kind. -/
theorem run_runNode_admitted (session : Session) (registry : Registry) {n : Node}
    (report : Report) (henabled : n.head.disabled = false)
    (hmet : admits n.head w.store = true) :
    (runNode session registry n report).run w =
      (match n.kind with
        | .loop => runLoop session n.head (runNodes session registry n.body) report
        | .branch => do
          let taken ← decideBranch n.head
          if taken then runNodes session registry n.thenSteps report.execute
          else runNodes session registry n.elseSteps report.execute
        | .plugin type => runPlugin session registry n.head type report : Act Report).run w := by
  obtain ⟨head, body, thenSteps, elseSteps⟩ := n
  have henabled' : ¬head.disabled = true := Bool.eq_false_iff.mp henabled
  have hmet' : ¬(!admits head w.store) = true := by
    rw [show admits head w.store = true from hmet]
    exact Bool.false_ne_true
  unfold runNode
  rw [if_neg henabled', Act.run_bind_ok (Act.run_store w), if_neg hmet']
  rfl

/-- The limit that a loop goes by: the one that it sets itself, if that is of use. -/
def resolvedLimit (h : NodeHead) (store : Store) : Nat :=
  match limitOf h store with
  | .ok n => n
  | .error _ => defaultLimit

theorem settingValue_eq {raw : Json} (h : Store.binding? raw = none) (store : Store) :
    settingValue store raw = raw := by
  unfold settingValue Store.resolve
  rw [h]
  rfl

/-- Which notes a loop takes of its limit, the store alone decides. -/
theorem loopLimit_noted (h : NodeHead) (store : Store) :
    ∃ notes, ((∃ n, limitOf h store = .ok n) → notes = []) ∧ ∀ w : World,
      loopLimit h store w = (resolvedLimit h store, ⟨w.site.noting notes, w.store, w.record⟩) := by
  unfold loopLimit resolvedLimit
  rcases limitOf h store with found | n
  · exact ⟨_, (fun ⟨_, hlimit⟩ => nomatch hlimit), fun _ => rfl⟩
  · refine ⟨[], fun _ => rfl, fun w => ?_⟩
    rw [Site.noting_nil]
    rfl

/-- A loop reads its limit and takes a note at most. -/
theorem loopLimit_eq (h : NodeHead) (store : Store) (w : World) :
    ∃ site, loopLimit h store w = (resolvedLimit h store, ⟨site, w.store, w.record⟩) ∧
      ((∃ n, limitOf h store = .ok n) → site = w.site) ∧ w.site.Noted site := by
  obtain ⟨notes, hnone, hrun⟩ := loopLimit_noted h store
  refine ⟨_, hrun w, fun hlimit => ?_, _, rfl⟩
  rw [hnone hlimit, Site.noting_nil]

/-- What the end of a loop counts and notes, neither the report nor the world decides. -/
theorem finishLoop_noted (session : Session) (h : NodeHead) (limit : Nat) (met : Bool) :
    ∃ (exhausted : Bool) (notes : List Note), ∀ (report : Report) (w : World),
      (finishLoop session h limit met report).run w =
        (.ok (if exhausted then report.exhaust else report),
          ⟨w.site.noting notes, w.store, w.record⟩) := by
  unfold finishLoop
  split
  · exact ⟨true, _, fun _ _ => rfl⟩
  · refine ⟨false, [], fun report w => ?_⟩
    rw [Site.noting_nil]
    rfl

/-- The end of a loop takes a note and counts the loop at most. -/
theorem run_finishLoop (session : Session) (h : NodeHead) (limit : Nat) (met : Bool)
    (report : Report) (w : World) :
    ∃ report' site, (finishLoop session h limit met report).run w =
        (.ok report', ⟨site, w.store, w.record⟩) ∧
      (report' = report ∨ report' = report.exhaust) ∧ w.site.Noted site := by
  obtain ⟨exhausted, notes, hrun⟩ := finishLoop_noted session h limit met
  refine ⟨_, _, hrun report w, ?_, _, rfl⟩
  cases exhausted with
  | true => exact .inr rfl
  | false => exact .inl rfl

/-- The check of a workflow takes notes and does nothing else. -/
theorem noteIssues_noted (registry : Registry) (w : Workflow) :
    ∃ notes, ∀ v : World,
      noteIssues registry w v = ((), ⟨v.site.noting notes, v.store, v.record⟩) := by
  unfold noteIssues
  induction w.issues (Table.contains registry) with
  | nil =>
    refine ⟨[], fun v => ?_⟩
    rw [Site.noting_nil]
    rfl
  | cons issue rest ih =>
    obtain ⟨notes, hrest⟩ := ih
    refine ⟨[.warning "workflow check" [("issue", issue)]] ++ notes, fun v => ?_⟩
    rw [← Site.noting_noting]
    exact hrest _

theorem run_runNodes_ok {n : Node} {rest : List Node}
    (h : (runNode session registry n report).run w = (.ok report', w')) :
    (runNodes session registry (n :: rest) report).run w =
      (runNodes session registry rest report').run w' := by
  show (runNode session registry n report >>= runNodes session registry rest).run w = _
  exact Act.run_bind_ok h

theorem run_runNodes_error {n : Node} {rest : List Node} {f : Failure}
    (h : (runNode session registry n report).run w = (.error f, w')) :
    (runNodes session registry (n :: rest) report).run w = (.error f, w') := by
  show (runNode session registry n report >>= runNodes session registry rest).run w = _
  exact Act.run_bind_error h

variable {pass : Report → Act Report} {stops : Store → Bool} {limit : Nat}

theorem run_repeatPasses_ok (h : (pass report.pass).run w = (.ok report', w')) :
    (repeatPasses pass stops (limit + 1) report).run w =
      if stops w'.store then (.ok (true, report'), w')
      else (repeatPasses pass stops limit report').run w' := by
  have hbind : (repeatPasses pass stops (limit + 1) report).run w =
      (if stops w'.store then pure (true, report')
        else repeatPasses pass stops limit report' : Act (Bool × Report)).run w' :=
    (Act.run_bind_ok h).trans (Act.run_bind_ok (Act.run_store w'))
  rw [hbind]
  split
  · rfl
  · rfl

theorem run_repeatPasses_error {f : Failure}
    (h : (pass report.pass).run w = (.error f, w')) :
    (repeatPasses pass stops (limit + 1) report).run w = (.error f, w') := by
  unfold repeatPasses
  exact Act.run_bind_error h

end Run

/-! ### The events of a run -/

section Leaves

variable {P : Event → Prop}

theorem leaves_passThrough (writer : String) (results : List (String × Json)) :
    Leaves P (passThrough writer results).run := by
  induction results with
  | nil => exact Act.leaves_pure ()
  | cons entry rest ih =>
    obtain ⟨key, value⟩ := entry
    refine Act.leaves_bind Act.leaves_store fun s => ?_
    refine Act.leaves_bind (Act.leaves_setStore _) fun _ => ?_
    dsimp only
    split
    · exact Act.leaves_bind (Act.leaves_lift (Leaves.deed _)) fun _ => ih
    · exact ih

theorem leaves_writeMapped (writer : String) (results : Table Json)
    (outputs : List (String × String)) : Leaves P (writeMapped writer results outputs).run := by
  induction outputs with
  | nil => exact Act.leaves_pure ()
  | cons entry rest ih =>
    obtain ⟨name, key⟩ := entry
    refine Act.leaves_bind Act.leaves_store fun s => ?_
    exact Act.leaves_bind (Act.leaves_setStore _) fun _ => ih

theorem leaves_writeResults (h : NodeHead) (results : Table Json) :
    Leaves P (writeResults h results).run := by
  unfold writeResults
  split
  · exact leaves_writeMapped _ _ _
  · exact leaves_passThrough _ _

theorem leaves_loopLimit (h : NodeHead) (s : Store) : Leaves P (loopLimit h s) := by
  unfold loopLimit
  split
  · exact Leaves.pure _
  · exact (Leaves.deed _).bind fun _ => Leaves.pure _

theorem leaves_repeatPasses {pass : Report → Act Report}
    (hpass : ∀ report, Leaves P (pass report).run) (stops : Store → Bool) (limit : Nat)
    (report : Report) : Leaves P (repeatPasses pass stops limit report).run := by
  induction limit generalizing report with
  | zero => exact Act.leaves_pure _
  | succ limit ih =>
    refine Act.leaves_bind (hpass _) fun report' => ?_
    refine Act.leaves_bind Act.leaves_store fun s => ?_
    split
    · exact Act.leaves_pure _
    · exact ih report'

theorem leaves_finishLoop (session : Session) (h : NodeHead) (limit : Nat) (met : Bool)
    (report : Report) : Leaves P (finishLoop session h limit met report).run := by
  unfold finishLoop
  split
  · exact Act.leaves_bind (Act.leaves_lift (Leaves.deed _)) fun _ => Act.leaves_pure _
  · exact Act.leaves_pure _

/-- A loop leaves what its body leaves. -/
theorem leaves_runLoop (session : Session) (h : NodeHead) {pass : Report → Act Report}
    (hpass : ∀ report, Leaves P (pass report).run) (report : Report) :
    Leaves P (runLoop session h pass report).run := by
  refine Act.leaves_bind Act.leaves_store fun s => ?_
  refine Act.leaves_bind (Act.leaves_lift (leaves_loopLimit h s)) fun own => ?_
  refine Act.leaves_bind (leaves_repeatPasses hpass _ _ _) fun met => ?_
  exact leaves_finishLoop _ _ _ _ _

theorem leaves_decideBranch (h : NodeHead) : Leaves P (decideBranch h).run := by
  refine Act.leaves_bind Act.leaves_store fun s => ?_
  refine Act.leaves_bind (Act.leaves_within _ (Act.leaves_ofOutcome _)) fun taken => ?_
  split
  · exact Act.leaves_bind (Act.leaves_setStore _) fun _ => Act.leaves_pure _
  · exact Act.leaves_pure _

variable {session : Session} {registry : Registry}

/-- The plugins of a registry leave nothing but events with a property. -/
def PluginsLeave (P : Event → Prop) (session : Session) (registry : Registry) : Prop :=
  ∀ type plugin, Table.get? registry type = some plugin →
    ∀ inputs, Leaves P (plugin session inputs).run

theorem leaves_runPlugin (hcalled : ∀ type inputs, P (.called type inputs))
    (hplugins : PluginsLeave P session registry) (h : NodeHead) (type : String)
    (report : Report) : Leaves P (runPlugin session registry h type report).run := by
  unfold runPlugin
  split
  · exact Act.leaves_bind (Act.leaves_lift (Leaves.deed _)) fun _ => Act.leaves_pure _
  · next plugin hplugin =>
    refine Act.leaves_bind Act.leaves_store fun s => ?_
    refine Act.leaves_bind (Act.leaves_lift (Leaves.happen (hcalled _ _))) fun _ => ?_
    refine Act.leaves_bind (Act.leaves_within _ (hplugins type plugin hplugin _)) fun result => ?_
    exact Act.leaves_bind (leaves_writeResults _ _) fun _ => Act.leaves_pure _

theorem leaves_runNodes_of {nodes : List Node}
    (hnodes : ∀ n ∈ nodes, ∀ report, Leaves P (runNode session registry n report).run)
    (report : Report) : Leaves P (runNodes session registry nodes report).run := by
  induction nodes generalizing report with
  | nil => exact Act.leaves_pure _
  | cons n rest ih =>
    obtain ⟨hn, hrest⟩ := List.forall_mem_cons.mp hnodes
    unfold runNodes
    exact Act.leaves_bind (hn report) fun report' => ih hrest report'

theorem leaves_runNode (hcalled : ∀ type inputs, P (.called type inputs))
    (hplugins : PluginsLeave P session registry) (n : Node) :
    ∀ report, Leaves P (runNode session registry n report).run := by
  induction n using Node.induct with
  | mk h body thenSteps elseSteps hbody hthen helse =>
    intro report
    unfold runNode
    -- A node is passed over, or it is a loop, a branch or the call of a plugin.
    split
    · exact Act.leaves_pure _
    · refine Act.leaves_bind Act.leaves_store fun s => ?_
      split
      · exact Act.leaves_pure _
      · split
        · exact leaves_runLoop _ _ (leaves_runNodes_of hbody) _
        · refine Act.leaves_bind (leaves_decideBranch h) fun taken => ?_
          split
          · exact leaves_runNodes_of hthen _
          · exact leaves_runNodes_of helse _
        · exact leaves_runPlugin hcalled hplugins _ _ _

theorem leaves_noteIssues (w : Workflow) : Leaves P (noteIssues registry w) := by
  unfold noteIssues
  induction w.issues (Table.contains registry) with
  | nil => exact Leaves.pure _
  | cons issue rest ih => exact (Leaves.deed _).bind fun _ => ih

/-- A run of a workflow leaves calls of plugins and what the plugins leave. -/
theorem leaves_runDocument (hcalled : ∀ type inputs, P (.called type inputs))
    (hplugins : PluginsLeave P session registry) (document : Json) :
    Leaves P (runDocument session registry document).run := by
  refine Act.leaves_bind (Act.leaves_ofOutcome _) fun w => ?_
  refine Act.leaves_bind (Act.leaves_lift (leaves_noteIssues w)) fun _ => ?_
  refine Act.leaves_bind (Act.leaves_setStore _) fun _ => ?_
  exact leaves_runNodes_of (fun n _ => leaves_runNode hcalled hplugins n) _

end Leaves

/-! ### What goes into a run of a session -/

section Congr

variable {session session' : Session} {registry : Registry}

/-- Two sessions differ in nothing that a run reads but for the plugins, and the plugins
do the same with both. -/
structure SameRuns (session session' : Session) (registry : Registry) : Prop where
  flags : session'.flags = session.flags
  texts : session'.texts = session.texts
  plugins : ∀ type plugin, Table.get? registry type = some plugin →
    plugin session' = plugin session

/-- The plugins of the nodes of a walk do the same with both sessions. -/
def SameCalls (session session' : Session) (registry : Registry)
    (walk : List (String × Node)) : Prop :=
  ∀ entry ∈ walk, ∀ type plugin, entry.2.kind = .plugin type →
    Table.get? registry type = some plugin → plugin session' = plugin session

theorem runPlugin_congr {type : String} (hplugin : ∀ plugin,
      Table.get? registry type = some plugin → plugin session' = plugin session)
    (h : NodeHead) :
    runPlugin session' registry h type = runPlugin session registry h type := by
  funext report
  unfold runPlugin
  split
  · rfl
  · next plugin hget => rw [hplugin plugin hget]

theorem runLoop_congr (hflags : session'.flags = session.flags)
    (htexts : session'.texts = session.texts) (h : NodeHead) :
    runLoop session' h = runLoop session h := by
  funext pass report
  unfold runLoop finishLoop
  rw [hflags, htexts]

theorem runNodes_congr_of {nodes : List Node}
    (hnodes : ∀ n ∈ nodes, runNode session' registry n = runNode session registry n) :
    runNodes session' registry nodes = runNodes session registry nodes := by
  induction nodes with
  | nil => rfl
  | cons n rest ih =>
    obtain ⟨hn, hrest⟩ := List.forall_mem_cons.mp hnodes
    funext report
    unfold runNodes
    rw [hn, ih hrest]

theorem runNode_congr (hflags : session'.flags = session.flags)
    (htexts : session'.texts = session.texts) (n : Node) :
    ∀ path, SameCalls session session' registry (Node.walk path n) →
      runNode session' registry n = runNode session registry n := by
  induction n using Node.induct with
  | mk h body thenSteps elseSteps hbody hthen helse =>
    intro path hcalls
    unfold Node.walk at hcalls
    obtain ⟨hhead, hblocks⟩ := List.forall_mem_cons.mp hcalls
    obtain ⟨hblocks, hcalls₃⟩ := List.forall_mem_append.mp hblocks
    obtain ⟨hcalls₁, hcalls₂⟩ := List.forall_mem_append.mp hblocks
    -- The walk over a block comes by the walk over each of its nodes.
    have hblock : ∀ {nodes : List Node} {list : String},
        (∀ n ∈ nodes, ∀ path, SameCalls session session' registry (Node.walk path n) →
          runNode session' registry n = runNode session registry n) →
        SameCalls session session' registry (Node.walkList list 0 nodes) →
        runNodes session' registry nodes = runNodes session registry nodes := by
      intro nodes list hnodes hcalls
      refine runNodes_congr_of fun n hn => ?_
      obtain ⟨path, hwalk⟩ := Node.walk_subset_walkList hn list 0
      exact hnodes n hn path fun entry hentry => hcalls entry (hwalk hentry)
    funext report
    unfold runNode
    rw [hblock hbody hcalls₁, hblock hthen hcalls₂, hblock helse hcalls₃,
      runLoop_congr hflags htexts]
    rcases hkind : h.kind with _ | _ | type
    · rfl
    · rfl
    · dsimp only
      rw [runPlugin_congr fun plugin hget => hhead type plugin hkind hget]

/-- Sessions with the same flags and texts have the same runs of a workflow when the plugins of
its nodes do the same with both. -/
theorem run_congr (session session' : Session) (hflags : session'.flags = session.flags)
    (htexts : session'.texts = session.texts) {w : Workflow}
    (hcalls : SameCalls session session' registry w.walk) :
    run session' registry w = run session registry w := by
  have hnodes : runNodes session' registry w.nodes = runNodes session registry w.nodes := by
    refine runNodes_congr_of fun n hn => ?_
    obtain ⟨path, hwalk⟩ := Node.walk_subset_walkList hn "nodes" 0
    exact runNode_congr hflags htexts n path fun entry hentry => hcalls entry (hwalk hentry)
  unfold run
  rw [hnodes]

/-- Sessions that differ in nothing that a run reads have the same runs. -/
theorem runDocument_congr (hsame : SameRuns session session' registry) (document : Json) :
    runDocument session' registry document = runDocument session registry document := by
  have hrun : run session' registry = run session registry := funext fun w =>
    run_congr session session' hsame.flags hsame.texts fun _ _ type plugin _ hget =>
      hsame.plugins type plugin hget
  unfold runDocument
  rw [hrun]

end Congr

end Workflow

end AgentWorkflow
