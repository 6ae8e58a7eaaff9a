/-
Nodes that run a plugin and write some of its results.

* `NodeHead.entries` — what a node writes of the results of its plugin, and
  `Workflow.run_writeResults` — that it writes just that; `Workflow.resultNotes`, what is noted.
* `NodeHead.decision` — what a branch writes, and `Workflow.run_decideBranch`, how it is decided.
* `Store.written` — a store with results written to the keys that are asked for.
* `Store.get?_written` — what is found in it: the result written last to a key.
* `Store.input_resolveInputs` — what an input is that is bound to a key, and
  `Store.get?_resolveInputs_of_literal`, what one is that is bound to nothing.
* `Workflow.run_pluginNode` — the run of such a node, as an equation.
* `Workflow.pluginNode_ok`, `Workflow.pluginNode_error` — when the plugin sees nothing but
  the site, the node does what the plugin does in any world that is alike.
-/
import AgentWorkflow.Proofs.Interpreter
import AgentWorkflow.Workflow.Standard
import Mathlib.Data.List.ReduceOption

namespace AgentWorkflow

/-- The store with entries put on behalf of a node, one after the other. -/
def Store.put (s : Store) (writer : String) : List (String × Json) → Store
  | [] => s
  | (key, value) :: rest => ((s.insertFrom writer key value).2).put writer rest

/-- What a node writes of results: those that are asked for, under the given keys, and null
for one that is not there, or each result under its own name. -/
def NodeHead.entries (h : NodeHead) (results : Table Json) : List (String × Json) :=
  match h.outputs with
  | some outputs => outputs.map fun entry => (entry.2, (Table.get? results entry.1).getD .null)
  | none => results

/-- What a branch writes: its decision, if it has a key for it. -/
def NodeHead.decision (h : NodeHead) (taken : Bool) : List (String × Json) :=
  h.outputKey.toList.map fun key => (key, .bool taken)

/-- The store with results written to the given keys; a result that is not there is
null. -/
def Store.written (s : Store) (writer : String) (results : Table Json) :
    List (String × String) → Store
  | [] => s
  | (name, key) :: rest =>
    ((s.insertFrom writer key ((Table.get? results name).getD .null)).2).written writer
      results rest

/-- The name of the result that is written to a key last. -/
def Store.sourceOf (key : String) : List (String × String) → Option String
  | [] => none
  | (name, k) :: rest => (sourceOf key rest).or (if key = k then some name else none)

/-- A key holds the result that was written to it last, or what it held before. -/
theorem Store.get?_written (s : Store) (writer : String) (results : Table Json)
    (outputs : List (String × String)) (key : String) :
    (s.written writer results outputs).get? key =
      match sourceOf key outputs with
      | some name => some ((Table.get? results name).getD .null)
      | none => s.get? key := by
  induction outputs generalizing s with
  | nil => rfl
  | cons output rest ih =>
    obtain ⟨name, k⟩ := output
    unfold written sourceOf
    rw [ih, get?_insertFrom]
    rcases sourceOf key rest with _ | later
    · by_cases hk : key = k
      · rw [if_pos hk, if_pos hk]
        rfl
      · rw [if_neg hk, if_neg hk]
        rfl
    · rfl

theorem Store.get?_resolveInputs (s : Store) (inputs : Inputs) (name : String) :
    Table.get? (s.resolveInputs inputs) name =
      (Table.get? inputs name).map fun raw => (s.resolve raw).getD .null :=
  Table.get?_map (fun _ raw => (s.resolve raw).getD .null) inputs name

/-- An input that is bound to a key stands for the value under the key. -/
theorem Store.input_resolveInputs {s : Store} {inputs : Inputs} {name key : String}
    {raw value : Json} (hraw : Table.get? inputs name = some raw)
    (hbinding : binding? raw = some key) (hvalue : s.get? key = some value) :
    Plugin.input (s.resolveInputs inputs) name = value := by
  unfold Plugin.input
  rw [get?_resolveInputs, hraw]
  show (s.resolve raw).getD .null = value
  unfold resolve
  rw [hbinding]
  dsimp only
  rw [hvalue]
  rfl

/-- An input that is bound to nothing stands for itself. -/
theorem Store.get?_resolveInputs_of_literal {s : Store} {inputs : Inputs} {name : String}
    {raw : Json} (hraw : Table.get? inputs name = some raw) (hliteral : binding? raw = none) :
    Table.get? (s.resolveInputs inputs) name = some raw := by
  rw [get?_resolveInputs, hraw]
  unfold resolve
  rw [Option.map_some, hliteral]
  rfl

/-- Whether a type of nodes is neither a loop nor a branch. -/
def NodeHead.isPluginType (type : String) : Bool :=
  !loopTypes.contains type && !branchTypes.contains type

theorem NodeHead.kind_of_isPluginType {h : NodeHead} (htype : isPluginType h.type = true) :
    h.kind = .plugin h.type := by
  unfold isPluginType at htype
  rw [Bool.and_eq_true, Bool.not_eq_true', Bool.not_eq_true'] at htype
  unfold kind
  rw [htype.1, htype.2]
  rfl

theorem NodeHead.type_of_kind {h : NodeHead} {type : String} (hkind : h.kind = .plugin type) :
    h.type = type := by
  unfold kind at hkind
  split at hkind
  · cases hkind
  · split at hkind
    · cases hkind
    · simpa using hkind

namespace Workflow

theorem run_writeMapped (writer : String) (results : Table Json)
    (outputs : List (String × String)) (w : World) :
    (writeMapped writer results outputs).run w =
      (.ok (), { w with store := w.store.written writer results outputs }) := by
  induction outputs generalizing w with
  | nil => rfl
  | cons entry rest ih =>
    obtain ⟨name, key⟩ := entry
    unfold writeMapped
    rw [Act.run_bind_ok (Act.run_store w), Act.run_bind_ok (Act.run_setStore _ _), ih]
    rfl

theorem written_eq_put (s : Store) (writer : String) (results : Table Json)
    (outputs : List (String × String)) :
    s.written writer results outputs = s.put writer
      (outputs.map fun entry => (entry.2, (Table.get? results entry.1).getD .null)) := by
  induction outputs generalizing s with
  | nil => rfl
  | cons entry rest ih => exact ih _

/-- What is noted of the writes of some results, each under its own name. -/
def passNotes (writer : String) (s : Store) : List (String × Json) → List (Option Note)
  | [] => []
  | (key, value) :: rest =>
    (s.otherWriter writer key).map (overwriteNote writer key) ::
      passNotes writer (s.insertFrom writer key value).2 rest

theorem run_passThrough_noted (writer : String) (results : List (String × Json)) (w : World) :
    (passThrough writer results).run w = (.ok (),
      ⟨w.site.noting (passNotes writer w.store results).reduceOption,
        w.store.put writer results, w.record⟩) := by
  induction results generalizing w with
  | nil =>
    show (Except.ok (), w) = (Except.ok (), ⟨w.site.noting [], w.store, w.record⟩)
    rw [Site.noting_nil]
  | cons entry rest ih =>
    obtain ⟨key, value⟩ := entry
    unfold passThrough passNotes
    rw [Act.run_bind_ok (Act.run_store w)]
    dsimp only
    rw [Act.run_bind_ok (Act.run_setStore _ w)]
    rw [show (w.store.insertFrom writer key value).1 = w.store.otherWriter writer key from rfl]
    rcases w.store.otherWriter writer key with _ | before
    · exact ih _
    · rw [Act.run_bind_ok (Act.run_lift _ _), ih, Option.map_some, List.reduceOption_cons_of_some]
      exact congrArg (fun site => (Except.ok (), World.mk site _ _))
        (Site.noting_noting w.site [overwriteNote writer key before] _)

/-- What is noted of the results that a node writes: nothing when it has a map of outputs. -/
def resultNotes (h : NodeHead) (s : Store) (results : Table Json) : List (Option Note) :=
  match h.outputs with
  | some _ => []
  | none => passNotes h.label s results

theorem run_writeResults_noted (h : NodeHead) (results : Table Json) (w : World) :
    (writeResults h results).run w = (.ok (),
      ⟨w.site.noting (resultNotes h w.store results).reduceOption,
        w.store.put h.label (h.entries results), w.record⟩) := by
  unfold writeResults resultNotes NodeHead.entries
  rcases h.outputs with _ | outputs
  · exact run_passThrough_noted _ _ w
  · dsimp only
    rw [run_writeMapped, written_eq_put, List.reduceOption_nil, Site.noting_nil]

/-- A node writes its entries and nothing else; notes may be taken of it at the site. -/
theorem run_writeResults (h : NodeHead) (results : Table Json) (w : World) :
    ∃ site, (writeResults h results).run w =
      (.ok (), ⟨site, w.store.put h.label (h.entries results), w.record⟩) ∧
      w.site.Noted site :=
  ⟨_, run_writeResults_noted h results w, _, rfl⟩

variable {session : Session} {registry : Registry} {plugin : Plugin}
  {id type : String} {inputs : Inputs} {outputs : Table String}

/-- The failure of a node with an id. -/
def nodeFrame (id type : String) : String := "node '" ++ id ++ "' (" ++ type ++ ") failed"

/-- The failure of a branch. -/
def branchFrame (h : NodeHead) : String := "branch node '" ++ h.label ++ "'"

/-- A branch writes its decision, and one that cannot be decided writes nothing. -/
theorem run_decideBranch (h : NodeHead) (w : World) :
    (decideBranch h).run w =
      match armOf (w.store.resolveInputs h.inputs) with
      | .ok taken => (.ok taken, { w with store := w.store.put h.label (h.decision taken) })
      | .error f => (.error (f.within (branchFrame h)), w) := by
  have hwithin := Act.run_within (branchFrame h)
    (Act.ofOutcome (armOf (w.store.resolveInputs h.inputs))) w
  rw [Act.run_ofOutcome] at hwithin
  unfold decideBranch
  rw [Act.run_bind_ok (Act.run_store w)]
  rcases harm : armOf (w.store.resolveInputs h.inputs) with f | taken
  · rw [harm] at hwithin
    exact Act.run_bind_error hwithin
  · rw [harm] at hwithin
    refine (Act.run_bind_ok hwithin).trans ?_
    unfold NodeHead.decision
    rcases h.outputKey with _ | key
    · rfl
    · rfl

theorem run_decideBranch_ok {h : NodeHead} {w : World} {taken : Bool}
    (harm : armOf (w.store.resolveInputs h.inputs) = .ok taken) :
    (decideBranch h).run w =
      (.ok taken, { w with store := w.store.put h.label (h.decision taken) }) := by
  rw [run_decideBranch, harm]

theorem run_decideBranch_error {h : NodeHead} {w : World} {f : Failure}
    (harm : armOf (w.store.resolveInputs h.inputs) = .error f) :
    (decideBranch h).run w = (.error (f.within (branchFrame h)), w) := by
  rw [run_decideBranch, harm]

theorem decideBranch_ok {h : NodeHead} {w w' : World} {taken : Bool}
    (hrun : (decideBranch h).run w = (.ok taken, w')) :
    armOf (w.store.resolveInputs h.inputs) = .ok taken ∧
      w' = { w with store := w.store.put h.label (h.decision taken) } := by
  rw [run_decideBranch] at hrun
  rcases harm : armOf (w.store.resolveInputs h.inputs) with f | taken'
  · rw [harm] at hrun
    cases hrun
  · rw [harm] at hrun
    cases hrun
    exact ⟨rfl, rfl⟩

theorem decideBranch_error {h : NodeHead} {w w' : World} {f : Failure}
    (hrun : (decideBranch h).run w = (.error f, w')) :
    w' = w ∧ ∃ g, armOf (w.store.resolveInputs h.inputs) = .error g ∧
      f = g.within (branchFrame h) := by
  rw [run_decideBranch] at hrun
  rcases harm : armOf (w.store.resolveInputs h.inputs) with g | taken
  · rw [harm] at hrun
    cases hrun
    exact ⟨rfl, g, rfl, rfl⟩
  · rw [harm] at hrun
    cases hrun

/-- The note on a node that is passed over. -/
def unregisteredNote (h : NodeHead) (type : String) : Note :=
  .error "no plugin registered for node type, skipping"
    [("node", h.label), ("node_type", type)]

theorem run_runPlugin_none (hget : Table.get? registry type = none) (h : NodeHead)
    (report : Report) (w : World) :
    (runPlugin session registry h type report).run w =
      (.ok (report.unresolve type), (Step.note (unregisteredNote h type) w).2) := by
  unfold runPlugin
  rw [hget]
  rfl

/-- Running a plugin that there is: its call is recorded, and the node writes its results. -/
theorem run_runPlugin (hget : Table.get? registry type = some plugin) (h : NodeHead)
    (report : Report) (w : World) :
    (runPlugin session registry h type report).run w =
      let resolved := w.store.resolveInputs h.inputs
      match (plugin session resolved).run (w.called type resolved) with
      | (.error f, w') => (.error (f.within (nodeFrame h.label type)), w')
      | (.ok result, w') => (.ok report.execute, ((writeResults h result.outputs).run w').2) := by
  dsimp only
  have hwithin := Act.run_within (nodeFrame h.label type)
    (plugin session (w.store.resolveInputs h.inputs))
    (w.called type (w.store.resolveInputs h.inputs))
  unfold runPlugin
  rw [hget]
  dsimp only
  rw [Act.run_bind_ok (Act.run_store w), Act.run_bind_ok (Act.run_lift _ _)]
  rcases hrun : (plugin session (w.store.resolveInputs h.inputs)).run
    (w.called type (w.store.resolveInputs h.inputs)) with ⟨f | result, w'⟩
  · rw [hrun] at hwithin
    exact Act.run_bind_error hwithin
  · rw [hrun] at hwithin
    obtain ⟨site, hwrite, -⟩ := run_writeResults h result.outputs w'
    refine (Act.run_bind_ok hwithin).trans ?_
    rw [Act.run_bind_ok hwrite]
    dsimp only
    rw [hwrite]
    rfl

/-- A node that runs a plugin: its call is recorded, and the results that are asked for
are written. -/
theorem run_pluginNode (hget : Table.get? registry type = some plugin)
    (htype : NodeHead.isPluginType type = true) (report : Report)
    (w : World) :
    (runNode session registry (pluginNode id type inputs outputs) report).run w =
      let resolved := w.store.resolveInputs inputs
      match (plugin session resolved).run (w.called type resolved) with
      | (.error f, w') => (.error (f.within (nodeFrame id type)), w')
      | (.ok result, w') =>
        (.ok report.execute,
          { w' with store := w'.store.written id result.outputs outputs }) := by
  rw [run_runNode_admitted session registry report rfl rfl,
    show (pluginNode id type inputs outputs).kind = .plugin type from
      NodeHead.kind_of_isPluginType htype]
  dsimp only
  rw [run_runPlugin hget]
  dsimp only [pluginNode, Node.head]
  rcases (plugin session (w.store.resolveInputs inputs)).run
    (w.called type (w.store.resolveInputs inputs)) with ⟨f | result, w'⟩
  · rfl
  · show (Except.ok report.execute, ((writeMapped id result.outputs outputs).run w').2) = _
    rw [run_writeMapped]

variable {p : Event → Bool} [Event.HidesCalls p] {w v w' : World}

theorem pluginNode_ok (registry : Registry) (n : Node)
    (hn : n = pluginNode id type inputs outputs)
    (hget : Table.get? registry type = some plugin) (htype : NodeHead.isPluginType type = true)
    (hframed : Step.Framed (fun _ => True) (plugin session (v.store.resolveInputs inputs)).run)
    (h : w.AlikeIn p v) {result : Json}
    (hrun : (plugin session (v.store.resolveInputs inputs)).run w = (.ok result, w'))
    (report : Report) :
    ∃ v', (runNode session registry n report).run v = (.ok report.execute, v') ∧
      w'.AlikeIn p v' ∧ v'.store = v.store.written id result.outputs outputs := by
  obtain ⟨hanswer, halike, hstore⟩ := hframed.alike (h.called type (v.store.resolveInputs inputs))
  rw [hn, run_pluginNode hget htype]
  dsimp only
  rw [hrun] at hanswer halike
  -- The plugin answers in `v` what it answers in `w`; the store is that of `v`.
  rcases hv : (plugin session (v.store.resolveInputs inputs)).run
    (v.called type (v.store.resolveInputs inputs)) with ⟨o, v'⟩
  rw [hv] at hanswer halike hstore
  dsimp only at hanswer hstore
  subst hanswer
  refine ⟨_, rfl, halike.stored _, ?_⟩
  rw [hstore]
  rfl

theorem pluginNode_error (registry : Registry) (n : Node)
    (hn : n = pluginNode id type inputs outputs)
    (hget : Table.get? registry type = some plugin) (htype : NodeHead.isPluginType type = true)
    (hframed : Step.Framed (fun _ => True) (plugin session (v.store.resolveInputs inputs)).run)
    (h : w.AlikeIn p v) {f : Failure}
    (hrun : (plugin session (v.store.resolveInputs inputs)).run w = (.error f, w'))
    (report : Report) :
    ∃ v', (runNode session registry n report).run v =
        (.error (f.within (nodeFrame id type)), v') ∧ w'.AlikeIn p v' := by
  obtain ⟨hanswer, halike, -⟩ := hframed.alike (h.called type (v.store.resolveInputs inputs))
  rw [hn, run_pluginNode hget htype]
  dsimp only
  rw [hrun] at hanswer halike
  rcases hv : (plugin session (v.store.resolveInputs inputs)).run
    (v.called type (v.store.resolveInputs inputs)) with ⟨o, v'⟩
  rw [hv] at hanswer halike
  dsimp only at hanswer
  subst hanswer
  exact ⟨v', rfl, halike⟩

end Workflow

end AgentWorkflow
