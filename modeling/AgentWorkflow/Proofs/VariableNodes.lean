/-
Nodes that change a variable of the store.

* `VariableAct` — to set a variable or to delete it, and the plugin for it.
* `VariableAct.aim` — what the variable is to hold, and `VariableAct.results`, what the plugin
  answers.
* `NodeHead.ActsOn` — a node does it to the variable that it spells out, and writes every result
  under its own name.
* `Workflow.run_variableNode` — what the store holds then: the results, and elsewhere what the
  plugin has made of it.  The variable holds what it is to hold unless the results clash with it.

Design notes: the plugin changes the store, and the node then writes the results of the plugin to
the same store.  Stores are compared by what is found in them, so the order of their entries does
not matter.
-/
import AgentWorkflow.Proofs.Machine
import AgentWorkflow.Rehearsal

namespace AgentWorkflow

/-- What a node can do to a variable. -/
inductive VariableAct where
  | set (value : Json)
  | delete

namespace VariableAct

def plugin : VariableAct → Plugin
  | set _ => Plugin.setVariable
  | delete => Plugin.deleteVariable

/-- What the variable is to hold. -/
def aim : VariableAct → Option Json
  | set value => some value
  | delete => none

/-- What the plugin answers, when the variable has held a value or none. -/
def results (key : String) (before : Option Json) : VariableAct → Table Json
  | set value => [("key", .text key), ("result", value)]
  | delete => [("deleted", .bool before.isSome), ("result", .bool before.isSome)]

/-- The store as the plugin leaves it. -/
def onStore (key : String) (s : Store) : VariableAct → Store
  | set value => s.insert key value
  | delete => s.erase key

/-- A result goes by the name of the variable, and is not what the variable is to hold. -/
def Clashes (key : String) : VariableAct → Prop
  | set value => key = "key" ∧ value ≠ .text "key"
  | delete => key = "result" ∨ key = "deleted"

theorem get?_onStore (key : String) (s : Store) (act : VariableAct) (k : String) :
    (act.onStore key s).get? k = if k = key then act.aim else s.get? k := by
  cases act with
  | set value => exact s.get?_insert key value k
  | delete => exact s.get?_erase key k

/-- The results are found where they are written, and they leave the other keys alone. -/
theorem get?_put_results (act : VariableAct) (key : String) (before : Option Json) (s : Store)
    (writer k : String) :
    (s.put writer (act.results key before)).get? k =
      (Table.get? (act.results key before) k).or (s.get? k) := by
  -- There are two results, under different names.
  cases act with
  | set value | delete =>
    simp only [results, Store.put, Store.get?_insertFrom, Table.get?_cons, Table.get?_nil]
    by_cases hresult : k = "result"
    · subst hresult
      rfl
    · rw [if_neg hresult, if_neg hresult]
      split <;> rfl

/-- Where the results have been written, the variable holds what it is to hold unless they
clash with it. -/
theorem eq_aim_iff (act : VariableAct) (key : String) (before : Option Json) :
    (Table.get? (act.results key before) key).or act.aim = act.aim ↔ ¬act.Clashes key := by
  cases act with
  | set value =>
    simp only [results, aim, Clashes, Table.get?_cons, Table.get?_nil]
    by_cases hkey : key = "key"
    · subst hkey
      simp [eq_comm]
    · by_cases hresult : key = "result"
      · simp [hresult]
      · simp [hkey, hresult]
  | delete =>
    simp only [results, aim, Clashes, Table.get?_cons, Table.get?_nil]
    by_cases hdeleted : key = "deleted"
    · simp [hdeleted]
    · by_cases hresult : key = "result"
      · simp [hresult]
      · simp [hdeleted, hresult]

end VariableAct

/-- A node does something to a variable: its inputs spell out the variable, and the value that is
to be set, and it writes every result of the plugin under its own name. -/
structure NodeHead.ActsOn (h : NodeHead) (registry : Registry) (act : VariableAct)
    (key : String) : Prop where
  plugin : ∃ type, h.kind = .plugin type ∧ Table.get? registry type = some act.plugin
  outputs : h.outputs = none
  /-- A text with nothing in it names no variable. -/
  named : Text.allBlank key = false
  unbound : Store.binding? (.text key) = none
  key : Table.get? h.inputs "key" = some (.text key)
  value : ∀ value, act = .set value →
    Table.get? h.inputs "value" = some value ∧ Store.binding? value = none

namespace VariableAct

variable {act : VariableAct} {key : String} {registry : Registry} {h : NodeHead}

/-- The plugin does to the store what the node is for, and answers the results. -/
theorem run_plugin (session : Session) (hacts : h.ActsOn registry act key) (s : Store)
    (w : World) :
    (act.plugin session (s.resolveInputs h.inputs)).run w =
      (.ok (.object (act.results key (w.store.get? key))),
        { w with store := act.onStore key w.store }) := by
  have hwords : Plugin.words? (s.resolveInputs h.inputs) "key" = some key := by
    unfold Plugin.words?
    rw [Store.get?_resolveInputs_of_literal hacts.key hacts.unbound]
    exact if_neg (Bool.eq_false_iff.mp hacts.named)
  cases act with
  | set value =>
    obtain ⟨hvalue, hliteral⟩ := hacts.value value rfl
    have hinput : Plugin.input (s.resolveInputs h.inputs) "value" = value := by
      unfold Plugin.input
      rw [Store.get?_resolveInputs_of_literal hvalue hliteral]
      rfl
    show (Plugin.setVariable session (s.resolveInputs h.inputs)).run w = _
    unfold Plugin.setVariable
    rw [hwords, hinput]
    rfl
  | delete =>
    show (Plugin.deleteVariable session (s.resolveInputs h.inputs)).run w = _
    unfold Plugin.deleteVariable
    rw [hwords]
    rfl

end VariableAct

namespace Workflow

/-- A node that sets or deletes a variable leaves its results in the store, and elsewhere what
the plugin has made of it.  So the variable holds the value that was set, or is unset, just in
case the results do not clash with it. -/
theorem run_variableNode (session : Session) {registry : Registry} {n : Node} {w : World}
    {act : VariableAct} {key : String} (hadmitted : Machine.Admitted n w.store)
    (hacts : n.head.ActsOn registry act key) (report : Report) :
    ∃ w', (runNode session registry n report).run w = (.ok report.execute, w') ∧
      (∀ k, w'.store.get? k = (Table.get? (act.results key (w.store.get? key)) k).or
        (if k = key then act.aim else w.store.get? k)) ∧
      (w'.store.get? key = act.aim ↔ ¬act.Clashes key) := by
  obtain ⟨type, hkind, hget⟩ := hacts.plugin
  let v : World := { w.called type (w.store.resolveInputs n.head.inputs) with
    store := act.onStore key w.store }
  let results := act.results key (w.store.get? key)
  -- The plugin has changed the store before the node writes to it.
  have hplugin : (act.plugin session (w.store.resolveInputs n.head.inputs)).run
      (w.called type (w.store.resolveInputs n.head.inputs)) = (.ok (.object results), v) :=
    act.run_plugin session hacts w.store _
  obtain ⟨site, hwrite, -⟩ := run_writeResults n.head results v
  have hentries : n.head.entries results = results := by
    unfold NodeHead.entries
    rw [hacts.outputs]
  rw [hentries] at hwrite
  have hrun : (runNode session registry n report).run w =
      (.ok report.execute, ⟨site, v.store.put n.head.label results, v.record⟩) := by
    rw [run_runNode_admitted session registry report hadmitted.enabled hadmitted.met,
      show n.kind = .plugin type from hkind]
    dsimp only
    rw [run_runPlugin hget]
    dsimp only
    rw [hplugin]
    dsimp only [Json.outputs]
    rw [hwrite]
  have hfound : ∀ k, (v.store.put n.head.label results).get? k =
      (Table.get? results k).or (if k = key then act.aim else w.store.get? k) := by
    intro k
    rw [act.get?_put_results, act.get?_onStore]
  refine ⟨_, hrun, hfound, ?_⟩
  rw [hfound, if_pos rfl]
  exact act.eq_aim_iff key _

/-- Counters that are set and deleted. -/
theorem run_variableNode_count :
    let session := Rehearsal.session ⟨false, false, false⟩ ⟨[]⟩ []
    let w : World := ⟨default, Store.empty.insert "old" (Json.nat 1), []⟩
    let setting : Node :=
      .mk { type := "var.set", inputs := [("key", .text "new"), ("value", Json.nat 2)] } [] [] []
    let deleting : Node := .mk { type := "var.delete", inputs := [("key", .text "old")] } [] [] []
    (∃ w', (runNode session Registry.builtin setting Report.start).run w =
        (.ok Report.start.execute, w') ∧ w'.store.get? "new" = some (Json.nat 2)) ∧
      ∃ w', (runNode session Registry.builtin deleting Report.start).run w =
        (.ok Report.start.execute, w') ∧ w'.store.get? "old" = none := by
  intro session w setting deleting
  have hsets : setting.head.ActsOn Registry.builtin (.set (Json.nat 2)) "new" := {
    plugin := ⟨"var.set", rfl, rfl⟩
    outputs := rfl
    named := rfl
    unbound := rfl
    key := rfl
    value := fun value hvalue => by cases hvalue; exact ⟨rfl, rfl⟩ }
  have hdeletes : deleting.head.ActsOn Registry.builtin .delete "old" := {
    plugin := ⟨"var.delete", rfl, rfl⟩
    outputs := rfl
    named := rfl
    unbound := rfl
    key := rfl
    value := fun value hvalue => by cases hvalue }
  obtain ⟨w₁, hrun₁, -, hnew⟩ :=
    run_variableNode session (w := w) ⟨rfl, rfl⟩ hsets Report.start
  obtain ⟨w₂, hrun₂, -, hold⟩ :=
    run_variableNode session (w := w) ⟨rfl, rfl⟩ hdeletes Report.start
  exact ⟨⟨w₁, hrun₁, hnew.mpr (by simp [VariableAct.Clashes])⟩,
    ⟨w₂, hrun₂, hold.mpr (by simp [VariableAct.Clashes])⟩⟩

/-- A variable by the name of a result does not hold the value that it was set to, and it is not
deleted. -/
theorem run_variableNode_clashing :
    let session := Rehearsal.session ⟨false, false, false⟩ ⟨[]⟩ []
    let w : World := ⟨default, Store.empty.insert "result" (Json.nat 1), []⟩
    let left (n : Node) : Store :=
      ((runNode session Registry.builtin n Report.start).run w).2.store
    let setting : Node :=
      .mk { type := "var.set", inputs := [("key", .text "key"), ("value", .bool true)] } [] [] []
    let deleting : Node :=
      .mk { type := "var.delete", inputs := [("key", .text "result")] } [] [] []
    (left setting).get? "key" = some (.text "key") ∧
      (left deleting).get? "result" = some (.bool true) :=
  ⟨rfl, rfl⟩

end Workflow

end AgentWorkflow
