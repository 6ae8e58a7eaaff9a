/-
Branches, and the plugin that tests a condition.

* `Workflow.branchMode_eq`, `Plugin.branchMode_eq` — the mode that a branch goes by and the one
  that the plugin goes by, from the value of the input.
* `Json.isPlainMode` — the values that both understand alike: those that say no mode, and texts
  that are not blank.
* `BranchMode.Unknown` — the values that a branch does not know for a mode.  All values that are not
  plain are among them.
* `Machine.DecidesAlike`, `Machine.DecidesApart` — the two take the same decision or fail for the
  same cause; or the branch fails, and the plugin tests for truth.
* `Machine.decidesAlike_iff` — on the same condition they decide alike if the mode is plain, and
  otherwise apart.

Design notes: the branch reads any value as a text and passes over an empty one, the plugin passes
over a text that is blank and over whatever is no text.  A value that is no text has a written form
that is never empty and names no mode, so no more has to be known of numbers.
-/
import AgentWorkflow.Proofs.MachineRuns
import AgentWorkflow.Proofs.WrittenForms
import AgentWorkflow.Rehearsal

namespace AgentWorkflow

/-! ### Modes -/

/-- Whether a value says no mode or is a text that is not blank. -/
def Json.isPlainMode : Json → Bool
  | .null => true
  | .text s => s.isEmpty || !Text.allBlank s
  | .bool _ | .number _ | .list _ | .object _ => false

/-- A branch takes the value for a mode, and there is no such mode. -/
structure BranchMode.Unknown (mode : Json) : Prop where
  given : mode.display.isEmpty = false
  noName : ofName? mode.display = none

namespace BranchMode

/-- No name of a mode is blank. -/
theorem ofName?_of_allBlank {s : String} (h : Text.allBlank s = true) : ofName? s = none := by
  refine ofName?_eq_none fun m hname => ?_
  rw [← hname] at h
  cases m <;> cases h

/-- What is no text and not null is no mode. -/
theorem Unknown.of_no_text {j : Json} (hnull : j ≠ .null) (htext : j.text? = none) :
    Unknown j := by
  have hopens : Text.Opens Json.opensValue j.display := Json.opens_display hnull htext
  exact ⟨hopens.ne_empty, ofName?_of_opensValue hopens⟩

theorem Unknown.of_not_plain {j : Json} (h : j.isPlainMode = false) : Unknown j := by
  cases j with
  | null => cases h
  | bool | number | list | object => exact Unknown.of_no_text (by simp) rfl
  | text s =>
    obtain ⟨hempty, hblank⟩ : s.isEmpty = false ∧ Text.allBlank s = true := by
      simpa [Json.isPlainMode] using h
    exact ⟨hempty, ofName?_of_allBlank hblank⟩

end BranchMode

/-- The mode that a branch goes by: any value is read as a text, and an empty one says none. -/
theorem Workflow.branchMode_eq (inputs : Inputs) :
    branchMode inputs =
      if (Plugin.input inputs "mode").display.isEmpty then .ok BranchMode.standard
      else BranchMode.ofName (Plugin.input inputs "mode").display := by
  unfold branchMode Plugin.input
  cases Table.get? inputs "mode" with
  | none => rfl
  | some mode => rfl

theorem Workflow.branchMode_of_unknown {inputs : Inputs}
    (h : BranchMode.Unknown (Plugin.input inputs "mode")) :
    branchMode inputs =
      .error (Failure.of (.unknownBranchMode (Plugin.input inputs "mode").display)) := by
  rw [branchMode_eq, if_neg (Bool.eq_false_iff.mp h.given)]
  unfold BranchMode.ofName
  rw [h.noName]

/-- The mode that the plugin goes by: what is no text and what is blank says none. -/
theorem Plugin.branchMode_eq (inputs : Inputs) :
    branchMode inputs =
      match (input inputs "mode").text?.filter fun s => !Text.allBlank s with
      | some mode => BranchMode.ofName mode
      | none => .ok BranchMode.standard := by
  unfold branchMode words? input
  rcases Table.get? inputs "mode" with _ | mode
  · rfl
  cases mode with
  | text s =>
    dsimp only [Option.getD_some, Json.text?]
    rw [Option.filter_some]
    cases Text.allBlank s <;> rfl
  | null | bool | number | list | object => rfl

/-- Both understand a plain mode alike. -/
theorem Workflow.branchMode_eq_plugin {inputs : Inputs}
    (h : (Plugin.input inputs "mode").isPlainMode = true) :
    branchMode inputs = Plugin.branchMode inputs := by
  rw [branchMode_eq, Plugin.branchMode_eq]
  cases hmode : Plugin.input inputs "mode" with
  | null => rfl
  | bool | number | list | object =>
    rw [hmode] at h
    cases h
  | text s =>
    rw [hmode] at h
    rw [show (Json.text s).display = s from rfl, show (Json.text s).text? = some s from rfl,
      Option.filter_some]
    -- An empty text is blank, so the plugin passes over it too.
    by_cases hempty : s.isEmpty = true
    · have hs : s = "" := String.isEmpty_iff.mp hempty
      subst hs
      rfl
    · have hblank : (!Text.allBlank s) = true := by
        simpa [Json.isPlainMode, hempty] using h
      rw [if_neg hempty, if_pos hblank]

/-- The plugin passes over any other mode. -/
theorem Plugin.branchMode_of_not_plain {inputs : Inputs}
    (h : (input inputs "mode").isPlainMode = false) :
    branchMode inputs = .ok BranchMode.standard := by
  rw [branchMode_eq]
  cases hmode : input inputs "mode" with
  | null | bool | number | list | object => rfl
  | text s =>
    rw [hmode] at h
    have hblank : Text.allBlank s = true := by
      simp only [Json.isPlainMode, Bool.or_eq_false_iff, Bool.not_eq_false'] at h
      exact h.2
    rw [show (Json.text s).text? = some s from rfl, Option.filter_some, hblank]
    rfl

/-! ### Conditions -/

/-- Two nodes are to test the same value in the same mode, and to compare it with the same. -/
structure Inputs.SameCondition (inputs inputs' : Inputs) : Prop where
  value : Plugin.input inputs "value" = Plugin.input inputs' "value"
  mode : Plugin.input inputs "mode" = Plugin.input inputs' "mode"
  compare : Plugin.input inputs "compare" = Plugin.input inputs' "compare"

namespace Inputs.SameCondition

variable {inputs inputs' : Inputs}

/-- In a plain mode the plugin answers what a branch decides. -/
theorem branchCondition_eq (h : inputs.SameCondition inputs')
    (hplain : (Plugin.input inputs "mode").isPlainMode = true) :
    Plugin.branchCondition inputs' =
      (Workflow.armOf inputs).map fun taken => Plugin.result "result" (.bool taken) := by
  rw [h.mode] at hplain
  have hmode : Workflow.branchMode inputs = Plugin.branchMode inputs' := by
    rw [← Workflow.branchMode_eq_plugin hplain, Workflow.branchMode_eq, Workflow.branchMode_eq,
      h.mode]
  unfold Plugin.branchCondition Workflow.armOf
  rw [hmode, h.value, h.compare]
  rcases Plugin.branchMode inputs' with f | mode
  · rfl
  · show (mode.test _ _ >>= _ : Outcome Json) = (mode.test _ _).map _
    rcases mode.test (Plugin.input inputs' "value") (Plugin.input inputs' "compare").display with
      f | taken
    · rfl
    · rfl

/-- In another mode a branch fails, and the plugin tests for truth. -/
theorem of_not_plain (h : inputs.SameCondition inputs')
    (hplain : (Plugin.input inputs "mode").isPlainMode = false) :
    Workflow.armOf inputs =
        .error (Failure.of (.unknownBranchMode (Plugin.input inputs "mode").display)) ∧
      Plugin.branchCondition inputs' =
        .ok (Plugin.result "result" (.bool (Plugin.input inputs "value").isTruthy)) := by
  have hbranch := Workflow.branchMode_of_unknown (BranchMode.Unknown.of_not_plain hplain)
  rw [h.mode] at hplain
  have hplugin := Plugin.branchMode_of_not_plain hplain
  unfold Plugin.branchCondition Workflow.armOf
  rw [hbranch, hplugin, h.value]
  exact ⟨rfl, rfl⟩

end Inputs.SameCondition

/-! ### Nodes -/

namespace Machine

/-- What is to be done in the arm that a branch takes. -/
def armTasks (n : Node) (address : Address) (taken : Bool) : List Task :=
  if taken then tasksFrom address .thenSteps 0 n.thenSteps
  else tasksFrom address .elseSteps 0 n.elseSteps

section

variable (session : Session) (registry : Registry)

/-- Wherever a run comes to a node in a world, this becomes of it. -/
def Becomes (n : Node) (w : World) (fate : Fate) (tasks : Address → List Task)
    (outcome : Report → Outcome Report) (w' : World) : Prop :=
  ∀ address entry report,
    Meets session registry address n entry report w fate (tasks address) (outcome report) w'

/-- A branch in a world, and a node with the plugin in another one, decide alike. -/
inductive DecidesAlike (n m : Node) (v w : World) : Prop
  /-- The arm and the key of the branch go by the same truth value as the result of the
  plugin. -/
  | taken (taken : Bool) (v' w' : World)
      (hbranch : Becomes session registry n v (.decided taken) (armTasks n · taken)
        (.ok ·.execute) v')
      (hkey : v'.store = v.store.put n.head.label (n.head.decision taken))
      (hplugin : Becomes session registry m w (.called (Plugin.result "result" (.bool taken)))
        (fun _ => []) (.ok ·.execute) w')
      (hresult : w'.store = w.store.put m.head.label (m.head.entries [("result", .bool taken)]))
  /-- Both fail, for the same cause. -/
  | failed (f g e : Failure) (v' w' : World)
      (hbranch : Becomes session registry n v (.undecided f) (fun _ => []) (fun _ => .error f) v')
      (hplugin : Becomes session registry m w (.failed g) (fun _ => []) (fun _ => .error e) w')
      (hcause : f.cause = g.cause)

/-- The branch fails since it does not know the mode, and the plugin tests for truth. -/
structure DecidesApart (n m : Node) (v w : World) (mode value : Json) : Prop where
  branch : ∃ f : Failure, f.cause = .unknownBranchMode mode.display ∧
    Becomes session registry n v (.undecided f) (fun _ => []) (fun _ => .error f) v
  plugin : ∃ w', Becomes session registry m w
      (.called (Plugin.result "result" (.bool value.isTruthy))) (fun _ => []) (.ok ·.execute) w' ∧
    w'.store = w.store.put m.head.label (m.head.entries [("result", .bool value.isTruthy)])

end

variable {registry : Registry} {n m : Node} {v w : World} {type : String}

/-- What becomes of a branch is what its condition decides. -/
theorem becomes_branch (session : Session) (registry : Registry) (hadmitted : Admitted n v.store)
    (hkind : n.kind = .branch) :
    match Workflow.armOf (v.store.resolveInputs n.head.inputs) with
    | .ok taken => Becomes session registry n v (.decided taken) (armTasks n · taken)
        (.ok ·.execute) { v with store := v.store.put n.head.label (n.head.decision taken) }
    | .error f => Becomes session registry n v (.undecided (f.within (Workflow.branchFrame n.head)))
        (fun _ => []) (fun _ => .error (f.within (Workflow.branchFrame n.head))) v := by
  have hrun := Workflow.run_decideBranch n.head v
  split
  · next harm =>
    rw [harm] at hrun
    exact fun _ _ _ => .decided hadmitted hkind hrun
  · next harm =>
    rw [harm] at hrun
    exact fun _ _ _ => .undecided hadmitted hkind hrun

/-- What becomes of a node whose plugin only computes is what it computes. -/
theorem becomes_ofFunction (session : Session) {f : Inputs → Outcome Json}
    (hadmitted : Admitted m w.store) (hkind : m.kind = .plugin type)
    (hget : Table.get? registry type = some (Plugin.ofFunction f)) :
    match f (w.store.resolveInputs m.head.inputs) with
    | .ok result => ∃ w', Becomes session registry m w (.called result) (fun _ => [])
        (.ok ·.execute) w' ∧ w'.store = w.store.put m.head.label (m.head.entries result.outputs)
    | .error e => Becomes session registry m w (.failed e) (fun _ => [])
        (fun _ => .error (e.within (Workflow.nodeFrame m.head.label type)))
        (w.called type (w.store.resolveInputs m.head.inputs)) := by
  have hrun : (Plugin.ofFunction f session (w.store.resolveInputs m.head.inputs)).run
      (w.called type (w.store.resolveInputs m.head.inputs)) = _ := Act.run_ofOutcome _ _
  split
  · next result hresult =>
    rw [hresult] at hrun
    obtain ⟨site, hwrite, -⟩ := Workflow.run_writeResults m.head result.outputs
      (w.called type (w.store.resolveInputs m.head.inputs))
    exact ⟨_, fun _ _ _ => .called hadmitted hkind hget hrun hwrite, rfl⟩
  · next hresult =>
    rw [hresult] at hrun
    exact fun _ _ _ => .failed hadmitted hkind hget hrun

/-- What becomes of a node is one thing. -/
theorem Becomes.fate_unique {session : Session} {fate fate' : Fate}
    {tasks tasks' : Address → List Task} {outcome outcome' : Report → Outcome Report}
    {w' w'' : World}
    (h : Becomes session registry n w fate tasks outcome w')
    (h' : Becomes session registry n w fate' tasks' outcome' w'') : fate = fate' :=
  ((h [] 0 Report.start).unique (h' [] 0 Report.start)).1

/-- A branch and a node with the plugin that tests a condition, on the same condition, decide alike
just in case the mode is plain.  In any other mode the branch fails and the plugin does not. -/
theorem decidesAlike_iff (session : Session) {registry : Registry} {n m : Node} {v w : World}
    {type : String} (hn : Admitted n v.store) (hbranch : n.kind = .branch)
    (hm : Admitted m w.store) (hplugin : m.kind = .plugin type)
    (hget : Table.get? registry type = some (Plugin.ofFunction Plugin.branchCondition))
    (hsame : (v.store.resolveInputs n.head.inputs).SameCondition
      (w.store.resolveInputs m.head.inputs)) :
    let mode := Plugin.input (v.store.resolveInputs n.head.inputs) "mode"
    let value := Plugin.input (v.store.resolveInputs n.head.inputs) "value"
    (DecidesAlike session registry n m v w ↔ mode.isPlainMode = true) ∧
      (mode.isPlainMode = false → DecidesApart session registry n m v w mode value) := by
  intro mode value
  have hb := becomes_branch session registry hn hbranch
  have hp := becomes_ofFunction session hm hplugin hget
  have hapart : mode.isPlainMode = false →
      DecidesApart session registry n m v w mode value := by
    intro hplain
    obtain ⟨harm, hresult⟩ := hsame.of_not_plain hplain
    rw [harm] at hb
    rw [hresult] at hp
    exact ⟨⟨_, rfl, hb⟩, hp⟩
  refine ⟨⟨fun halike => ?_, fun hplain => ?_⟩, hapart⟩
  · by_contra hplain
    obtain ⟨⟨f, -, hundecided⟩, w', hcalled, -⟩ := hapart (Bool.eq_false_iff.mpr hplain)
    cases halike with
    | taken taken v' w' hdecided => cases hundecided.fate_unique hdecided
    | failed f g e v' w' _ hfailed => cases hcalled.fate_unique hfailed
  · rw [hsame.branchCondition_eq hplain] at hp
    rcases harm : Workflow.armOf (v.store.resolveInputs n.head.inputs) with f | taken
    · rw [harm] at hb hp
      exact .failed _ _ _ _ _ hb hp rfl
    · rw [harm] at hb hp
      obtain ⟨w', hcalled, hstore⟩ := hp
      exact .taken taken _ w' hb rfl hcalled hstore

/-- A value under a key is compared with a text. -/
theorem decidesAlike_equals :
    let session := Rehearsal.session ⟨false, false, false⟩ ⟨[]⟩ []
    let w : World := ⟨default, Store.empty.insert "answer" (.text "yes"), []⟩
    let inputs : Inputs :=
      [("compare", .text "yes"), ("mode", .text "equals"), ("value", .text "$answer")]
    let branching : Node := .mk { type := "branch", inputs, outputKey := some "agreed" } [] [] []
    let testing : Node := .mk { type := "utils.branch_condition", inputs } [] [] []
    DecidesAlike session Registry.builtin branching testing w w := by
  intro session w inputs branching testing
  have hbranching : Admitted branching w.store := ⟨rfl, rfl⟩
  have htesting : Admitted testing w.store := ⟨rfl, rfl⟩
  have hget : Table.get? Registry.builtin "utils.branch_condition" =
      some (Plugin.ofFunction Plugin.branchCondition) := rfl
  have hdecide := decidesAlike_iff session hbranching rfl htesting rfl hget ⟨rfl, rfl, rfl⟩
  exact hdecide.1.mpr (by decide)

/-- A mode that is a number is unknown to a branch, and the plugin does not fail on it. -/
theorem decidesApart_number :
    let session := Rehearsal.session ⟨false, false, false⟩ ⟨[]⟩ []
    let w : World := ⟨default, Store.empty, []⟩
    let inputs : Inputs := [("mode", Json.nat 3), ("value", .text "x")]
    let branching : Node := .mk { type := "branch", inputs, outputKey := some "taken" } [] [] []
    let testing : Node := .mk { type := "utils.branch_condition", inputs } [] [] []
    ((Workflow.runNode session Registry.builtin branching Report.start).run w).1 =
        .error ⟨["branch node 'branch'"], .unknownBranchMode "3"⟩ ∧
      ((Workflow.runNode session Registry.builtin testing Report.start).run w).1 =
        .ok Report.start.execute ∧
      ((Workflow.runNode session Registry.builtin testing Report.start).run w).2.store.get?
        "result" = some (.bool true) :=
  ⟨rfl, rfl, rfl⟩

end Machine

end AgentWorkflow
