/-
What a check of a workflow tells about the modes of its branches.

* `NodeHead.ModeIsLiteral` — the mode of a branch is not bound to the store.
* `Workflow.ReportsMode` — the check reports an unknown mode at a path, and
  `Workflow.reportsMode_iff`, at which nodes it does.
* `Workflow.armOf_of_unknown`, `Workflow.unknown_of_armOf` — a condition fails for its mode just in
  case a branch does not know it.
* `Machine.FailsForMode`, `Machine.failsForMode_iff` — the branches on which a run fails so.
* `Workflow.ModesChecked` — how far the check covers the runs; `Workflow.modesChecked` shows it of
  every workflow.

Design notes: the check looks at texts alone and knows of no default, while a branch reads any value
as a text and takes the standard mode for an empty one.  The two part at the empty text and at the
values that are neither a text nor null, and nowhere else.
-/
import AgentWorkflow.Proofs.BranchConditions
import AgentWorkflow.Proofs.Paths

namespace AgentWorkflow

open Machine

/-- The mode of a branch as the workflow gives it, null when it does not. -/
def NodeHead.mode (h : NodeHead) : Json := Plugin.input h.inputs "mode"

/-- The mode of a branch is given in the workflow, or not at all, and not bound to the store. -/
def NodeHead.ModeIsLiteral (h : NodeHead) : Prop :=
  ∀ raw, Table.get? h.inputs "mode" = some raw → Store.binding? raw = none

/-- A literal mode is the same in view of any store. -/
theorem NodeHead.ModeIsLiteral.input_eq {h : NodeHead} (hliteral : h.ModeIsLiteral) (s : Store) :
    Plugin.input (s.resolveInputs h.inputs) "mode" = h.mode := by
  unfold mode Plugin.input
  rcases hraw : Table.get? h.inputs "mode" with _ | raw
  · rw [Store.get?_resolveInputs, hraw]
    rfl
  · rw [Store.get?_resolveInputs_of_literal hraw (hliteral raw hraw)]

/-! ### What a check reports -/

namespace Workflow

variable {registered : String → Bool} {w : Workflow} {path : String} {n : Node}

/-- The check reports an unknown mode at a path. -/
def ReportsMode (registered : String → Bool) (w : Workflow) (path : String) : Prop :=
  ∃ mode, (path, Issue.unknownMode mode) ∈ w.issuesAt registered

/-- What is reported at the path of a node is what is wrong with it. -/
theorem mem_issuesAt_iff (hwalk : (path, n) ∈ w.walk) (issue : Issue) :
    (path, issue) ∈ w.issuesAt registered ↔ issue ∈ nodeIssues registered n := by
  constructor
  · intro h
    obtain ⟨⟨path', m⟩, hm, hissue⟩ := List.mem_flatMap.mp h
    obtain ⟨issue', hmem, heq⟩ := List.mem_map.mp hissue
    obtain ⟨rfl, rfl⟩ := Prod.mk.inj heq
    rwa [walk_unique hwalk hm]
  · exact fun h => List.mem_flatMap.mpr ⟨_, hwalk, List.mem_map.mpr ⟨issue, h, rfl⟩⟩

/-- Of a branch, the mode alone is complained of for an unknown mode. -/
theorem unknownMode_mem_nodeIssues (hkind : n.kind = .branch) (mode : String) :
    Issue.unknownMode mode ∈ nodeIssues registered n ↔
      Issue.unknownMode mode ∈ modeIssues n.head := by
  have houtputs : Issue.unknownMode mode ∉ outputIssues n.head := by
    unfold outputIssues
    split <;> simp
  unfold nodeIssues
  rw [hkind]
  dsimp only
  rw [List.mem_append, List.mem_append]
  constructor
  · rintro ((h | h) | h)
    · exact h
    · split at h <;> simp at h
    · exact absurd h houtputs
  · exact fun h => .inl (.inl h)

theorem unknownMode_mem_modeIssues {h : NodeHead} (hliteral : h.ModeIsLiteral) (mode : String) :
    Issue.unknownMode mode ∈ modeIssues h ↔
      h.mode = .text mode ∧ BranchMode.ofName? mode = none := by
  unfold modeIssues NodeHead.mode Plugin.input
  rcases hraw : Table.get? h.inputs "mode" with _ | raw
  · simp
  cases raw with
  | null | bool | number | list | object => simp
  | text s =>
    -- A literal text does not begin as a binding does.
    have hplain : Text.beginsWith "$" s = false := by
      have hbinding := hliteral _ hraw
      unfold Store.binding? Text.dropHead? at hbinding
      simpa using hbinding
    dsimp only [Option.getD_some]
    rw [hplain]
    by_cases hname : BranchMode.ofName? s = none
    · simp only [hname, Option.isNone_none, Bool.not_false, Bool.and_self, if_true,
        List.mem_singleton, Issue.unknownMode.injEq, Json.text.injEq]
      constructor
      · rintro rfl
        exact ⟨rfl, hname⟩
      · exact fun h => h.1.symm
    · have hsome : (BranchMode.ofName? s).isNone = false := by
        rwa [Option.isNone_eq_false_iff, Option.isSome_iff_ne_none]
      rw [hsome]
      simp only [Bool.and_false, Bool.false_eq_true, if_false, List.not_mem_nil, false_iff,
        Json.text.injEq]
      rintro ⟨rfl, hnone⟩
      exact hname hnone

/-- The check reports the branches whose mode is a text that names none. -/
theorem reportsMode_iff (hwalk : (path, n) ∈ w.walk) (hkind : n.kind = .branch)
    (hliteral : n.head.ModeIsLiteral) :
    w.ReportsMode registered path ↔
      ∃ mode, n.head.mode = .text mode ∧ BranchMode.ofName? mode = none := by
  unfold ReportsMode
  refine exists_congr fun mode => ?_
  rw [mem_issuesAt_iff hwalk, unknownMode_mem_nodeIssues hkind, unknownMode_mem_modeIssues hliteral]

theorem not_reportsMode_of_issues (hissues : w.issues registered = []) (path : String) :
    ¬w.ReportsMode registered path := by
  rintro ⟨mode, hmode⟩
  rw [List.map_eq_nil_iff.mp hissues] at hmode
  exact absurd hmode List.not_mem_nil

end Workflow

/-! ### What fails -/

namespace Workflow

variable {inputs : Inputs}

theorem armOf_of_unknown (h : BranchMode.Unknown (Plugin.input inputs "mode")) :
    armOf inputs =
      .error (Failure.of (.unknownBranchMode (Plugin.input inputs "mode").display)) := by
  unfold armOf
  rw [branchMode_of_unknown h]
  rfl

/-- A test fails for its pattern alone. -/
theorem cause_of_test {m : BranchMode} {value : Json} {compare : String} {f : Failure}
    (h : m.test value compare = .error f) : f.cause = .pattern := by
  cases m with
  | isEmpty | isTruthy | equals | notEquals | contains => cases h
  | matchesPattern =>
    unfold BranchMode.test compilePattern at h
    rcases hread : Pattern.read? compare with _ | pattern
    · rw [hread] at h
      cases h
      rfl
    · rw [hread] at h
      cases h

/-- A branch that fails for its mode has one that it does not know. -/
theorem unknown_of_armOf {f : Failure} {mode : String} (h : armOf inputs = .error f)
    (hcause : f.cause = .unknownBranchMode mode) :
    BranchMode.Unknown (Plugin.input inputs "mode") := by
  unfold armOf at h
  rw [branchMode_eq] at h
  by_cases hempty : (Plugin.input inputs "mode").display.isEmpty = true
  · rw [if_pos hempty] at h
    have htest : BranchMode.standard.test (Plugin.input inputs "value")
        (Plugin.input inputs "compare").display = .error f := h
    rw [cause_of_test htest] at hcause
    cases hcause
  rw [if_neg hempty] at h
  rcases hname : BranchMode.ofName? (Plugin.input inputs "mode").display with _ | m
  · exact ⟨Bool.eq_false_iff.mpr hempty, hname⟩
  · unfold BranchMode.ofName at h
    rw [hname] at h
    have htest : m.test (Plugin.input inputs "value") (Plugin.input inputs "compare").display =
        .error f := h
    rw [cause_of_test htest] at hcause
    cases hcause

end Workflow

namespace Machine

/-- A run that comes to a branch in a world fails since it does not know the mode. -/
def FailsForMode (session : Session) (registry : Registry) (n : Node) (w : World) : Prop :=
  ∃ (f : Failure) (mode : String), f.cause = .unknownBranchMode mode ∧
    Becomes session registry n w (.undecided f) (fun _ => []) (fun _ => .error f) w

section

variable {session : Session} {registry : Registry} {n : Node} {w : World}

/-- A branch that cannot be decided fails for the cause for which its condition fails. -/
theorem Meets.armOf_error {address : Address} {entry : Nat} {report : Report} {w' : World}
    {f : Failure} {tasks : List Task} {outcome : Outcome Report}
    (h : Meets session registry address n entry report w (.undecided f) tasks outcome w') :
    n.kind = .branch ∧ ∃ g, Workflow.armOf (w.store.resolveInputs n.head.inputs) = .error g ∧
      f.cause = g.cause := by
  cases h with
  | undecided _ hkind hdecided =>
    obtain ⟨-, g, harm, rfl⟩ := Workflow.decideBranch_error hdecided
    exact ⟨hkind, g, harm, rfl⟩

theorem failsForMode_iff (hadmitted : Admitted n w.store) (hkind : n.kind = .branch) :
    FailsForMode session registry n w ↔
      BranchMode.Unknown (Plugin.input (w.store.resolveInputs n.head.inputs) "mode") := by
  constructor
  · rintro ⟨f, mode, hcause, hbecomes⟩
    obtain ⟨-, g, harm, hsame⟩ := (hbecomes [] 0 Report.start).armOf_error
    rw [hsame] at hcause
    exact Workflow.unknown_of_armOf harm hcause
  · intro hunknown
    have hbecomes := becomes_branch session registry hadmitted hkind
    rw [Workflow.armOf_of_unknown hunknown] at hbecomes
    exact ⟨_, _, rfl, hbecomes⟩

end

/-- The branches that could not be decided failed for the cause for which their condition fails
in view of the store that the run came with. -/
def State.Undecided (s : State) : Prop :=
  ∀ v ∈ s.visits, ∀ f, v.fate = .undecided f → v.head.kind = .branch ∧
    ∃ g, Workflow.armOf (v.found.resolveInputs v.head.inputs) = .error g ∧ f.cause = g.cause

theorem Moves.undecided {session : Session} {registry : Registry} {s s' : State}
    (h : Moves session registry s s') (hs : s.Undecided) : s'.Undecided := by
  rcases h.visit_or_turn with ⟨address, n, report, fate, tasks, -, -, h, hvisits, -⟩ | hturned
  · intro v hv f hfate
    rw [hvisits] at hv
    rcases List.mem_append.mp hv with hv | hv
    · exact hs v hv f hfate
    · obtain rfl := List.mem_singleton.mp hv
      dsimp only at hfate
      rw [hfate] at h
      exact h.armOf_error
  · intro v hv
    rw [hturned.visits] at hv
    exact hs v hv

end Machine

/-! ### What the check covers -/

namespace Workflow

variable {session : Session} {registry : Registry} {w : Workflow} {world : World}

theorem Reaches.undecided {s : State} (h : w.Reaches session registry world s) : s.Undecided :=
  h.invariant (fun _ hv => absurd hv List.not_mem_nil) fun _ _ _ hmove => hmove.undecided

/-- How the check of a branch with a literal mode goes with a run that comes to it. -/
structure ModeChecked (session : Session) (registry : Registry) (w : Workflow) (path : String)
    (n : Node) (v : World) : Prop where
  /-- On no mode, and on a text that is not empty, the check reports what fails. -/
  agrees : n.head.mode = .null ∨ (∃ s, s ≠ "" ∧ n.head.mode = .text s) →
    (w.ReportsMode (Table.contains registry) path ↔ FailsForMode session registry n v)
  /-- An empty text is reported, and does not fail. -/
  empty : n.head.mode = .text "" →
    w.ReportsMode (Table.contains registry) path ∧ ¬FailsForMode session registry n v
  /-- Any other value is not reported, and fails. -/
  noText : n.head.mode ≠ .null → n.head.mode.text? = none →
    ¬w.ReportsMode (Table.contains registry) path ∧ FailsForMode session registry n v

/-- How far the check of a workflow covers the modes of its branches. -/
structure ModesChecked (session : Session) (registry : Registry) (w : Workflow) : Prop where
  branches : ∀ path n, (path, n) ∈ w.walk → n.kind = .branch → n.head.ModeIsLiteral →
    ∀ v, Admitted n v.store → w.ModeChecked session registry path n v
  /-- When nothing is reported, and the mode of every branch is a literal text or not given, no
  run fails on the mode of a branch. -/
  runs : w.issues (Table.contains registry) = [] →
    (∀ entry ∈ w.walk, entry.2.kind = .branch → entry.2.head.ModeIsLiteral ∧
      (entry.2.head.mode = .null ∨ ∃ s, entry.2.head.mode = .text s)) →
    ∀ world s, w.Reaches session registry world s → ∀ v ∈ s.visits, ∀ f mode,
      v.fate = .undecided f → f.cause ≠ .unknownBranchMode mode

theorem modeChecked {path : String} {n : Node} {v : World} (hwalk : (path, n) ∈ w.walk)
    (hkind : n.kind = .branch) (hliteral : n.head.ModeIsLiteral)
    (hadmitted : Admitted n v.store) : w.ModeChecked session registry path n v := by
  have hreports : w.ReportsMode (Table.contains registry) path ↔ _ :=
    reportsMode_iff hwalk hkind hliteral
  have hfails : FailsForMode session registry n v ↔ _ := failsForMode_iff hadmitted hkind
  rw [hliteral.input_eq] at hfails
  refine ⟨fun hmode => ?_, fun hmode => ?_, fun hnull htext => ?_⟩
  · rw [hreports, hfails]
    rcases hmode with hmode | ⟨s, hs, hmode⟩
    · rw [hmode]
      constructor
      · rintro ⟨_, h, -⟩
        cases h
      · intro h
        cases h.given
    · rw [hmode]
      constructor
      · rintro ⟨_, heq, hname⟩
        cases heq
        exact ⟨String.isEmpty_eq_false_iff.mpr hs, hname⟩
      · exact fun h => ⟨s, rfl, h.noName⟩
  · rw [hreports, hfails, hmode]
    refine ⟨⟨"", rfl, rfl⟩, fun h => ?_⟩
    cases h.given
  · rw [hreports, hfails]
    refine ⟨?_, BranchMode.Unknown.of_no_text hnull htext⟩
    rintro ⟨mode, hmode, -⟩
    rw [hmode] at htext
    cases htext

/-- How far the check covers the modes of the branches, for every workflow, on every registry and
in every session. -/
theorem modesChecked (session : Session) (registry : Registry) (w : Workflow) :
    w.ModesChecked session registry := by
  refine ⟨fun path n hwalk hkind hliteral v hadmitted =>
    modeChecked hwalk hkind hliteral hadmitted, ?_⟩
  intro hissues hmodes world s hs v hv f mode hfate hcause
  obtain ⟨n, hn, hhead⟩ := hs.placed.visits v hv
  obtain ⟨path, hwalk⟩ := mem_walk_of_nodeAt? hn
  obtain ⟨hkind, g, harm, hsame⟩ := hs.undecided v hv f hfate
  rw [← hhead] at hkind harm
  obtain ⟨hliteral, hgiven⟩ := hmodes _ hwalk hkind
  rw [hsame] at hcause
  have hunknown := unknown_of_armOf harm hcause
  rw [hliteral.input_eq] at hunknown
  -- The mode is a text that the branch does not know, so it would have been reported.
  rcases hgiven with hnull | ⟨text, htext⟩
  · rw [hnull] at hunknown
    cases hunknown.given
  · have hname : BranchMode.ofName? text = none := by
      have hname := hunknown.noName
      rwa [htext] at hname
    have hreports : w.ReportsMode (Table.contains registry) path :=
      (reportsMode_iff hwalk hkind hliteral).mpr ⟨text, htext, hname⟩
    exact not_reportsMode_of_issues hissues path hreports

/-- A mode that is a number is not reported, and the run fails on it.  An empty one is reported, and
the run takes the standard mode. -/
theorem modes_misjudged :
    let session := Rehearsal.session ⟨false, false, false⟩ ⟨[]⟩ []
    let world : World := ⟨default, Store.empty, []⟩
    let branching (mode : Json) : Workflow := ⟨none,
      [.mk { type := "branch", inputs := [("mode", mode), ("value", Json.nat 1)],
             outputKey := some "taken" } [] [] []]⟩
    (branching (Json.nat 3)).issues (Table.contains Registry.builtin) = [] ∧
      ((run session Registry.builtin (branching (Json.nat 3))).run world).1 =
        .error ⟨["branch node 'branch'"], .unknownBranchMode "3"⟩ ∧
      (branching (.text "")).issues (Table.contains Registry.builtin) =
        ["nodes[0]: unknown branch mode ''"] ∧
      ((run session Registry.builtin (branching (.text ""))).run world).1 =
        .ok Report.start.execute :=
  ⟨rfl, rfl, rfl, rfl⟩

end Workflow

end AgentWorkflow
