/-
Runs that leave the tools that modify the repository alone.

* `Session.Spares` — an event is not the call of such a tool.
* `Session.replaceModifying` — a session with other implementations of these tools.
* `Session.Withholds` — an activity of a session calls none of them, and does the same
  whatever they do.
* `Session.withholds_of_dryRun` — in a dry run this is so of every workflow on every
  table of plugin names, and of every conversation.

Design notes: tools are reached on two ways alone, `Dispatch.decide` and
`Session.callTool`, and each has a gate of its own.  Everything else is shown from the
two, once for the events (`Step.Leaves`) and once for the sessions (`Workflow.SameRuns`).
-/
import AgentWorkflow.Proofs.BuiltinPlugins
import AgentWorkflow.Proofs.Interpreter
import AgentWorkflow.Rehearsal
import AgentWorkflow.Workflow.Standard

namespace AgentWorkflow

open Step (Leaves Framed)

namespace Session

/-- An event is not the call of a tool that modifies the repository. -/
def Spares (s : Session) : Event → Prop
  | .invoked name _ => s.policy.isModifying name = false
  | _ => True

/-- The session with other implementations of the tools that modify the repository. -/
def replaceModifying (s : Session) (impl : String → Tool) : Session :=
  { s with tools := s.tools.map fun entry =>
      (entry.1, if s.policy.isModifying entry.1 then impl entry.1 else entry.2) }

/-- An activity of a session calls no tool that modifies the repository, and does the same
with any other implementations of these tools. -/
structure Withholds {α : Type} (s : Session) (activity : Session → Act α) : Prop where
  uncalled : ∀ w, ∃ events, ((activity s).run w).2.record = w.record ++ events ∧
    ∀ name arguments, .invoked name arguments ∈ events → s.policy.isModifying name = false
  unaffected : ∀ impl w, (activity (s.replaceModifying impl)).run w = (activity s).run w

theorem get?_replaceModifying (s : Session) (impl : String → Tool) (name : String) :
    Table.get? (s.replaceModifying impl).tools name =
      (Table.get? s.tools name).map fun tool =>
        if s.policy.isModifying name then impl name else tool :=
  Table.get?_map (fun name tool => if s.policy.isModifying name then impl name else tool) _ _

variable {s : Session}

theorem withholds_eq (h : s.flags.dryRun = true) (name : String) :
    s.withholds name = s.policy.isModifying name := by
  unfold withholds
  rw [h, Bool.true_and]

theorem spares_of_not_withheld (h : s.flags.dryRun = true) {name : String}
    {arguments : Table Json} (hname : s.withholds name = false) :
    s.Spares (.invoked name arguments) := by
  rw [withholds_eq h] at hname
  exact hname

end Session

section

variable {s : Session} {impl : String → Tool}

/-! ### Calls of tools -/

theorem Session.callTool_replaceModifying (h : s.flags.dryRun = true) :
    (s.replaceModifying impl).callTool = s.callTool := by
  funext name arguments
  unfold Session.callTool
  rw [Session.get?_replaceModifying]
  rcases Table.get? s.tools name with _ | tool
  · rfl
  · rw [Option.map_some]
    dsimp only
    rw [show (s.replaceModifying impl).withholds name = s.withholds name from rfl]
    rw [Session.withholds_eq h]
    -- The gate is asked by name alone: a tool that was replaced is withheld.
    by_cases hname : s.policy.isModifying name = true
    · rw [if_pos hname, if_pos hname]
      rfl
    · rw [if_neg hname, if_neg hname, if_neg hname]

theorem Dispatch.decide_replaceModifying (h : s.flags.dryRun = true) :
    decide (s.replaceModifying impl) = decide s := by
  funext name text
  unfold decide
  rw [Session.get?_replaceModifying]
  rcases Table.get? s.tools name with _ | tool
  · rfl
  · rw [Option.map_some]
    dsimp only
    rcases readArguments text with e | arguments
    · rfl
    · dsimp only
      rw [show confirmed (s.replaceModifying impl) name arguments = confirmed s name arguments
        from rfl]
      rw [show (s.replaceModifying impl).withholds name = s.withholds name from rfl]
      rw [Session.withholds_eq h]
      by_cases hname : s.policy.isModifying name = true
      · rw [if_pos hname, if_pos hname]
      · rw [if_neg hname, if_neg hname, if_neg hname]
        rfl

theorem Dispatch.run_replaceModifying (h : s.flags.dryRun = true) :
    run (s.replaceModifying impl) = run s :=
  run_congr s _ rfl (decide_replaceModifying h)

/-! ### Conversations -/

theorem Conversation.passes_replaceModifying (h : s.flags.dryRun = true) (limit left : Nat) :
    passes (s.replaceModifying impl) limit left = passes s limit left :=
  passes_congr s (s.replaceModifying impl) rfl rfl rfl rfl (Dispatch.run_replaceModifying h) rfl
    limit left

theorem Conversation.run_replaceModifying (h : s.flags.dryRun = true) (limit : Nat) :
    run (s.replaceModifying impl) limit = run s limit := by
  unfold run
  rw [passes_replaceModifying h]
  rfl

/-- A conversation in a dry run calls no tool that modifies the repository. -/
theorem Conversation.leaves_run (h : s.flags.dryRun = true) (limit : Nat) :
    Leaves s.Spares (run s limit).run :=
  (madeOf_run (fun _ => trivial) (fun _ => trivial) (fun _ _ => trivial) (fun _ _ => trivial)
    (fun _ _ => Session.spares_of_not_withheld h) limit).leaves

/-! ### Plugins -/

namespace Plugin

/-- A plugin calls no tool that modifies the repository, and does the same with any other
implementations of these tools. -/
structure Spares (p : Plugin) (s : Session) : Prop where
  leaves : ∀ inputs, Leaves s.Spares (p s inputs).run
  same : ∀ impl, p (s.replaceModifying impl) = p s

theorem ofTool_replaceModifying (h : s.flags.dryRun = true) (name : String) :
    ofTool name (s.replaceModifying impl) = ofTool name s := by
  unfold ofTool
  rw [Session.callTool_replaceModifying h]

theorem runToolCalls_replaceModifying (h : s.flags.dryRun = true) :
    runToolCalls (s.replaceModifying impl) = runToolCalls s := by
  unfold runToolCalls
  rw [Dispatch.run_replaceModifying h]
  rfl

/-- In a dry run a plugin does the same with any other implementations of the tools that
modify the repository: two reach tools, and the others do not look at them. -/
theorem same_of_mem_builtin (h : s.flags.dryRun = true) (impl : String → Tool) :
    ∀ entry ∈ builtin, entry.2 (s.replaceModifying impl) = entry.2 s := by
  unfold builtin
  simp only [List.forall_mem_append, List.forall_mem_cons, List.forall_mem_map]
  refine ⟨⟨⟨rfl, rfl, rfl, rfl, rfl, runToolCalls_replaceModifying h, rfl, rfl, ?_⟩,
    fun name _ => ofTool_replaceModifying h name⟩,
    rfl, rfl, rfl, rfl, rfl, rfl, rfl, rfl, rfl, rfl, rfl, rfl, ?_⟩
  · exact fun _ hmem => absurd hmem List.not_mem_nil
  · exact fun _ hmem => absurd hmem List.not_mem_nil

/-- In a dry run every plugin that there is spares the tools that modify the repository. -/
theorem spares_of_mem_builtin (h : s.flags.dryRun = true) {entry : String × Plugin}
    (hentry : entry ∈ builtin) : Spares entry.2 s := by
  refine ⟨fun inputs => ?_, fun impl => same_of_mem_builtin h impl entry hentry⟩
  refine (madeOf_of_mem_builtin ?_ ?_ ?_ entry hentry ?_ ?_ ?_ inputs).leaves
  · exact fun _ _ => trivial
  · exact fun _ _ => trivial
  · exact fun _ _ => Session.spares_of_not_withheld h
  · exact fun _ => ⟨fun _ => trivial, fun _ => trivial⟩
  · exact fun _ => trivial
  · exact fun _ => trivial

end Plugin

end

/-! ### Dry runs -/

/-- What leaves no call of a modifying tool and is the same for every implementation of
them withholds them. -/
theorem Session.withholds_of_leaves {α : Type} {s : Session} {activity : Session → Act α}
    (hleaves : Leaves s.Spares (activity s).run)
    (hsame : ∀ impl, activity (s.replaceModifying impl) = activity s) :
    s.Withholds activity := by
  refine ⟨fun w => ?_, fun impl w => by rw [hsame impl]⟩
  obtain ⟨events, hrecord, hspares⟩ := hleaves w
  exact ⟨events, hrecord, fun name arguments hmem => hspares _ hmem⟩

/-- A dry run calls no tool that modifies the repository, and what these tools do makes no
difference to it: not in a workflow of any nodes at any depth, and not in a conversation. -/
theorem Session.withholds_of_dryRun (s : Session) (h : s.flags.dryRun = true) :
    (∀ (names : Table String) (document : Json),
      s.Withholds fun s => Workflow.runDocument s (Registry.ofNames names) document) ∧
    ∀ limit, s.Withholds fun s => Conversation.run s limit := by
  constructor
  · intro names document
    have hplugin : ∀ type plugin, Table.get? (Registry.ofNames names) type = some plugin →
        plugin.Spares s := by
      intro type plugin hget
      obtain ⟨name, -, hmem⟩ := Registry.mem_builtin_of_get?_ofNames hget
      exact Plugin.spares_of_mem_builtin h hmem
    refine withholds_of_leaves ?_ fun impl => ?_
    · refine Workflow.leaves_runDocument (fun _ _ => trivial) ?_ document
      exact fun type plugin hget => (hplugin type plugin hget).leaves
    · have hruns : Workflow.SameRuns s (s.replaceModifying impl) (Registry.ofNames names) :=
        ⟨rfl, rfl, fun type plugin hget => (hplugin type plugin hget).same impl⟩
      exact Workflow.runDocument_congr hruns document
  · intro limit
    exact withholds_of_leaves (Conversation.leaves_run h limit)
      fun impl => Conversation.run_replaceModifying h limit

/-- A dry run with a tool that would stop without an answer. -/
theorem Session.withholds_rehearsal :
    let s := Rehearsal.session ⟨true, true, false⟩ ⟨["write_file"]⟩ [("write_file", .panics)]
    (s.Withholds fun s =>
      Workflow.runDocument s (Registry.ofNames Registry.standardNames)
        Workflow.standard.toJson) ∧
    s.Withholds fun s => Conversation.run s 10 :=
  ⟨(Session.withholds_of_dryRun _ rfl).1 _ _, (Session.withholds_of_dryRun _ rfl).2 _⟩

end AgentWorkflow
