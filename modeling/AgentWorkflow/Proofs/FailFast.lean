/-
Runs that fail.

* `Registry.FailsClean` — the plugins of a registry leave the store alone when they fail; those
  that there are do (`Registry.failsClean_ofNames`).
* `Machine.Breaks` — the two ways for a node to fail: its plugin does, or its branch cannot be
  decided.
* `Machine.State.calls` — the calls of plugins in a run so far.
* `Registry.Mends` — a registry does what another one does wherever that does not fail.
* `Workflow.FailsAt`, `Workflow.fails_fast` — a run that fails ends with the visit to the node
  that failed, with the store that it came there with, and up to that node it is the run of every
  registry that mends its own.

Design notes: a failure leaves no task, at whatever depth the node stands, so that the last move
of a run that fails is the visit to the node that failed.  All moves before it go well, and each of
them is a move with the other registry too.
-/
import AgentWorkflow.Proofs.BuiltinPlugins
import AgentWorkflow.Proofs.MachineRuns
import AgentWorkflow.Rehearsal

namespace AgentWorkflow

/-! ### Plugins that fail -/

/-- A plugin leaves the store alone when it fails. -/
def Plugin.FailsClean (session : Session) (p : Plugin) : Prop :=
  ∀ inputs w f w', (p session inputs).run w = (.error f, w') → w'.store = w.store

theorem Plugin.KeepsStore.failsClean {session : Session} {p : Plugin} (h : p.KeepsStore session) :
    p.FailsClean session := by
  intro inputs w f w' hrun
  have hstore := h inputs w
  rw [hrun] at hstore
  exact hstore

theorem Plugin.failsClean_setVariable (session : Session) : setVariable.FailsClean session := by
  intro inputs w f w' hrun
  unfold setVariable at hrun
  split at hrun
  · cases hrun
  · cases hrun

theorem Plugin.failsClean_deleteVariable (session : Session) :
    deleteVariable.FailsClean session := by
  intro inputs w f w' hrun
  unfold deleteVariable at hrun
  split at hrun
  · cases hrun
  · cases hrun

/-- The plugins that change the store on their own do not fail, and the others never change it. -/
theorem Plugin.failsClean_of_mem_builtin (session : Session) {entry : String × Plugin}
    (hentry : entry ∈ builtin) : entry.2.FailsClean session := by
  by_cases hstore : entry ∈ storePlugins
  · unfold storePlugins at hstore
    simp only [List.mem_cons, List.not_mem_nil, or_false] at hstore
    rcases hstore with rfl | rfl | rfl | rfl
    · exact failsClean_deleteVariable session
    · exact KeepsStore.failsClean fun _ _ => rfl
    · exact KeepsStore.failsClean fun _ _ => rfl
    · exact failsClean_setVariable session
  · exact (keepsStore_of_not_mem_storePlugins hentry hstore).failsClean

namespace Registry

/-- The plugins of a registry leave the store alone when they fail. -/
def FailsClean (session : Session) (registry : Registry) : Prop :=
  ∀ type plugin, Table.get? registry type = some plugin → plugin.FailsClean session

theorem failsClean_ofNames (session : Session) (names : Table String) :
    (ofNames names).FailsClean session := by
  intro type plugin hget
  obtain ⟨name, -, hmem⟩ := mem_builtin_of_get?_ofNames hget
  exact Plugin.failsClean_of_mem_builtin session hmem

/-- A registry knows the types that another one knows, and its plugins do what those do wherever
those do not fail. -/
structure Mends (session : Session) (registry registry' : Registry) : Prop where
  contains : Table.contains registry' = Table.contains registry
  agree : ∀ type plugin plugin', Table.get? registry type = some plugin →
    Table.get? registry' type = some plugin' → ∀ inputs w result w',
      (plugin session inputs).run w = (.ok result, w') →
      (plugin' session inputs).run w = (.ok result, w')

namespace Mends

variable {session : Session} {registry registry' : Registry} {type : String}

theorem get?_eq_none (h : registry.Mends session registry')
    (hget : Table.get? registry type = none) : Table.get? registry' type = none := by
  have hcontains := congrFun h.contains type
  unfold Table.contains at hcontains
  rw [hget] at hcontains
  exact Option.not_isSome_iff_eq_none.mp (by simp [hcontains])

theorem exists_get? {plugin : Plugin} (h : registry.Mends session registry')
    (hget : Table.get? registry type = some plugin) :
    ∃ plugin', Table.get? registry' type = some plugin' := by
  have hcontains := congrFun h.contains type
  unfold Table.contains at hcontains
  rw [hget] at hcontains
  exact Option.isSome_iff_exists.mp hcontains

end Mends

/-- The plugins of a registry do not fail. -/
def NeverFails (session : Session) (registry : Registry) : Prop :=
  ∀ type plugin, Table.get? registry type = some plugin →
    ∀ inputs w, ∃ result w', (plugin session inputs).run w = (.ok result, w')

/-- A plugin with null for an answer where it fails. -/
def forgive (p : Plugin) : Plugin := fun s inputs => (p s inputs).tryCatch fun _ => pure .null

/-- The plugins of a registry, with null for an answer where they fail. -/
def unfailing (registry : Registry) : Registry := Table.mapValues forgive registry

theorem get?_unfailing (registry : Registry) (type : String) :
    Table.get? registry.unfailing type = (Table.get? registry type).map forgive :=
  Table.get?_map (fun _ => forgive) registry type

/-- What is caught is answered with null, in the world that the failure left. -/
theorem run_forgive (p : Plugin) (session : Session) (inputs : Inputs) (w : World) :
    (forgive p session inputs).run w =
      (match ((p session inputs).run w).1 with
        | .ok result => .ok result
        | .error _ => .ok .null, ((p session inputs).run w).2) := by
  unfold forgive
  rw [run_tryCatch]
  rcases (p session inputs).run w with ⟨f | result, w'⟩
  · rfl
  · rfl

theorem neverFails_unfailing (registry : Registry) (session : Session) :
    registry.unfailing.NeverFails session := by
  intro type plugin' hget inputs w
  rw [get?_unfailing] at hget
  obtain ⟨plugin, -, rfl⟩ := Option.map_eq_some_iff.mp hget
  rw [run_forgive]
  rcases (plugin session inputs).run w with ⟨f | result, w'⟩
  · exact ⟨.null, w', rfl⟩
  · exact ⟨result, w', rfl⟩

theorem mends_unfailing (registry : Registry) (session : Session) :
    registry.Mends session registry.unfailing where
  contains := by
    funext type
    unfold Table.contains
    rw [get?_unfailing, Option.isSome_map]
  agree type plugin plugin' hget hget' inputs w result w' hrun := by
    rw [get?_unfailing, hget] at hget'
    cases hget'
    rw [run_forgive, hrun]

end Registry

/-! ### Calls -/

/-- The plugin that was called where a run came to a node, and its inputs. -/
def Visit.call? (v : Visit) : Option (String × Inputs) :=
  match v.fate with
  | .called _ | .failed _ => some (v.head.type, v.found.resolveInputs v.head.inputs)
  | .disabled | .unmet | .unregistered | .entered _ | .decided _ | .undecided _ => none

namespace Machine

/-- The calls of plugins so far, the first one first. -/
def State.calls (s : State) : List (String × Inputs) := s.visits.filterMap Visit.call?

theorem State.calls_of_visits {s s' : State} {v : Visit} (h : s'.visits = s.visits ++ [v]) :
    s'.calls = s.calls ++ v.call?.toList := by
  unfold State.calls
  rw [h, List.filterMap_append]
  rcases hcall : v.call? with _ | call
  · simp [hcall]
  · simp [hcall]

section

variable {session : Session} {registry registry' : Registry}

/-- The ways for a node to fail, and the world that is left. -/
inductive Breaks (session : Session) (registry : Registry) (n : Node) (w : World) :
    Fate → Failure → World → Prop
  | plugin {type : String} {plugin : Plugin} {f : Failure} {w' : World}
      (hkind : n.kind = .plugin type) (hget : Table.get? registry type = some plugin)
      (hrun : (plugin session (w.store.resolveInputs n.head.inputs)).run
        (w.called type (w.store.resolveInputs n.head.inputs)) = (.error f, w')) :
    Breaks session registry n w (.failed f) (f.within (Workflow.nodeFrame n.head.label type)) w'
  | branch {f : Failure} (hkind : n.kind = .branch)
      (hdecided : (Workflow.decideBranch n.head).run w = (.error f, w)) :
    Breaks session registry n w (.undecided f) f w

/-- A node that fails leaves the store alone when the plugins do. -/
theorem Breaks.store {n : Node} {w w' : World} {fate : Fate} {f : Failure}
    (h : Breaks session registry n w fate f w') (hclean : registry.FailsClean session) :
    w'.store = w.store := by
  cases h with
  | @plugin type plugin f _ hkind hget hrun =>
    exact hclean type plugin hget _ (w.called type _) f w' hrun
  | branch => rfl

/-- A visit that ends a run is one to a node that fails. -/
theorem Meets.breaks {address : Address} {n : Node} {entry : Nat} {report : Report}
    {w w' : World} {fate : Fate} {tasks : List Task} {f : Failure}
    (h : Meets session registry address n entry report w fate tasks (.error f) w') :
    Breaks session registry n w fate f w' ∧ Admitted n w.store := by
  cases h with
  | undecided hadmitted hkind hdecided =>
    -- A branch that cannot be decided writes nothing.
    obtain ⟨rfl, -⟩ := Workflow.decideBranch_error hdecided
    exact ⟨.branch hkind hdecided, hadmitted⟩
  | failed hadmitted hkind hget hrun => exact ⟨.plugin hkind hget hrun, hadmitted⟩

theorem Moves.exists_ok {s s' : State} (h : Moves session registry s s') :
    ∃ report, s.outcome = .ok report := by
  cases h with
  | visit | pass | spent | stop | again => exact ⟨_, rfl⟩

/-- The move from a state whose next task is a visit is that visit. -/
theorem Moves.meets {s s' : State} {address : Address} {n : Node} {rest : List Task}
    (h : Moves session registry s s') (hagenda : s.agenda = .visit address n :: rest) :
    ∃ report fate tasks, Meets session registry address n s.visits.length report s.world fate
        tasks s'.outcome s'.world ∧
      s'.visits = s.visits ++ [⟨address, n.head, s.world.store, fate⟩] := by
  cases h with
  | visit h =>
    cases hagenda
    exact ⟨_, _, _, h, rfl⟩
  | pass | spent | stop | again => cases hagenda

/-- The move that a run fails with is the visit to a node that fails. -/
theorem Moves.breaks {s s' : State} {f : Failure} (h : Moves session registry s s')
    (hfails : s'.outcome = .error f) :
    ∃ address n rest fate, s.agenda = .visit address n :: rest ∧ Admitted n s.world.store ∧
      Breaks session registry n s.world fate f s'.world ∧ s'.agenda = [] ∧
      s'.visits = s.visits ++ [⟨address, n.head, s.world.store, fate⟩] := by
  cases h with
  | visit h =>
    dsimp only at hfails
    subst hfails
    obtain ⟨hbreaks, hadmitted⟩ := h.breaks
    exact ⟨_, _, _, _, rfl, hadmitted, hbreaks, rfl, rfl⟩
  | pass | spent | stop | again => cases hfails

/-! ### The run with another registry -/

/-- What becomes of a node that does not fail becomes of it with another registry too. -/
theorem Meets.mend {address : Address} {n : Node} {entry : Nat} {report report' : Report}
    {w w' : World} {fate : Fate} {tasks : List Task}
    (h : Meets session registry address n entry report w fate tasks (.ok report') w')
    (hmends : registry.Mends session registry') :
    Meets session registry' address n entry report w fate tasks (.ok report') w' := by
  cases h with
  | disabled hdisabled => exact .disabled hdisabled
  | unmet henabled hunmet => exact .unmet henabled hunmet
  | entered hadmitted hkind hown => exact .entered hadmitted hkind hown
  | decided hadmitted hkind hdecided => exact .decided hadmitted hkind hdecided
  | unregistered hadmitted hkind hget =>
    exact .unregistered hadmitted hkind (hmends.get?_eq_none hget)
  | called hadmitted hkind hget hrun hwrite =>
    obtain ⟨plugin', hget'⟩ := hmends.exists_get? hget
    exact .called hadmitted hkind hget' (hmends.agree _ _ _ hget hget' _ _ _ _ hrun) hwrite

theorem Moves.mend {s s' : State} {report : Report} (h : Moves session registry s s')
    (hok : s'.outcome = .ok report) (hmends : registry.Mends session registry') :
    Moves session registry' s s' := by
  cases h with
  | visit h =>
    dsimp only at hok
    subst hok
    exact .visit (h.mend hmends)
  | pass => exact .pass
  | spent h => exact .spent h
  | stop hstops h => exact .stop hstops h
  | again hstops => exact .again hstops

theorem Steps.mend {s s' : State} {report : Report} (h : Steps session registry s s')
    (hok : s'.outcome = .ok report) (hmends : registry.Mends session registry') :
    Steps session registry' s s' := by
  induction h generalizing report with
  | refl => exact .refl
  | tail _ hmove ih =>
    obtain ⟨before, hbefore⟩ := hmove.exists_ok
    exact (ih hbefore).tail (hmove.mend hok hmends)

/-- Visits are not taken back. -/
theorem Moves.visits_prefix {s s' : State} (h : Moves session registry s s') :
    s.visits <+: s'.visits := by
  rcases h.visit_or_turn with ⟨_, _, _, _, _, -, -, -, hvisits, -⟩ | hturned
  · rw [hvisits]
    exact List.prefix_append _ _
  · exact hturned.visits ▸ List.prefix_refl _

theorem Steps.visits_prefix {s s' : State} (h : Steps session registry s s') :
    s.visits <+: s'.visits := by
  induction h with
  | refl => exact List.prefix_refl _
  | tail _ hmove ih => exact ih.trans hmove.visits_prefix

theorem Steps.calls_prefix {s s' : State} (h : Steps session registry s s') :
    s.calls <+: s'.calls :=
  h.visits_prefix.filterMap _

/-- Whatever comes of it, the plugin of an admitted node is called if there is one. -/
theorem Meets.call?_eq {address : Address} {n : Node} {entry : Nat} {report : Report}
    {w w' : World} {fate : Fate} {tasks : List Task} {outcome : Outcome Report} {type : String}
    {plugin : Plugin} (h : Meets session registry address n entry report w fate tasks outcome w')
    (hadmitted : Admitted n w.store) (hkind : n.kind = .plugin type)
    (hget : Table.get? registry type = some plugin) :
    Visit.call? ⟨address, n.head, w.store, fate⟩ =
      some (n.head.type, w.store.resolveInputs n.head.inputs) := by
  cases h with
  | disabled hdisabled =>
    rw [hadmitted.enabled] at hdisabled
    cases hdisabled
  | unmet _ hunmet =>
    rw [hadmitted.met] at hunmet
    cases hunmet
  | entered _ hkind' | decided _ hkind' | undecided _ hkind' =>
    rw [hkind] at hkind'
    cases hkind'
  | unregistered _ hkind' hget' =>
    rw [hkind] at hkind'
    cases hkind'
    rw [hget] at hget'
    cases hget'
  | called | failed => rfl

/-- Up to the node that fails, and with the call that failed, a run has the calls of every run
from the same state with a registry that mends its own. -/
theorem Breaks.calls_prefix {s s₁ last : State} {address : Address} {n : Node}
    {rest : List Task} {fate : Fate} {f : Failure} {w' : World}
    (h : Breaks session registry n s.world fate f w')
    (hagenda : s.agenda = .visit address n :: rest) (hadmitted : Admitted n s.world.store)
    (hvisits : s₁.visits = s.visits ++ [⟨address, n.head, s.world.store, fate⟩])
    (hmends : registry.Mends session registry') (hlast : Steps session registry' s last)
    (hend : last.agenda = []) : s₁.calls <+: last.calls := by
  rw [State.calls_of_visits hvisits]
  cases h with
  | branch =>
    -- A branch calls no plugin.
    change s.calls ++ [] <+: last.calls
    rw [List.append_nil]
    exact Steps.calls_prefix hlast
  | plugin hkind hget =>
    obtain ⟨plugin', hget'⟩ := hmends.exists_get? hget
    rcases hlast.cases_head with rfl | ⟨next, hmove, hnext⟩
    · rw [hagenda] at hend
      cases hend
    · -- The next move with the other registry is the visit to the same node.
      obtain ⟨report, fate', tasks, hmeets, hvisits'⟩ := hmove.meets hagenda
      have hcall := hmeets.call?_eq hadmitted hkind hget'
      have hnextCalls := Steps.calls_prefix hnext
      rw [State.calls_of_visits hvisits', hcall] at hnextCalls
      exact hnextCalls

end

end Machine

namespace Workflow

open Machine

variable {session : Session} {registry registry' : Registry} {w : Workflow} {world : World}

theorem initial_mend (hmends : registry.Mends session registry') :
    w.initial registry' world = w.initial registry world := by
  unfold initial opened noteIssues
  rw [hmends.contains]

/-- A state that a run comes to without a failure is one that it comes to with every registry that
mends its own. -/
theorem Reaches.mend {s : Machine.State} {report : Report}
    (h : w.Reaches session registry world s) (hok : s.outcome = .ok report)
    (hmends : registry.Mends session registry') : w.Reaches session registry' world s := by
  unfold Reaches
  rw [initial_mend hmends]
  exact Steps.mend h hok hmends

/-- A run fails with the visit to a node: it comes to the node in one state, and the next state is
its last one. -/
structure FailsAt (session : Session) (registry : Registry) (w : Workflow) (world : World)
    (before after : Machine.State) (address : Address) (n : Node) (fate : Fate) (f : Failure) :
    Prop where
  reaches : w.Reaches session registry world before
  next : ∃ rest, before.agenda = .visit address n :: rest
  admitted : Admitted n before.world.store
  breaks : Breaks session registry n before.world fate f after.world
  moves : Moves session registry before after
  visits : after.visits = before.visits ++ [⟨address, n.head, before.world.store, fate⟩]
  /-- Nothing is left to be done, and whatever state the run comes through, it is on the way. -/
  agenda : after.agenda = []
  last : ∀ s, w.Reaches session registry world s → Steps session registry s after
  run : (run session registry w).run world = (.error f, after.world)
  store : after.world.store = before.world.store
  /-- Without the failure the run would have come to the node in the same way, and its calls would
  have gone on from the one that failed. -/
  mended : ∀ registry', registry.Mends session registry' →
    w.Reaches session registry' world before ∧
      ∀ s, w.Reaches session registry' world s → s.agenda = [] → after.calls <+: s.calls

/-- Runs fail fast, with plugins that leave the store alone when they fail, as those that there are
do.  A run that fails ends with the visit to the node that failed. -/
theorem fails_fast (session : Session) :
    (∀ names, (Registry.ofNames names).FailsClean session) ∧
    (∀ registry : Registry, ∃ registry' : Registry,
      registry.Mends session registry' ∧ registry'.NeverFails session) ∧
    ∀ registry : Registry, registry.FailsClean session → ∀ (w : Workflow) world f,
      ((run session registry w).run world).1 = .error f →
      ∃ before after address n fate,
        w.FailsAt session registry world before after address n fate f := by
  refine ⟨Registry.failsClean_ofNames session, fun registry => ⟨registry.unfailing,
    registry.mends_unfailing session, registry.neverFails_unfailing session⟩,
    fun registry hclean w world f hfails => ?_⟩
  obtain ⟨after, hafter, hagenda, hrun⟩ := reaches_end session registry w world
  have houtcome : after.outcome = .error f := (congrArg Prod.fst hrun).trans hfails
  rcases hafter.cases_tail with heq | ⟨before, hbefore, hmove⟩
  · rw [heq] at houtcome
    cases houtcome
  obtain ⟨address, n, rest, fate, hnext, hadmitted, hbreaks, -, hvisits⟩ := hmove.breaks houtcome
  refine ⟨before, after, address, n, fate, hbefore, ⟨rest, hnext⟩, hadmitted, hbreaks, hmove,
    hvisits, hagenda, fun s hs => hs.leads_last hafter hagenda, ?_, hbreaks.store hclean,
    fun registry' hmends => ?_⟩
  · rw [← hrun, houtcome]
  · obtain ⟨report, hreport⟩ := hmove.exists_ok
    have hmended := Reaches.mend hbefore hreport hmends
    refine ⟨hmended, fun s hs hend => ?_⟩
    exact hbreaks.calls_prefix hnext hadmitted hvisits hmends
      (Reaches.leads_last hmended hs hend) hend

/-- A model that gives no reply, asked in the arm of a branch in the body of a loop: of the keys
that are assigned before and after the request the store holds the former. -/
theorem fails_fast_nested :
    let assign (key : String) : Node := .mk {
      type := "var.set"
      inputs := [("key", .text key), ("value", .bool true)]
      outputs := some [] } [] [] []
    let arm := [assign "second", .plugin "core.ai_request", assign "third"]
    let n : Node := .mk { type := "branch", inputs := [("value", .bool true)] } [] arm []
    let loop : Node := .mk { type := "loop", maxIterations := some (Json.nat 2) }
      [n, assign "fourth"] [] []
    let w : Workflow := ⟨none, [assign "first", loop, assign "fifth"]⟩
    let s := Rehearsal.session ⟨false, true, false⟩ ⟨[]⟩ []
    let registry := Registry.ofNames Registry.standardNames
    let world : World := ⟨Site.ofDisk default, Store.empty, []⟩
    registry.FailsClean s ∧ ((run s registry w).run world).2.store.keys = ["first", "second"] ∧
      ∃ f, ((run s registry w).run world).1 = .error f ∧
        ∃ before after address n fate,
          w.FailsAt s registry world before after address n fate f := by
  intro assign arm n loop w s registry world
  have hclean : registry.FailsClean s := Registry.failsClean_ofNames s _
  have hnone : ((run s registry w).run world).1.toOption.isSome = false := by decide +kernel
  refine ⟨hclean, by decide +kernel, ?_⟩
  rcases hfails : ((run s registry w).run world).1 with f | report
  · exact ⟨f, rfl, (fails_fast s).2.2 registry hclean w world f hfails⟩
  · rw [hfails] at hnone
    cases hnone

end Workflow

end AgentWorkflow
