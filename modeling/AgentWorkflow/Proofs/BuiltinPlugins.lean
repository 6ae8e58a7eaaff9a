/-
The plugins that there are, taken together.

* `Plugin.storePlugins` — the plugins that use the store of a workflow.
* `Plugin.madeOf_of_mem_builtin` — a plugin does nothing but what the session does; the model is
  asked, the roadmap written and the store used by those alone that are there to do so.
* `Plugin.keepsStore_of_mem_builtin` — but for those that are there to change it, they leave
  the store alone.
* `Registry.mem_builtin_of_get?_ofNames` — the plugins of a registry are among them.
* `Registry.madeOf_of_get?_ofNames` — so these do nothing else either.
-/
import AgentWorkflow.Plugin.Catalog
import AgentWorkflow.Proofs.ConversationPlugins

namespace AgentWorkflow

namespace Plugin

variable {P : Event → Prop} {writes stores : Prop} {s : Session} {inputs : Inputs}

/-! ### Single plugins -/

theorem madeOf_ofFunction (f : Inputs → Outcome Json) :
    MadeOf (s.Acts P writes stores) (ofFunction f s inputs).run := Act.madeOf_ofOutcome _

theorem madeOf_ofTool (hi : ∀ n x, s.withholds n = false → P (.invoked n x)) (name : String) :
    MadeOf (s.Acts P writes stores) (ofTool name s inputs).run :=
  .run_bind (Session.madeOf_callTool s hi name inputs) fun _ => .run_pure _

theorem madeOf_notifyChannels (hd : ∀ c m, P (.delivered c m)) :
    MadeOf (s.Acts P writes stores) (notifyChannels s inputs).run := by
  unfold notifyChannels
  dsimp only
  split
  · exact .run_pure _
  · exact .run_bind (.run_lift (Session.madeOf_notifyAll hd s _)) fun _ => .run_pure _

theorem madeOf_checkMilestone : MadeOf (s.Acts P writes stores) (checkMilestone s inputs).run :=
  .run_bind (.run_lift (Conversation.madeOf_milestoneReached s)) fun _ => .run_pure _

/-- No gate stands before the plugin that writes the roadmap. -/
theorem madeOf_updateRoadmap (hwrites : writes) :
    MadeOf (s.Acts P writes stores) (updateRoadmap s inputs).run := by
  unfold updateRoadmap
  split
  · exact .run_pure _
  · next content _ =>
    exact .run_bind (Step.madeOf_deed (.rewrote hwrites content)) fun _ => .run_pure _

/-- The plugins that use the store of a workflow. -/
def storePlugins : Table Plugin := [
  ("var.delete", deleteVariable), ("var.exists", variableExists), ("var.get", getVariable),
  ("var.set", setVariable)]

/-- The plugins that use the store do nothing else. -/
theorem madeOf_of_mem_storePlugins (hstores : stores) :
    ∀ entry ∈ storePlugins, ∀ inputs, MadeOf (s.Acts P writes stores) (entry.2 s inputs).run := by
  have hlook : MadeOf (s.Acts P writes stores) Act.store.run := .part (.looked hstores)
  have hchange : ∀ store, MadeOf (s.Acts P writes stores) (Act.setStore store).run :=
    fun store => .part (.stored hstores store)
  unfold storePlugins
  simp only [List.forall_mem_cons]
  refine ⟨fun inputs => ?_, fun inputs => ?_, fun inputs => ?_, fun inputs => ?_,
    fun _ h => absurd h List.not_mem_nil⟩
  · unfold deleteVariable
    split
    · exact .run_pure _
    · exact .run_bind hlook fun _ => .run_bind (hchange _) fun _ => .run_pure _
  · exact .run_bind hlook fun _ => .run_pure _
  · exact .run_bind hlook fun _ => .run_pure _
  · unfold setVariable
    split
    · exact .run_pure _
    · exact .run_bind hlook fun _ => .run_bind (hchange _) fun _ => .run_pure _

/-! ### All of them -/

/-- The name of the plugin that asks the model. -/
def requestName : String := "core.ai_request"

/-- The name of the plugin that writes the roadmap. -/
def roadmapName : String := "utils.update_roadmap"

/-- A plugin does nothing but what the session does.  One asks the model, one writes the roadmap and
some use the store, and the others do none of this. -/
theorem madeOf_of_mem_builtin (hd : ∀ c m, P (.delivered c m)) (ha : ∀ n x, P (.asked n x))
    (hi : ∀ n x, s.withholds n = false → P (.invoked n x)) :
    ∀ entry ∈ builtin,
      (entry.1 = requestName → (∀ r, P (.requested r)) ∧ ∀ o, P (.replied o)) →
      (entry.1 = roadmapName → writes) → (entry ∈ storePlugins → stores) →
      ∀ inputs, MadeOf (s.Acts P writes stores) (entry.2 s inputs).run := by
  have hnone : ∀ {Q : String × Plugin → Prop}, ∀ entry ∈ ([] : Table Plugin), Q entry :=
    fun _ h => absurd h List.not_mem_nil
  have hvariable : ∀ {entry : String × Plugin}, entry ∈ storePlugins →
      (entry ∈ storePlugins → stores) → ∀ inputs,
        MadeOf (s.Acts P writes stores) (entry.2 s inputs).run :=
    fun hmem hstores => madeOf_of_mem_storePlugins (hstores hmem) _ hmem
  unfold builtin
  simp only [List.forall_mem_append, List.forall_mem_cons, List.forall_mem_map]
  -- The plugins in the order of the list; the ones for tools are there once for each name.
  refine ⟨⟨⟨fun hmodel _ _ _ => madeOf_aiRequest (hmodel rfl).1 (hmodel rfl).2,
      fun _ _ _ _ => madeOf_appendContext,
      fun _ _ _ _ => madeOf_appendToolResults hd,
      fun _ _ _ _ => madeOf_appendInstruction,
      fun _ _ _ _ => madeOf_loadContext,
      fun _ _ _ _ => madeOf_runToolCalls hd ha hi,
      fun _ _ _ _ => madeOf_seedMessages,
      fun _ _ _ _ => madeOf_notifyChannels hd, hnone⟩,
    fun name _ _ _ _ _ => madeOf_ofTool hi name⟩,
    fun _ _ _ _ => madeOf_ofFunction _,
    fun _ _ _ _ => madeOf_ofFunction _,
    fun _ _ _ _ => madeOf_checkMilestone,
    fun _ _ _ _ => madeOf_ofFunction _,
    fun _ _ _ _ => madeOf_ofFunction _,
    fun _ _ _ _ => madeOf_ofFunction _,
    fun _ _ _ _ => madeOf_ofFunction _,
    fun _ hroadmap _ _ => madeOf_updateRoadmap (hroadmap rfl),
    ?_, ?_, ?_, ?_, hnone⟩
  all_goals exact fun _ _ hstores => hvariable (by simp [storePlugins]) hstores

/-- The same, whatever events there are. -/
theorem acts_of_mem_builtin {entry : String × Plugin} (hentry : entry ∈ builtin)
    (hwrites : entry.1 = roadmapName → writes) (hstores : entry ∈ storePlugins → stores)
    (inputs : Inputs) :
    MadeOf (s.Acts (fun _ => True) writes stores) (entry.2 s inputs).run := by
  refine madeOf_of_mem_builtin ?_ ?_ ?_ entry hentry ?_ hwrites hstores inputs
  · exact fun _ _ => trivial
  · exact fun _ _ => trivial
  · exact fun _ _ _ => trivial
  · exact fun _ => ⟨fun _ => trivial, fun _ => trivial⟩

/-! ### The store -/

/-- A plugin leaves the store alone, whether or not it fails. -/
def KeepsStore (session : Session) (p : Plugin) : Prop :=
  ∀ inputs w, ((p session inputs).run w).2.store = w.store

/-- The plugins that change the store on their own. -/
def storeTypes : List String := ["var.delete", "var.set"]

theorem keepsStore_of_not_mem_storePlugins {entry : String × Plugin} (hentry : entry ∈ builtin)
    (hstore : entry ∉ storePlugins) : entry.2.KeepsStore s := by
  intro inputs w
  -- What sees nothing but the site leaves the store as it is.
  obtain ⟨f, hf, -⟩ := (acts_of_mem_builtin (s := s) hentry (fun _ => trivial) hstore inputs).framed
  rw [hf w]

theorem keepsStore_of_mem_builtin {entry : String × Plugin} (hentry : entry ∈ builtin)
    (hname : entry.1 ∉ storeTypes) : entry.2.KeepsStore s := by
  by_cases hstore : entry ∈ storePlugins
  · -- Two of the plugins that use the store look into it and no more.
    unfold storePlugins at hstore
    simp only [List.mem_cons, List.not_mem_nil, or_false] at hstore
    rcases hstore with rfl | rfl | rfl | rfl
    · exact absurd hname (by decide)
    · exact fun _ _ => rfl
    · exact fun _ _ => rfl
    · exact absurd hname (by decide)
  · exact keepsStore_of_not_mem_storePlugins hentry hstore

end Plugin

/-- A plugin of a registry is one that there is. -/
theorem Registry.mem_builtin_of_get?_ofNames {names : Table String} {type : String}
    {plugin : Plugin} (h : Table.get? (ofNames names) type = some plugin) :
    ∃ name, (type, name) ∈ names ∧ (name, plugin) ∈ Plugin.builtin := by
  have hmem := Table.mem_of_get?_ofList h
  obtain ⟨⟨nodeType, name⟩, hname, hentry⟩ := List.mem_filterMap.mp hmem
  obtain ⟨p, hp, heq⟩ := Option.map_eq_some_iff.mp hentry
  obtain ⟨rfl, rfl⟩ := Prod.mk.inj heq
  exact ⟨name, hname, Table.mem_of_get? hp⟩

namespace Registry

/-- The types of nodes that a table of names makes write the roadmap. -/
def roadmapTypes (names : Table String) : List String :=
  (names.filter fun entry => entry.2 == Plugin.roadmapName).map Prod.fst

/-- So a plugin of a registry does nothing but what the session does, the roadmap being written by
those types of nodes alone. -/
theorem madeOf_of_get?_ofNames {s : Session} {writes : Prop} {names : Table String}
    {type : String} {plugin : Plugin} (hget : Table.get? (ofNames names) type = some plugin)
    (hwrites : type ∈ roadmapTypes names → writes) (inputs : Inputs) :
    MadeOf (s.Acts (fun _ => True) writes True) (plugin s inputs).run := by
  obtain ⟨name, hname, hmem⟩ := mem_builtin_of_get?_ofNames hget
  refine Plugin.acts_of_mem_builtin hmem (fun heq => hwrites ?_) (fun _ => trivial) inputs
  refine List.mem_map.mpr ⟨(type, name), List.mem_filter.mpr ⟨hname, ?_⟩, rfl⟩
  exact beq_iff_eq.mpr heq

end Registry

end AgentWorkflow
