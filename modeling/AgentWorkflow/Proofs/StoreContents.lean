/-
What the store of a workflow holds.

* `Store.HoldsLast` — a store holds the keys that were written, each with the value that
  was written to it last.
* `Registry.KeepsStore` — the plugins of a registry leave the store alone.
* `Workflow.Reaches.holdsLast` — with such plugins, the store holds at any time of a run
  what was written last by the nodes that the run has come to.

Design notes: what is written is read off the visits, that is, off the nodes and what their
plugins answered, in the order of the run.  The store is not looked at for it.
-/
import AgentWorkflow.Proofs.BuiltinPlugins
import AgentWorkflow.Proofs.MachineRuns
import AgentWorkflow.Rehearsal

namespace AgentWorkflow

open Machine

/-! ### Stores and entries -/

/-- A store holds what was written last. -/
structure Store.HoldsLast (s : Store) (entries : List (String × Json)) : Prop where
  /-- The keys that it holds are those that were written. -/
  keys : ∀ key, (∃ value, s.get? key = some value) ↔ ∃ value, (key, value) ∈ entries
  /-- A key has the value of the last entry for it. -/
  values : ∀ key value, s.get? key = some value ↔
    ∃ before after, entries = before ++ (key, value) :: after ∧ ∀ entry ∈ after, entry.1 ≠ key

namespace Store.HoldsLast

theorem empty : Store.empty.HoldsLast [] := by
  refine ⟨fun key => ?_, fun key value => ?_⟩
  · simp [Store.get?, Store.empty]
  · simp [Store.get?, Store.empty]

variable {s : Store} {entries : List (String × Json)}

theorem insertFrom (h : s.HoldsLast entries) (writer key : String) (value : Json) :
    (s.insertFrom writer key value).2.HoldsLast (entries ++ [(key, value)]) := by
  have hget : ∀ k, (s.insertFrom writer key value).2.get? k =
      if k = key then some value else s.get? k := s.get?_insertFrom writer key value
  refine ⟨fun k => ?_, fun k v => ?_⟩
  · rw [hget]
    by_cases hk : k = key
    · subst hk
      simp
    · have hkeys := h.keys k
      simp [hk, hkeys]
  · rw [hget]
    constructor
    · intro hv
      by_cases hk : k = key
      · subst hk
        refine ⟨entries, [], ?_, fun entry hentry => absurd hentry List.not_mem_nil⟩
        simpa using hv
      · rw [if_neg hk] at hv
        obtain ⟨before, after, rfl, hafter⟩ := (h.values k v).mp hv
        refine ⟨before, after ++ [(key, value)], by simp, fun entry hentry => ?_⟩
        rcases List.mem_append.mp hentry with hentry | hentry
        · exact hafter entry hentry
        · rw [List.mem_singleton.mp hentry]
          exact Ne.symm hk
    · rintro ⟨before, after, hentries, hafter⟩
      -- The entry is the new one, or the new one comes after it and is for another key.
      rcases List.eq_nil_or_concat after with rfl | ⟨after', last, rfl⟩
      · obtain ⟨-, hlast⟩ := List.append_inj' hentries rfl
        have hkey : key = k ∧ value = v := by simpa using hlast
        rw [if_pos hkey.1.symm, hkey.2]
      · rw [List.concat_eq_append] at hentries hafter
        rw [← List.cons_append, ← List.append_assoc] at hentries
        obtain ⟨hbefore, hlast⟩ := List.append_inj' hentries rfl
        have hlast : (key, value) = last := by simpa using hlast
        have hne : key ≠ k := hafter (key, value) (by simp [hlast])
        rw [if_neg hne.symm]
        refine (h.values k v).mpr ⟨before, after', hbefore, fun entry hentry => ?_⟩
        exact hafter entry (List.mem_append_left _ hentry)

theorem put (h : s.HoldsLast entries) (writer : String) (more : List (String × Json)) :
    (s.put writer more).HoldsLast (entries ++ more) := by
  induction more generalizing s entries with
  | nil =>
    rw [List.append_nil]
    exact h
  | cons entry rest ih =>
    obtain ⟨key, value⟩ := entry
    rw [← List.singleton_append, ← List.append_assoc]
    exact ih (h.insertFrom writer key value)

end Store.HoldsLast

/-! ### What visits write -/

/-- The plugins of a registry leave the store alone, but for those that are there to change
it. -/
def Registry.KeepsStore (session : Session) (registry : Registry) : Prop :=
  ∀ type plugin, Table.get? registry type = some plugin → type ∉ Plugin.storeTypes →
    plugin.KeepsStore session

theorem Registry.keepsStore_builtin (session : Session) : Registry.builtin.KeepsStore session :=
  fun _ _ hget htype => Plugin.keepsStore_of_mem_builtin (Table.mem_of_get? hget) htype

/-- A node has a type of `types`. -/
def Workflow.Uses (w : Workflow) (types : List String) : Prop :=
  ∃ entry ∈ w.walk, entry.2.head.type ∈ types

instance (w : Workflow) (types : List String) : Decidable (w.Uses types) :=
  inferInstanceAs (Decidable (∃ entry ∈ w.walk, entry.2.head.type ∈ types))

section

variable {session : Session} {registry : Registry}

/-- Where a run comes to a node, the store changes by what the visit writes. -/
theorem Machine.Meets.store {address : Address} {n : Node} {entry : Nat} {report : Report}
    {w w' : World} {fate : Fate} {tasks : List Task} {outcome : Outcome Report}
    (h : Meets session registry address n entry report w fate tasks outcome w')
    (hplugins : registry.KeepsStore session) (htype : n.head.type ∉ Plugin.storeTypes) :
    w'.store = w.store.put n.head.label (Visit.writes ⟨address, n.head, w.store, fate⟩) := by
  obtain ⟨v, hv, hstore, -⟩ := h.effect
  rcases hv with rfl | ⟨type, plugin, inputs, hkind, hget, rfl⟩
  · exact hstore
  · rw [NodeHead.type_of_kind hkind] at htype
    rw [hplugins type plugin hget htype inputs] at hstore
    exact hstore

/-- A move that is no visit leaves the store alone, and a visit changes it by what it
writes. -/
theorem Machine.Moves.keepsLast {w : Workflow} {s s' : State}
    (h : Moves session registry s s') (hplaced : s.Placed w)
    (hplugins : registry.KeepsStore session) (hnodes : ¬w.Uses Plugin.storeTypes)
    (hs : s.world.store.HoldsLast (s.visits.flatMap Visit.writes)) :
    s'.world.store.HoldsLast (s'.visits.flatMap Visit.writes) := by
  rcases h.visit_or_turn with ⟨address, n, report, fate, tasks, hnext, -, h, hvisits, -⟩ | hturned
  · -- The node is one of the workflow, so it is none of those that change the store.
    obtain ⟨path, hwalk⟩ := Workflow.mem_walk_of_nodeAt? (hplaced.tasks _ hnext)
    have htype : n.head.type ∉ Plugin.storeTypes := fun hmem => hnodes ⟨_, hwalk, hmem⟩
    rw [h.store hplugins htype, hvisits, List.flatMap_append, List.flatMap_singleton]
    exact hs.put _ _
  · rw [hturned.store, hturned.visits]
    exact hs

end

/-- In a workflow whose nodes do not change the store on their own, and with plugins that
leave it alone, the store holds at any time what the nodes that the run has come to have
written last. -/
theorem Workflow.Reaches.holdsLast {session : Session} {registry : Registry} {w : Workflow}
    {world : World} (hnodes : ¬w.Uses Plugin.storeTypes)
    (hplugins : registry.KeepsStore session) {s : State}
    (h : w.Reaches session registry world s) :
    s.world.store.HoldsLast (s.visits.flatMap Visit.writes) ∧
      ∃ s', Steps session registry s s' ∧ s'.agenda = [] ∧
        (s'.outcome, s'.world) = (run session registry w).run world := by
  have hlast := h.invariant (I := fun s => s.world.store.HoldsLast (s.visits.flatMap Visit.writes))
    Store.HoldsLast.empty fun _ _ hreaches hmove hs =>
      hmove.keepsLast hreaches.placed hplugins hnodes hs
  exact ⟨hlast, h.leads_end⟩

/-- The end of a run of the standard workflow with the plugins that there are. -/
theorem Workflow.standard_holdsLast :
    let session := Rehearsal.session ⟨false, true, false⟩ ⟨[]⟩ [("echo", .echoes)]
    let replies := [
      Reply.message (Message.requesting [ToolCall.new "1" "echo" ""]),
      Reply.message (Message.assistant "done")]
    let world : World :=
      ⟨{ (default : Site) with rehearsal := ⟨replies, [], 0⟩ }, Store.empty, []⟩
    ∃ s, standard.Reaches session Registry.builtin world s ∧ s.agenda = [] ∧
      s.world.store.HoldsLast (s.visits.flatMap Visit.writes) := by
  intro session replies world
  have hnodes : ¬standard.Uses Plugin.storeTypes := by
    decide
  obtain ⟨s, hs, hagenda, -⟩ := reaches_end session Registry.builtin standard world
  exact ⟨s, hs, hagenda, (Reaches.holdsLast hnodes (Registry.keepsStore_builtin session) hs).1⟩

end AgentWorkflow
